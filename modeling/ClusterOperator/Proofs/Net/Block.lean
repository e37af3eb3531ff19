import ClusterOperator.Net.Block

/-!
# Blocks as sets of addresses

A block stands for the addresses from its base up to its limit.  Two blocks overlap, as
the test on their bases has it, exactly if they have an address in common, whatever their
sizes are.  Sizes are powers of two, so the larger of two sizes is a multiple of the
smaller, and a block that begins at a multiple of its size inside a larger one ends inside
it too.
-/

namespace ClusterOperator.Net.Block

variable {a b : Block} {x : Nat}

/-- The block begins at a multiple of its size. -/
def Aligned (b : Block) : Prop := b.size ∣ b.address

theorem size_pos (b : Block) : 0 < b.size := Nat.pow_pos (Nat.succ_pos 1)

theorem size_dvd_base (b : Block) : b.size ∣ b.base := Nat.dvd_sub_mod b.address

theorem base_eq_of_aligned (h : b.Aligned) : b.base = b.address := by
  rw [base, Nat.mod_eq_zero_of_dvd h, Nat.sub_zero]

theorem contains_iff : b.contains x = true ↔ b.base ≤ x ∧ x < b.limit := by
  simp [contains]

theorem contains_base (b : Block) : b.contains b.base = true := by
  have hpos := b.size_pos
  rw [contains_iff, limit]
  omega

/-! ## Clearing the bits below the mask -/

@[simp] theorem size_truncated (b : Block) : b.truncated.size = b.size := rfl

theorem aligned_truncated (b : Block) : b.truncated.Aligned := b.size_dvd_base

@[simp] theorem base_truncated (b : Block) : b.truncated.base = b.base :=
  base_eq_of_aligned b.aligned_truncated

@[simp] theorem limit_truncated (b : Block) : b.truncated.limit = b.limit := by
  rw [limit, limit, base_truncated, size_truncated]

/-- The bits of the base are those of the address from the mask upwards. -/
theorem testBit_base (b : Block) (i : Nat) :
    b.base.testBit i = (decide (32 - b.maskLength ≤ i) && b.address.testBit i) := by
  have hbase : b.base = (b.address >>> (32 - b.maskLength)) <<< (32 - b.maskLength) := by
    rw [Nat.shiftLeft_eq, Nat.shiftRight_eq_div_pow]
    exact Nat.eq_sub_of_add_eq (Nat.div_add_mod' _ _) ▸ rfl
  rw [hbase, Nat.testBit_shiftLeft, Nat.testBit_shiftRight]
  by_cases hi : 32 - b.maskLength ≤ i
  · rw [Nat.add_sub_of_le hi]
  · simp [hi]

/-! ## Two blocks -/

/-- **The overlap test finds exactly the blocks that have an address in common.** -/
theorem overlaps_iff :
    a.overlaps b = true ↔ ∃ x, a.contains x = true ∧ b.contains x = true := by
  rw [overlaps, Bool.or_eq_true]
  constructor
  · rintro (h | h)
    · exact ⟨b.base, h, b.contains_base⟩
    · exact ⟨a.base, a.contains_base, h⟩
  · rintro ⟨x, ha, hb⟩
    rw [contains_iff] at ha hb
    -- The greater of the two bases lies below `x`, so in both blocks.
    rcases Nat.le_total a.base b.base with hle | hle
    · refine .inl (contains_iff.mpr ?_)
      omega
    · refine .inr (contains_iff.mpr ?_)
      omega

/-- A longer mask means a size that divides. -/
theorem size_dvd_size (h : a.maskLength ≤ b.maskLength) : b.size ∣ a.size :=
  Nat.pow_dvd_pow 2 (Nat.sub_le_sub_left h 32)

/-- A block of a longer mask that begins inside a block ends inside it. -/
theorem limit_le_of_base_lt (hmask : a.maskLength ≤ b.maskLength) (h : b.base < a.limit) :
    b.limit ≤ a.limit := by
  have hsize : b.size ∣ a.size := size_dvd_size hmask
  -- Both ends are multiples of the smaller size, so they are at least that far apart.
  obtain ⟨m, hm⟩ : b.size ∣ a.limit := Nat.dvd_add (Nat.dvd_trans hsize a.size_dvd_base) hsize
  obtain ⟨n, hn⟩ := b.size_dvd_base
  rw [hm, hn] at h
  have hlt : n < m := Nat.lt_of_mul_lt_mul_left h
  calc b.limit = b.size * (n + 1) := by rw [limit, hn, Nat.mul_succ]
    _ ≤ b.size * m := Nat.mul_le_mul_left _ hlt
    _ = a.limit := hm.symm

/-- Every address of the one block is one of the other. -/
def Within (b a : Block) : Prop := ∀ x, b.contains x = true → a.contains x = true

theorem within_of_le (hbase : a.base ≤ b.base) (hlimit : b.limit ≤ a.limit) : b.Within a := by
  intro x hx
  rw [contains_iff] at hx ⊢
  omega

/-- No address belongs to both blocks. -/
def Apart (a b : Block) : Prop := ∀ x, ¬(a.contains x = true ∧ b.contains x = true)

theorem apart_iff : a.Apart b ↔ a.overlaps b = false := by
  rw [← Bool.not_eq_true, overlaps_iff, not_exists]
  rfl

theorem Apart.symm (h : a.Apart b) : b.Apart a := fun x hx => h x hx.symm

end ClusterOperator.Net.Block
