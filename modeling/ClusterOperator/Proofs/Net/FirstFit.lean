import ClusterOperator.Proofs.Net.Carving

/-!
# The search takes the lowest free block

A block is free in a network if it has the wanted size, is aligned, lies inside and has no
address in common with those taken.  Whenever the search passes a taken block over, every
free block above the address it came from lies above that taken block as well, and the next
address is the lowest aligned one there; so the search never skips a free block.  It never
gives up early either, because each of its steps leaves one more of the taken blocks behind
for good (`exists_searchFree`).  Hence `firstFree` finds a block if there is a free one, and
finds the lowest (`firstFree_eq_ok_iff`).
-/

namespace ClusterOperator.Net

variable {parent b o t : Block} {taken : List Block} {maskLength address steps n m size : Nat}

/-- The block has the wanted size, is aligned, lies inside the network, and overlaps none of
those taken. -/
def IsFree (parent : Block) (maskLength : Nat) (taken : List Block) (b : Block) : Prop :=
  b.maskLength = maskLength ∧ b.Aligned ∧ b.Within parent ∧ ∀ t ∈ taken, b.Apart t

/-- The block is free, and no free block begins below it. -/
def IsLowestFree (parent : Block) (maskLength : Nat) (taken : List Block) (b : Block) : Prop :=
  IsFree parent maskLength taken b ∧ ∀ o, IsFree parent maskLength taken o → b.base ≤ o.base

/-! ## Blocks of one size -/

/-- The aligned address is the least one that is not below. -/
theorem alignUp_le (hsize : 0 < size) (hle : n ≤ m) (hdvd : size ∣ m) : alignUp size n ≤ m := by
  obtain ⟨k, rfl⟩ := hdvd
  have hlt : (n + size - 1) / size < k + 1 := by
    rw [Nat.div_lt_iff_lt_mul hsize, Nat.mul_comm, Nat.mul_succ]
    omega
  rw [alignUp, Nat.mul_comm]
  exact Nat.mul_le_mul_left size (Nat.le_of_lt_succ hlt)

theorem Block.size_eq_of_mask (h : b.maskLength = o.maskLength) : b.size = o.size := by
  rw [Block.size, Block.size, h]

/-- An aligned block is known by its base and its mask. -/
theorem Block.eq_of_base (hb : b.Aligned) (ho : o.Aligned) (hmask : b.maskLength = o.maskLength)
    (hbase : b.base = o.base) : b = o := by
  rw [Block.base_eq_of_aligned hb, Block.base_eq_of_aligned ho] at hbase
  cases b
  cases o
  simp_all

/-- Two multiples of a size that are not the same are at least that far apart. -/
theorem add_le_of_dvd (hn : size ∣ n) (hm : size ∣ m) (h : n < m) : n + size ≤ m := by
  have hgap : size ≤ m - n := Nat.le_of_dvd (Nat.sub_pos_of_lt h) (Nat.dvd_sub hm hn)
  omega

/-- Of two blocks of one size the upper one begins where the lower one ends, or above. -/
theorem Block.limit_le_base (hmask : b.maskLength = o.maskLength) (h : b.base < o.base) :
    b.limit ≤ o.base :=
  add_le_of_dvd b.size_dvd_base (Block.size_eq_of_mask hmask ▸ o.size_dvd_base) h

/-- A block apart from another one that begins not above it begins where that one ends, or
above. -/
theorem Block.Apart.limit_le_base (h : o.Apart t) (hle : t.base ≤ o.base) : t.limit ≤ o.base := by
  refine Nat.le_of_not_lt fun hlt => ?_
  exact h o.base ⟨o.contains_base, Block.contains_iff.mpr ⟨hle, hlt⟩⟩

/-! ## The search -/

/-- The taken blocks that end above an address. -/
def countAbove (address : Nat) (taken : List Block) : Nat :=
  taken.countP fun t => decide (address < t.limit)

/-- The search goes on with one taken block less above it. -/
theorem countAbove_lt (ht : t ∈ taken) (hbelow : address < t.limit) (habove : t.limit ≤ n) :
    countAbove n taken < countAbove address taken := by
  obtain ⟨front, back, rfl⟩ := List.append_of_mem ht
  have hmono : ∀ l : List Block, countAbove n l ≤ countAbove address l := fun l =>
    List.countP_mono_left fun u _ hu => by
      simp only [decide_eq_true_eq] at hu ⊢
      omega
  have hfront := hmono front
  have hback := hmono back
  simp only [countAbove, List.countP_append, List.countP_cons, decide_eq_true_eq, if_pos hbelow,
    if_neg (Nat.not_lt.mpr habove)] at hfront hback ⊢
  omega

/-- A taken block in the way of an address is left behind by the free blocks above the
address. -/
theorem limit_le_of_blocked {candidate : Block} (hmask : candidate.maskLength = o.maskLength)
    (hover : candidate.overlaps t = true) (hapart : o.Apart t) (hle : candidate.base ≤ o.base) :
    t.limit ≤ o.base := by
  obtain ⟨x, hx, hxt⟩ := Block.overlaps_iff.mp hover
  rw [Block.contains_iff] at hx hxt
  refine hapart.limit_le_base ?_
  rcases Nat.eq_or_lt_of_le hle with heq | hlt
  · -- At the address itself the free block would overlap as the candidate does.
    have hxo : o.contains x = true := by
      rw [Block.contains_iff, Block.limit, ← heq, ← Block.size_eq_of_mask hmask]
      exact hx
    exact absurd ⟨hxo, Block.contains_iff.mpr hxt⟩ (hapart x)
  · have hend := Block.limit_le_base hmask hlt
    omega

/-- **The search misses no free block**: if one begins at the address or above, the search
finds one that does not begin above it. -/
theorem exists_searchFree (hsteps : countAbove address taken < steps)
    (haligned : Nat.pow 2 (32 - maskLength) ∣ address) (ho : IsFree parent maskLength taken o)
    (hle : address ≤ o.base) :
    ∃ b, searchFree parent maskLength taken steps address = some b ∧ b.base ≤ o.base := by
  obtain ⟨rfl, hoaligned, hwithin, hapart⟩ := ho
  induction steps generalizing address with
  | zero => omega
  | succ steps ih =>
    have hinside := Block.contains_iff.mp (hwithin o.base o.contains_base)
    have hrange : address < Nat.pow 2 32 ∧ o.maskLength ≤ 32 := by
      have hlt := o.address_lt
      rw [← Block.base_eq_of_aligned hoaligned] at hlt
      exact ⟨by omega, o.mask_le⟩
    let candidate : Block := ⟨address, o.maskLength, hrange.1, hrange.2⟩
    have hparts : Block.ofParts? address o.maskLength = some candidate := dif_pos hrange
    have hbase : candidate.base = address := Block.base_eq_of_aligned haligned
    rw [searchFree, if_neg (by omega), hparts]
    dsimp only
    split
    · exact ⟨candidate, rfl, hbase ▸ hle⟩
    · -- The search goes on above the block in the way, and so do the free blocks.
      rename_i t hblocked
      have hover : candidate.overlaps t = true := List.find?_some hblocked
      have ht : t ∈ taken := List.mem_of_find?_eq_some hblocked
      have hbelow : address < t.limit := hbase ▸ Block.base_lt_limit_of_overlaps hover
      have hmask : candidate.maskLength = o.maskLength := rfl
      have hlimit : t.limit ≤ o.base :=
        limit_le_of_blocked hmask hover (hapart t ht) (by omega)
      have hcount := countAbove_lt ht hbelow (le_alignUp candidate.size_pos)
      have hnext : alignUp candidate.size t.limit ≤ o.base :=
        alignUp_le candidate.size_pos hlimit o.size_dvd_base
      exact ih (by omega) hnext (dvd_alignUp _ _)

/-! ## The first free block -/

/-- Blocks of a longer mask are aligned in a network. -/
theorem Block.pow_dvd_base (hmask : parent.maskLength ≤ maskLength) :
    Nat.pow 2 (32 - maskLength) ∣ parent.base :=
  Nat.dvd_trans (Nat.pow_dvd_pow 2 (Nat.sub_le_sub_left hmask 32)) parent.size_dvd_base

theorem exists_firstFree (hmask : parent.maskLength ≤ maskLength)
    (ho : IsFree parent maskLength taken o) :
    ∃ b, firstFree parent maskLength taken = .ok b ∧ b.base ≤ o.base := by
  have hinside := Block.contains_iff.mp (ho.2.2.1 o.base o.contains_base)
  obtain ⟨b, hb, hle⟩ := exists_searchFree (Nat.lt_succ_of_le List.countP_le_length)
    (Block.pow_dvd_base hmask) ho hinside.1
  refine ⟨b, ?_, hle⟩
  rw [firstFree, if_neg (Nat.not_lt.mpr hmask)]
  simp only [hb]

/-- **The first free block is the lowest free block.** -/
theorem firstFree_eq_ok_iff :
    firstFree parent maskLength taken = .ok b ↔
      parent.maskLength ≤ maskLength ∧ IsLowestFree parent maskLength taken b := by
  constructor
  · intro h
    have hmask : parent.maskLength ≤ maskLength := by
      rw [firstFree] at h
      split at h
      · cases h
      · omega
    refine ⟨hmask, firstFree_eq_ok h, fun o ho => ?_⟩
    obtain ⟨b', hb', hle⟩ := exists_firstFree hmask ho
    rw [h] at hb'
    cases hb'
    exact hle
  · rintro ⟨hmask, hfree, hlowest⟩
    obtain ⟨b', hb', hle⟩ := exists_firstFree hmask hfree
    -- What is found is free too, so it does not begin below the lowest.
    have hfree' : IsFree parent maskLength taken b' := firstFree_eq_ok hb'
    have hbase : b'.base = b.base := Nat.le_antisymm hle (hlowest b' hfree')
    rw [hb', Block.eq_of_base hfree'.2.1 hfree.2.1 (hfree'.1.trans hfree.1.symm) hbase]

/-- **If no block is free**, that is what the failure says. -/
theorem firstFree_eq_exhausted (hmask : parent.maskLength ≤ maskLength)
    (h : ∀ o, ¬IsFree parent maskLength taken o) :
    firstFree parent maskLength taken = .error (exhausted parent maskLength) := by
  rw [firstFree, if_neg (Nat.not_lt.mpr hmask)]
  split
  · rename_i b hb
    have hok : firstFree parent maskLength taken = .ok b := by
      rw [firstFree, if_neg (Nat.not_lt.mpr hmask), hb]
    exact absurd (firstFree_eq_ok hok) (h b)
  · rfl

theorem firstFree_eq_invalid (hmask : maskLength < parent.maskLength) :
    ∃ text, firstFree parent maskLength taken = .error (.invalid text) := by
  rw [firstFree, if_pos hmask]
  exact ⟨_, rfl⟩

end ClusterOperator.Net
