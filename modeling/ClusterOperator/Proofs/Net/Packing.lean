import ClusterOperator.Proofs.Net.FirstFit

/-!
# Which networks can be carved, and how the blocks lie

The blocks are packed from the base of the network upwards: the masters at the base, the
workers above them, the gateway above the workers.  Below each of them every block of its size
overlaps one that was taken before, and from there on everything is free up to the middle of
the network, where the half of the pods begins.  So a block is found exactly if its place lies
below the middle (`firstFree_of_packed`), and sizes and network decide the outcome
(`packs_compute`).
-/

namespace ClusterOperator.Net

variable {network parent b o t calico master worker : Block} {sizes : CarvingSizes}
  {taken : List Block} {maskLength address m n : Nat}

/-! ## Powers of two -/

/-- How many addresses a block of a mask length has. -/
def blockSize (maskLength : Nat) : Nat := Nat.pow 2 (32 - maskLength)

theorem Block.size_eq_blockSize (b : Block) : b.size = blockSize b.maskLength := rfl

theorem blockSize_pos (n : Nat) : 0 < blockSize n := Nat.pow_pos (Nat.succ_pos 1)

theorem blockSize_dvd_blockSize (h : m ≤ n) : blockSize n ∣ blockSize m :=
  Nat.pow_dvd_pow 2 (Nat.sub_le_sub_left h 32)

theorem blockSize_le_blockSize (h : m ≤ n) : blockSize n ≤ blockSize m :=
  Nat.pow_le_pow_right (Nat.succ_pos 1) (Nat.sub_le_sub_left h 32)

theorem blockSize_lt_iff (hn : n ≤ 32) : blockSize n < blockSize m ↔ m < n := by
  refine ⟨fun h => ?_, fun h => Nat.pow_lt_pow_right (Nat.lt_succ_self 1) (by omega)⟩
  exact Nat.lt_of_not_le fun hle => Nat.not_lt.mpr (blockSize_le_blockSize hle) h

/-- A longer mask by one halves the size. -/
theorem blockSize_eq_twice (h : n < 32) : blockSize n = 2 * blockSize (n + 1) := by
  have hshift : 32 - n = 32 - (n + 1) + 1 := by omega
  rw [blockSize, blockSize, hshift, Nat.mul_comm]
  rfl

/-- The size of the larger of two blocks is a multiple of both. -/
theorem blockSize_dvd_max (m n : Nat) : blockSize n ∣ max (blockSize m) (blockSize n) := by
  rcases Nat.le_total m n with hmn | hmn
  · rw [Nat.max_eq_left (blockSize_le_blockSize hmn)]
    exact blockSize_dvd_blockSize hmn
  · have hmax := Nat.max_eq_right (blockSize_le_blockSize hmn)
    simp only [hmax, Nat.dvd_refl]

theorem Block.limit_le (b : Block) : b.limit ≤ Nat.pow 2 32 := by
  have hdvd : b.size ∣ Nat.pow 2 32 := Nat.pow_dvd_pow 2 (Nat.sub_le 32 b.maskLength)
  have hbase : b.base < Nat.pow 2 32 := Nat.lt_of_le_of_lt (Nat.sub_le _ _) b.address_lt
  exact add_le_of_dvd b.size_dvd_base hdvd hbase

/-! ## One block after the other -/

/-- The middle of a network, where the half of the pods begins. -/
def Block.middle (parent : Block) : Nat := parent.base + parent.size / 2

/-- A block of the size of the network is never free beside the half of the pods. -/
theorem not_isFree_of_whole (hcalico : upperHalf parent = .ok calico) (hmem : calico ∈ taken) :
    ¬IsFree parent parent.maskLength taken o := by
  rintro ⟨hmask, -, hwithin, hapart⟩
  obtain ⟨-, -, -, hlimit⟩ := upperHalf_eq_ok hcalico
  have hsize := Block.size_eq_of_mask hmask
  have hpos := o.size_pos
  have hbase := Block.contains_iff.mp (hwithin o.base o.contains_base)
  -- The last address of the network belongs to both.
  have hlast : o.contains (o.limit - 1) = true := by
    rw [Block.contains_iff, Block.limit]
    omega
  have hin := Block.contains_iff.mp (hwithin _ hlast)
  have hhalf := calico.size_pos
  refine hapart calico hmem _ ⟨hlast, Block.contains_iff.mpr ?_⟩
  simp only [Block.limit] at hin hlimit hbase ⊢
  omega

/-- What has been taken leaves no room for a block of a size below an address, and does not
reach above it except for the half of the pods. -/
structure Packed (parent calico : Block) (taken : List Block) (maskLength address : Nat) :
    Prop where
  half : upperHalf parent = .ok calico
  mem : calico ∈ taken
  base_le : parent.base ≤ address
  aligned : blockSize maskLength ∣ address
  ends : ∀ t ∈ taken, t = calico ∨ t.limit ≤ address
  blocks : ∀ o : Block, o.maskLength = maskLength → parent.base ≤ o.base → o.base < address →
    ∃ t ∈ taken, ¬o.Apart t

/-- The block at an address below the middle lies below the middle. -/
theorem Packed.limit_le (h : Packed parent calico taken maskLength address)
    (hmask : parent.maskLength < maskLength) (hle : maskLength ≤ 32)
    (hbelow : address < parent.middle) : address + blockSize maskLength ≤ parent.middle := by
  have hhalf : parent.size = 2 * blockSize (parent.maskLength + 1) := blockSize_eq_twice (by omega)
  have hdvd : blockSize maskLength ∣ parent.middle := by
    rw [Block.middle, hhalf, Nat.mul_div_cancel_left _ (Nat.succ_pos 1)]
    exact Nat.dvd_add (Block.pow_dvd_base (Nat.le_of_lt hmask)) (blockSize_dvd_blockSize hmask)
  exact add_le_of_dvd h.aligned hdvd hbelow

/-- **A block is found at its place**, if that lies below the middle; else none is. -/
theorem firstFree_of_packed (h : Packed parent calico taken maskLength address)
    (hmask : parent.maskLength < maskLength) (hle : maskLength ≤ 32) :
    (parent.middle ≤ address ∧
      firstFree parent maskLength taken = .error (exhausted parent maskLength)) ∨
    (address < parent.middle ∧
      ∃ b, firstFree parent maskLength taken = .ok b ∧ b.maskLength = maskLength ∧
        b.base = address) := by
  obtain ⟨-, -, hcbase, hclimit⟩ := upperHalf_eq_ok h.half
  have hpos := parent.size_pos
  rcases Nat.lt_or_ge address parent.middle with hbelow | habove
  · refine .inr ⟨hbelow, ?_⟩
    have hend := h.limit_le hmask hle hbelow
    have hlimit := parent.limit_le
    have hrange : address < Nat.pow 2 32 ∧ maskLength ≤ 32 := by
      simp only [Block.middle, Block.limit] at hbelow hlimit
      omega
    let place : Block := ⟨address, maskLength, hrange.1, hrange.2⟩
    have hbase : place.base = address := Block.base_eq_of_aligned h.aligned
    have hplace : place.limit = address + blockSize maskLength := by rw [Block.limit, hbase]; rfl
    have hinside : place.base < parent.limit := by
      simp only [Block.middle, Block.limit] at hbelow ⊢
      omega
    refine ⟨place, firstFree_eq_ok_iff.mpr ⟨Nat.le_of_lt hmask, ?_, ?_⟩, rfl, hbase⟩
    · refine ⟨rfl, h.aligned, ?_, fun t ht x hx => ?_⟩
      · exact Block.within_of_le (hbase ▸ h.base_le)
          (Block.limit_le_of_base_lt (Nat.le_of_lt hmask) hinside)
      · simp only [Block.contains_iff] at hx
        rcases h.ends t ht with rfl | hends
        · simp only [Block.middle] at hend
          omega
        · omega
    · rintro o ⟨homask, -, howithin, hoapart⟩
      refine Nat.le_of_not_lt fun hlt => ?_
      have hobase := Block.contains_iff.mp (howithin o.base o.contains_base)
      obtain ⟨t, ht, hblocked⟩ := h.blocks o homask hobase.1 (hbase ▸ hlt)
      exact hblocked (hoapart t ht)
  · refine .inl ⟨habove, firstFree_eq_exhausted (Nat.le_of_lt hmask) ?_⟩
    rintro o ⟨homask, -, howithin, hoapart⟩
    have hobase := Block.contains_iff.mp (howithin o.base o.contains_base)
    rcases Nat.lt_or_ge o.base address with hlt | hge
    · obtain ⟨t, ht, hblocked⟩ := h.blocks o homask hobase.1 hlt
      exact hblocked (hoapart t ht)
    · refine hoapart calico h.mem o.base ⟨o.contains_base, Block.contains_iff.mpr ?_⟩
      simp only [Block.middle] at habove
      omega

/-! ### The places of the three blocks -/

theorem packed_master (hcalico : upperHalf parent = .ok calico)
    (hmask : parent.maskLength < maskLength) :
    Packed parent calico [calico] maskLength parent.base where
  half := hcalico
  mem := List.mem_singleton_self calico
  base_le := Nat.le_refl _
  aligned := Block.pow_dvd_base (Nat.le_of_lt hmask)
  ends t ht := .inl (List.mem_singleton.mp ht)
  blocks o _ hge hlt := by omega

theorem packed_worker (hcalico : upperHalf parent = .ok calico)
    (hmaster : master.base = parent.base) (hmask : parent.maskLength < maskLength) :
    Packed parent calico [calico, master] maskLength
      (parent.base + max (blockSize master.maskLength) (blockSize maskLength)) where
  half := hcalico
  mem := List.mem_cons_self
  base_le := Nat.le_add_right _ _
  aligned := Nat.dvd_add (Block.pow_dvd_base (Nat.le_of_lt hmask)) (blockSize_dvd_max _ _)
  ends t ht := by
    simp only [List.mem_cons, List.not_mem_nil, or_false] at ht
    rcases ht with rfl | rfl
    · exact .inl rfl
    · rw [Block.limit, hmaster, Block.size_eq_blockSize]
      exact .inr (Nat.add_le_add_left (Nat.le_max_left _ _) _)
  blocks o homask hge hlt := by
    refine ⟨master, List.mem_cons_of_mem _ (List.mem_singleton_self _), fun hapart => ?_⟩
    -- Below the place of the workers a block begins among the masters, or at the base.
    have hend := hapart.limit_le_base (hmaster ▸ hge)
    rw [Block.limit, hmaster, Block.size_eq_blockSize] at hend
    have hmasters := blockSize_pos master.maskLength
    have hstep : parent.base + blockSize maskLength ≤ o.base :=
      add_le_of_dvd (Block.pow_dvd_base (Nat.le_of_lt hmask)) (homask ▸ o.size_dvd_base)
        (by omega)
    omega

theorem packed_vpn (h : Packed parent calico [calico, master] worker.maskLength worker.base) :
    Packed parent calico [calico, master, worker] worker.maskLength
      (worker.base + blockSize worker.maskLength) where
  half := h.half
  mem := List.mem_cons_self
  base_le := Nat.le_trans h.base_le (Nat.le_add_right _ _)
  aligned := Nat.dvd_add h.aligned (Nat.dvd_refl _)
  ends t ht := by
    simp only [List.mem_cons, List.not_mem_nil, or_false] at ht
    rcases ht with rfl | rfl | rfl
    · exact .inl rfl
    · exact (h.ends t (by simp)).imp id fun hends => Nat.le_trans hends (Nat.le_add_right _ _)
    · exact .inr (Nat.le_refl _)
  blocks o homask hge hlt := by
    rcases Nat.lt_or_ge o.base worker.base with hbelow | habove
    · obtain ⟨t, ht, hblocked⟩ := h.blocks o homask hge hbelow
      exact ⟨t, List.mem_append_left [worker] ht, hblocked⟩
    · refine ⟨worker, List.mem_append_right [calico, master] List.mem_cons_self, fun hapart => ?_⟩
      exact hapart o.base ⟨o.contains_base, Block.contains_iff.mpr ⟨habove, hlt⟩⟩

/-! ## How much room there is -/

theorem Block.middle_eq (hmask : parent.maskLength < 32) :
    parent.middle = parent.base + blockSize (parent.maskLength + 1) := by
  rw [Block.middle, Block.size_eq_blockSize, blockSize_eq_twice hmask,
    Nat.mul_div_cancel_left _ (Nat.succ_pos 1)]

/-- The place of the workers lies below the middle if both sizes are at most a quarter of the
network. -/
theorem room_worker_iff (hp : parent.maskLength < 32) (hm : m ≤ 32) (hn : n ≤ 32) :
    parent.base + max (blockSize m) (blockSize n) < parent.middle ↔
      parent.maskLength + 2 ≤ m ∧ parent.maskLength + 2 ≤ n := by
  rw [Block.middle_eq hp, Nat.add_lt_add_iff_left, Nat.max_lt, blockSize_lt_iff hm,
    blockSize_lt_iff hn]
  exact Iff.rfl

/-- The place of the gateway lies below the middle too if its size, that of the workers, is
below that of the masters, or small enough for three blocks of it. -/
theorem room_vpn_iff (hp : parent.maskLength < 32) (hm : m ≤ 32) (hn : n ≤ 32)
    (hpm : parent.maskLength + 2 ≤ m) (hpn : parent.maskLength + 2 ≤ n) :
    parent.base + max (blockSize m) (blockSize n) + blockSize n < parent.middle ↔
      m < n ∨ parent.maskLength + 3 ≤ n := by
  rw [Block.middle_eq hp, Nat.add_assoc, Nat.add_lt_add_iff_left]
  rcases Nat.lt_or_ge m n with hmn | hnm
  · -- Two blocks of the masters' size fit into the half, so one and a smaller one do.
    have hsmaller : blockSize n < blockSize m := (blockSize_lt_iff hn).mpr hmn
    have htwice : blockSize (m - 1) = 2 * blockSize (m - 1 + 1) := blockSize_eq_twice (by omega)
    rw [Nat.sub_add_cancel (by omega)] at htwice
    have hhalf : blockSize (m - 1) ≤ blockSize (parent.maskLength + 1) :=
      blockSize_le_blockSize (by omega)
    rw [Nat.max_eq_left (Nat.le_of_lt hsmaller)]
    exact iff_of_true (by omega) (.inl hmn)
  · have htwice : blockSize (n - 1) = 2 * blockSize (n - 1 + 1) := blockSize_eq_twice (by omega)
    rw [Nat.sub_add_cancel (by omega)] at htwice
    rw [Nat.max_eq_right (blockSize_le_blockSize hnm), ← Nat.two_mul, ← htwice,
      blockSize_lt_iff (by omega)]
    omega

/-! ## The outcome -/

namespace CarvingSizes

/-- The blocks of these sizes fit into a network beside the half of the pods. -/
def Fit (sizes : CarvingSizes) (maskLength : Nat) : Prop :=
  sizes.master ≤ 32 ∧ sizes.worker ≤ 32 ∧ maskLength ≤ 31 ∧
    (sizes.worker ≤ sizes.master ∧ maskLength + 3 ≤ sizes.worker ∨
      sizes.master < sizes.worker ∧ maskLength + 2 ≤ sizes.master)

/-- The sizes are no mask lengths, or the one that is looked at first is larger than the
network. -/
def Misfit (sizes : CarvingSizes) (maskLength : Nat) : Prop :=
  32 < sizes.master ∨ 32 < sizes.worker ∨ maskLength ≤ 31 ∧ sizes.master < maskLength ∨
    maskLength ≤ 31 ∧ maskLength < sizes.master ∧ sizes.worker < maskLength

theorem validate_cases (sizes : CarvingSizes) :
    ((32 < sizes.master ∨ 32 < sizes.worker) ∧ ∃ text, sizes.validate = .error (.invalid text)) ∨
      (sizes.master ≤ 32 ∧ sizes.worker ≤ 32 ∧ sizes.validate = .ok ()) := by
  simp only [validate, checkSize]
  by_cases hmaster : 32 < sizes.master
  · exact .inl ⟨.inl hmaster, by rw [if_pos hmaster]; exact ⟨_, rfl⟩⟩
  · rw [if_neg hmaster]
    by_cases hworker : 32 < sizes.worker
    · exact .inl ⟨.inr hworker, by rw [if_pos hworker]; exact ⟨_, rfl⟩⟩
    · exact .inr ⟨by omega, by omega, by rw [if_neg hworker]; rfl⟩

end CarvingSizes

theorem upperHalf_cases (parent : Block) :
    (31 < parent.maskLength ∧ upperHalf parent = .error (exhausted parent 33)) ∨
      (parent.maskLength ≤ 31 ∧ ∃ b, upperHalf parent = .ok b) := by
  have hle := parent.mask_le
  rcases Nat.lt_or_ge 31 parent.maskLength with hwhole | hhalf
  · have hmask : parent.maskLength + 1 = 33 := by omega
    exact .inl ⟨hwhole, by rw [upperHalf, hmask]; rfl⟩
  · refine .inr ⟨hhalf, ?_⟩
    have hlimit := parent.limit_le
    have hsize : parent.size = 2 * blockSize (parent.maskLength + 1) :=
      blockSize_eq_twice (by omega)
    have hpos := blockSize_pos (parent.maskLength + 1)
    have hrange : parent.base + Nat.pow 2 (32 - (parent.maskLength + 1)) < Nat.pow 2 32 ∧
        parent.maskLength + 1 ≤ 32 := by
      rw [Block.limit, hsize] at hlimit
      simp only [blockSize] at hlimit hpos
      omega
    rw [upperHalf]
    simp only [if_neg (Nat.not_lt.mpr hrange.2), Block.ofParts?, dif_pos hrange]
    exact ⟨_, rfl⟩

/-! ### Block by block -/

theorem master_cases (hcalico : upperHalf parent = .ok calico) (hp : parent.maskLength ≤ 31)
    (hm : m ≤ 32) :
    (m < parent.maskLength ∧ ∃ text, firstFree parent m [calico] = .error (.invalid text)) ∨
    (m = parent.maskLength ∧ firstFree parent m [calico] = .error (exhausted parent m)) ∨
    (parent.maskLength < m ∧ ∃ b, firstFree parent m [calico] = .ok b ∧ b.maskLength = m ∧
      b.base = parent.base) := by
  rcases Nat.lt_trichotomy m parent.maskLength with hlt | rfl | hgt
  · exact .inl ⟨hlt, firstFree_eq_invalid hlt⟩
  · exact .inr (.inl ⟨rfl, firstFree_eq_exhausted (Nat.le_refl _)
      fun o => not_isFree_of_whole hcalico (List.mem_singleton_self calico)⟩)
  · rcases firstFree_of_packed (packed_master hcalico hgt) hgt hm with ⟨habove, -⟩ | ⟨-, hfound⟩
    · -- The base always lies below the middle.
      have hhalf := blockSize_pos (parent.maskLength + 1)
      rw [Block.middle_eq (by omega)] at habove
      omega
    · exact .inr (.inr ⟨hgt, hfound⟩)

theorem worker_cases (hcalico : upperHalf parent = .ok calico) (hp : parent.maskLength ≤ 31)
    (hm : master.maskLength ≤ 32) (hmaster : master.base = parent.base) (hn : n ≤ 32) :
    (n < parent.maskLength ∧
      ∃ text, firstFree parent n [calico, master] = .error (.invalid text)) ∨
    (parent.maskLength ≤ n ∧
      ¬(parent.maskLength + 2 ≤ master.maskLength ∧ parent.maskLength + 2 ≤ n) ∧
      firstFree parent n [calico, master] = .error (exhausted parent n)) ∨
    ((parent.maskLength + 2 ≤ master.maskLength ∧ parent.maskLength + 2 ≤ n) ∧
      ∃ b, firstFree parent n [calico, master] = .ok b ∧ b.maskLength = n ∧
        b.base = parent.base + max (blockSize master.maskLength) (blockSize n)) := by
  rcases Nat.lt_trichotomy n parent.maskLength with hlt | rfl | hgt
  · exact .inl ⟨hlt, firstFree_eq_invalid hlt⟩
  · exact .inr (.inl ⟨Nat.le_refl _, by omega, firstFree_eq_exhausted (Nat.le_refl _)
      fun o => not_isFree_of_whole hcalico List.mem_cons_self⟩)
  · have hroom := room_worker_iff (Nat.lt_succ_of_le hp) hm hn
    rcases firstFree_of_packed (packed_worker hcalico hmaster hgt) hgt hn with
      ⟨habove, hnone⟩ | ⟨hbelow, hfound⟩
    · exact .inr (.inl ⟨Nat.le_of_lt hgt, fun h => Nat.not_lt.mpr habove (hroom.mpr h), hnone⟩)
    · exact .inr (.inr ⟨hroom.mp hbelow, hfound⟩)

theorem vpn_cases (hcalico : upperHalf parent = .ok calico) (hp : parent.maskLength ≤ 31)
    (hm : master.maskLength ≤ 32) (hmaster : master.base = parent.base)
    (hpm : parent.maskLength + 2 ≤ master.maskLength)
    (hpn : parent.maskLength + 2 ≤ worker.maskLength)
    (hworker : worker.base =
      parent.base + max (blockSize master.maskLength) (blockSize worker.maskLength)) :
    (¬(master.maskLength < worker.maskLength ∨ parent.maskLength + 3 ≤ worker.maskLength) ∧
      firstFree parent worker.maskLength [calico, master, worker] =
        .error (exhausted parent worker.maskLength)) ∨
    ((master.maskLength < worker.maskLength ∨ parent.maskLength + 3 ≤ worker.maskLength) ∧
      ∃ b, firstFree parent worker.maskLength [calico, master, worker] = .ok b ∧
        b.base = worker.base + blockSize worker.maskLength) := by
  have hgt : parent.maskLength < worker.maskLength := by omega
  have hpacked := packed_worker hcalico hmaster hgt
  rw [← hworker] at hpacked
  have hroom := room_vpn_iff (Nat.lt_succ_of_le hp) hm worker.mask_le hpm hpn
  rw [← hworker] at hroom
  rcases firstFree_of_packed (packed_vpn hpacked) hgt worker.mask_le with
    ⟨habove, hnone⟩ | ⟨hbelow, b, hfound, -, hbase⟩
  · exact .inl ⟨fun h => Nat.not_lt.mpr habove (hroom.mpr h), hnone⟩
  · exact .inr ⟨hroom.mp hbelow, b, hfound, hbase⟩

/-! ### All blocks -/

/-- The blocks of a carving begin at their places. -/
structure Carving.Placed (c : Carving) (network : Block) (sizes : CarvingSizes) : Prop where
  master : c.master.base = network.base
  worker : c.worker.base =
    network.base + max (Nat.pow 2 (32 - sizes.master)) (Nat.pow 2 (32 - sizes.worker))
  vpn : c.vpn.base = c.worker.base + Nat.pow 2 (32 - sizes.worker)

/-- A network is refused for the sizes, has no room for a block, or is carved. -/
theorem compute_cases (network : Block) (sizes : CarvingSizes) :
    (sizes.Misfit network.maskLength ∧
      ∃ text, Carving.compute network sizes = .error (.invalid text)) ∨
    (¬sizes.Misfit network.maskLength ∧ ¬sizes.Fit network.maskLength ∧
      ∃ n, Carving.compute network sizes = .error (exhausted network.truncated n)) ∨
    (sizes.Fit network.maskLength ∧
      ∃ c, Carving.compute network sizes = .ok c ∧ c.Placed network sizes) := by
  have hmask : network.maskLength = network.truncated.maskLength := rfl
  have hbase : network.base = network.truncated.base := network.base_truncated.symm
  rw [hmask]
  unfold CarvingSizes.Misfit CarvingSizes.Fit
  simp only [Carving.compute, bind, Except.bind]
  generalize network.truncated = parent at hbase ⊢
  rcases sizes.validate_cases with ⟨hlong, text, hvalid⟩ | ⟨hm, hn, hvalid⟩
  · rw [hvalid]
    exact .inl ⟨by omega, text, rfl⟩
  rw [hvalid]
  rcases upperHalf_cases parent with ⟨hp, hcalico⟩ | ⟨hp, calico, hcalico⟩
  · rw [hcalico]
    exact .inr (.inl ⟨by omega, by omega, 33, rfl⟩)
  rw [hcalico]
  rcases master_cases hcalico hp hm with
    ⟨hlt, text, hmaster⟩ | ⟨heq, hmaster⟩ | ⟨hgt, master, hmaster, hmmask, hmbase⟩
  · simp only [hmaster]
    exact .inl ⟨by omega, text, rfl⟩
  · simp only [hmaster]
    exact .inr (.inl ⟨by omega, by omega, _, rfl⟩)
  simp only [hmaster]
  rcases worker_cases hcalico hp (hmmask ▸ hm) hmbase hn with
    ⟨hlt, text, hworker⟩ | ⟨hge, hfull, hworker⟩ | ⟨⟨hpm, hpn⟩, worker, hworker, hwmask, hwbase⟩
  · simp only [hworker]
    exact .inl ⟨by omega, text, rfl⟩
  · simp only [hworker]
    exact .inr (.inl ⟨by omega, by omega, _, rfl⟩)
  simp only [hworker]
  rw [← hwmask] at hpn hwbase hn ⊢
  rcases vpn_cases hcalico hp (hmmask ▸ hm) hmbase hpm hpn hwbase with
    ⟨hfull, hvpn⟩ | ⟨hroom, vpn, hvpn, hvbase⟩
  · simp only [hvpn]
    exact .inr (.inl ⟨by omega, by omega, _, rfl⟩)
  · simp only [hvpn]
    refine .inr (.inr ⟨by omega, _, rfl, ?_, ?_, ?_⟩)
    · exact hmbase.trans hbase.symm
    · rw [hbase, ← hmmask, ← hwmask]
      exact hwbase
    · rw [← hwmask]
      exact hvbase

/-- **The outcome of carving a network**, for all mask lengths. -/
structure Packs (network : Block) (sizes : CarvingSizes) (r : Except Failure Carving) : Prop where
  /-- The network is carved exactly if the blocks fit. -/
  carved_iff : (∃ c, r = .ok c) ↔ sizes.Fit network.maskLength
  /-- Then the blocks begin at their places, -/
  placed : ∀ c, r = .ok c → c.Placed network sizes
  /-- and each is the lowest that was free when it was taken. -/
  lowest : ∀ c, r = .ok c →
    IsLowestFree network.truncated sizes.master [c.calico] c.master ∧
      IsLowestFree network.truncated sizes.worker [c.calico, c.master] c.worker ∧
      IsLowestFree network.truncated sizes.worker [c.calico, c.master, c.worker] c.vpn
  /-- A failure is about the sizes if they do not suit the network, -/
  misfit_iff : ∀ e, r = .error e →
    ((∃ cluster text field, e = .validation cluster text field) ↔ sizes.Misfit network.maskLength)
  /-- and otherwise says that there is no room for a block of some size. -/
  exhausted : ∀ e, r = .error e → ¬sizes.Misfit network.maskLength →
    ∃ maskLength, e = .subnetSpaceExhausted network.truncated.toText maskLength

/-- **Every network is carved if the blocks fit**, as low as they can be, and refused for the
right reason if not. -/
theorem packs_compute (network : Block) (sizes : CarvingSizes) :
    Packs network sizes (Carving.compute network sizes) := by
  have hlowest : ∀ c, Carving.compute network sizes = .ok c →
      IsLowestFree network.truncated sizes.master [c.calico] c.master ∧
        IsLowestFree network.truncated sizes.worker [c.calico, c.master] c.worker ∧
        IsLowestFree network.truncated sizes.worker [c.calico, c.master, c.worker] c.vpn := by
    intro c hc
    obtain ⟨-, hparent, -, hmaster, hworker, hvpn⟩ := compute_eq_ok_iff.mp hc
    rw [hparent] at hmaster hworker hvpn
    exact ⟨(firstFree_eq_ok_iff.mp hmaster).2, (firstFree_eq_ok_iff.mp hworker).2,
      (firstFree_eq_ok_iff.mp hvpn).2⟩
  rcases compute_cases network sizes with ⟨hmisfit, text, hr⟩ | ⟨hsuits, hfull, n, hr⟩ |
    ⟨hfit, c, hr, hplaced⟩
  · have hfull : ¬sizes.Fit network.maskLength := by
      unfold CarvingSizes.Misfit at hmisfit
      unfold CarvingSizes.Fit
      omega
    refine ⟨iff_of_false (by simp [hr]) hfull, by simp [hr], hlowest, ?_, ?_⟩
    · rintro e he
      cases hr.symm.trans he
      exact iff_of_true ⟨_, _, _, rfl⟩ hmisfit
    · exact fun _ _ hsuits => absurd hmisfit hsuits
  · refine ⟨iff_of_false (by simp [hr]) hfull, by simp [hr], hlowest, ?_, ?_⟩
    · rintro e he
      cases hr.symm.trans he
      exact iff_of_false nofun hsuits
    · rintro e he -
      cases hr.symm.trans he
      exact ⟨n, rfl⟩
  · refine ⟨iff_of_true ⟨c, hr⟩ hfit, ?_, hlowest, by simp [hr], by simp [hr]⟩
    rintro c' hc'
    cases hr.symm.trans hc'
    exact hplaced

end ClusterOperator.Net
