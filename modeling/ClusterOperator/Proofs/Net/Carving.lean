import ClusterOperator.Net.Carving
import ClusterOperator.Proofs.Net.Block

/-!
# What a carved network looks like

A search for a free block goes up from the base of the network, always at a multiple of the
wanted size, and stops at a block that none of those taken overlaps; it never leaves the
network, because the sizes of both are powers of two (`searchFree_eq_some`).  Together with
the half that is set aside for the pods this gives the layout of every network that can be
carved (`layout_of_compute`), for all mask lengths from 0 to 32.
-/

namespace ClusterOperator.Net

variable {parent network b : Block} {sizes : CarvingSizes} {c : Carving} {taken : List Block}
  {maskLength address steps n size : Nat}

/-! ## Searching for a free block -/

theorem dvd_alignUp (size n : Nat) : size ∣ alignUp size n := Nat.dvd_mul_left _ _

theorem le_alignUp (hsize : 0 < size) : n ≤ alignUp size n := by
  have hdiv := Nat.div_add_mod (n + size - 1) size
  have hmod := Nat.mod_lt (n + size - 1) hsize
  rw [Nat.mul_comm] at hdiv
  rw [alignUp]
  omega

/-- A taken block in the way ends above the address that it blocks. -/
theorem Block.base_lt_limit_of_overlaps {a t : Block} (h : a.overlaps t = true) :
    a.base < t.limit := by
  obtain ⟨x, ha, ht⟩ := Block.overlaps_iff.mp h
  rw [Block.contains_iff] at ha ht
  omega

theorem Block.ofParts?_eq_some (h : Block.ofParts? address maskLength = some b) :
    b.address = address ∧ b.maskLength = maskLength := by
  unfold Block.ofParts? at h
  split at h
  · cases h
    exact ⟨rfl, rfl⟩
  · cases h

/-- **A block that the search finds** is aligned, lies inside the network, and overlaps
none of those taken. -/
theorem searchFree_eq_some (hmask : parent.maskLength ≤ maskLength)
    (haligned : Nat.pow 2 (32 - maskLength) ∣ address) (hstart : parent.base ≤ address)
    (h : searchFree parent maskLength taken steps address = some b) :
    b.maskLength = maskLength ∧ b.Aligned ∧ b.Within parent ∧ ∀ t ∈ taken, b.Apart t := by
  induction steps generalizing address with
  | zero => cases h
  | succ steps ih =>
    rw [searchFree] at h
    split at h
    · cases h
    · rename_i hinside
      split at h
      · cases h
      · rename_i candidate hparts
        obtain ⟨rfl, rfl⟩ := Block.ofParts?_eq_some hparts
        have hbase : candidate.base = candidate.address := Block.base_eq_of_aligned haligned
        split at h
        · rename_i hfree
          cases h
          refine ⟨rfl, haligned, ?_, ?_⟩
          · have hlt : b.base < parent.limit := by omega
            exact Block.within_of_le (by omega) (Block.limit_le_of_base_lt hmask hlt)
          · intro t ht
            exact Block.apart_iff.mpr (Bool.eq_false_iff.mpr (List.find?_eq_none.mp hfree t ht))
        · -- The search goes on above the block in the way, so not below where it was.
          rename_i t hblocked
          have hover : candidate.overlaps t = true := List.find?_some hblocked
          have hlimit := Block.base_lt_limit_of_overlaps hover
          have hnext : parent.base ≤ alignUp candidate.size t.limit :=
            Nat.le_trans (by omega) (le_alignUp candidate.size_pos)
          exact ih (dvd_alignUp _ _) hnext h

/-- **The lowest free block**, where there is one, has the wanted size, is aligned, lies
inside the network, and has no address in common with those taken. -/
theorem firstFree_eq_ok (h : firstFree parent maskLength taken = .ok b) :
    b.maskLength = maskLength ∧ b.Aligned ∧ b.Within parent ∧ ∀ t ∈ taken, b.Apart t := by
  unfold firstFree at h
  split at h
  · cases h
  · rename_i hmask
    split at h
    · rename_i hsearch
      cases h
      have hsize : Nat.pow 2 (32 - maskLength) ∣ parent.size :=
        Nat.pow_dvd_pow 2 (Nat.sub_le_sub_left (Nat.le_of_not_lt hmask) 32)
      exact searchFree_eq_some (Nat.le_of_not_lt hmask)
        (Nat.dvd_trans hsize parent.size_dvd_base) (Nat.le_refl _) hsearch
    · cases h

/-! ## The half for the pods -/

/-- **The upper half** of a network begins in the middle of it and ends where it ends. -/
theorem upperHalf_eq_ok (h : upperHalf parent = .ok b) :
    b.maskLength = parent.maskLength + 1 ∧ b.Aligned ∧
      b.base = parent.base + parent.size / 2 ∧ b.limit = parent.limit := by
  unfold upperHalf at h
  dsimp only at h
  split at h
  · cases h
  · rename_i hhalf
    split at h
    · rename_i half hparts
      cases h
      obtain ⟨haddress, hmask⟩ := Block.ofParts?_eq_some hparts
      -- The network has twice the size of its half, so the half is aligned in it.
      have hsize : parent.size = b.size * 2 := by
        have hshift : 32 - parent.maskLength = 32 - (parent.maskLength + 1) + 1 := by omega
        rw [Block.size, Block.size, hmask, hshift]
        rfl
      have hdvd : b.Aligned := by
        have hlow : b.size ∣ parent.base :=
          Nat.dvd_trans ⟨2, hsize⟩ parent.size_dvd_base
        rw [Block.Aligned, haddress, ← hmask]
        exact Nat.dvd_add hlow (Nat.dvd_refl _)
      have hbase : b.base = parent.base + b.size := by
        rw [Block.base_eq_of_aligned hdvd, haddress, ← hmask]
        rfl
      refine ⟨hmask, hdvd, ?_, ?_⟩
      · omega
      · rw [Block.limit, Block.limit]
        omega
    · cases h

/-! ## The whole carving -/

theorem bind_eq_ok_iff {α β : Type} {x : Except Failure α} {f : α → Except Failure β} {y : β} :
    (x >>= f) = .ok y ↔ ∃ a, x = .ok a ∧ f a = .ok y := by
  cases x <;> simp [bind, Except.bind]

/-- A network is carved if every part of it can be found. -/
theorem compute_eq_ok_iff :
    Carving.compute network sizes = .ok c ↔
      sizes.validate = .ok () ∧ c.parent = network.truncated ∧
        upperHalf c.parent = .ok c.calico ∧
        firstFree c.parent sizes.master [c.calico] = .ok c.master ∧
        firstFree c.parent sizes.worker [c.calico, c.master] = .ok c.worker ∧
        firstFree c.parent sizes.worker [c.calico, c.master, c.worker] = .ok c.vpn := by
  simp only [Carving.compute, bind_eq_ok_iff, pure, Except.pure, Except.ok.injEq]
  constructor
  · rintro ⟨⟨⟩, hvalid, calico, hcalico, master, hmaster, worker, hworker, vpn, hvpn, rfl⟩
    exact ⟨hvalid, rfl, hcalico, hmaster, hworker, hvpn⟩
  · obtain ⟨parent, calico, master, worker, vpn⟩ := c
    rintro ⟨hvalid, rfl, hcalico, hmaster, hworker, hvpn⟩
    exact ⟨(), hvalid, calico, hcalico, master, hmaster, worker, hworker, vpn, hvpn, rfl⟩

/-- The four blocks that are cut from a network. -/
def Carving.blocks (c : Carving) : List Block := [c.calico, c.master, c.worker, c.vpn]

/-- **The layout of a carved network.** -/
structure Carving.Layout (c : Carving) (network : Block) (sizes : CarvingSizes) : Prop where
  /-- The mask of the whole is that of the network given. -/
  parent_mask : c.parent.maskLength = network.maskLength
  /-- The bits of its address below the mask are clear, the others are as given. -/
  parent_bits : ∀ i, c.parent.address.testBit i =
    (decide (32 - network.maskLength ≤ i) && network.address.testBit i)
  /-- The pods have the upper half. -/
  calico_half : c.calico.maskLength = network.maskLength + 1 ∧
    ∀ x, c.calico.contains x = true ↔
      c.parent.contains x = true ∧ c.parent.base + c.parent.size / 2 ≤ x
  master_mask : c.master.maskLength = sizes.master
  worker_mask : c.worker.maskLength = sizes.worker
  vpn_mask : c.vpn.maskLength = sizes.worker
  aligned : ∀ b ∈ c.blocks, b.Aligned
  within : ∀ b ∈ c.blocks, b.Within c.parent
  apart : c.blocks.Pairwise Block.Apart

/-- **A network that is carved has this layout.** -/
theorem layout_of_compute (h : Carving.compute network sizes = .ok c) : c.Layout network sizes := by
  obtain ⟨-, hparent, hhalf, hfirst, hsecond, hthird⟩ := compute_eq_ok_iff.mp h
  obtain ⟨cmask, caligned, cbase, climit⟩ := upperHalf_eq_ok hhalf
  obtain ⟨mmask, maligned, mwithin, mapart⟩ := firstFree_eq_ok hfirst
  obtain ⟨wmask, waligned, wwithin, wapart⟩ := firstFree_eq_ok hsecond
  obtain ⟨vmask, valigned, vwithin, vapart⟩ := firstFree_eq_ok hthird
  have hcalico : ∀ x, c.calico.contains x = true ↔
      c.parent.contains x = true ∧ c.parent.base + c.parent.size / 2 ≤ x := by
    intro x
    rw [Block.contains_iff, Block.contains_iff, cbase, climit]
    omega
  simp only [List.forall_mem_cons, List.not_mem_nil, false_implies, implies_true, and_true]
    at mapart wapart vapart
  have hmask : c.parent.maskLength = network.maskLength := by rw [hparent]; rfl
  exact {
    parent_mask := hmask
    parent_bits := by
      intro i
      rw [hparent]
      exact network.testBit_base i
    calico_half := ⟨hmask ▸ cmask, hcalico⟩
    master_mask := mmask
    worker_mask := wmask
    vpn_mask := vmask
    aligned := by
      simp only [Carving.blocks, List.forall_mem_cons, List.not_mem_nil, false_implies,
        implies_true, and_true]
      exact ⟨caligned, maligned, waligned, valigned⟩
    within := by
      simp only [Carving.blocks, List.forall_mem_cons, List.not_mem_nil, false_implies,
        implies_true, and_true]
      exact ⟨fun x hx => ((hcalico x).mp hx).1, mwithin, wwithin, vwithin⟩
    apart := by
      simp only [Carving.blocks, List.pairwise_cons, List.forall_mem_cons, List.not_mem_nil,
        false_implies, implies_true, and_true, List.Pairwise.nil]
      exact ⟨⟨mapart.symm, wapart.1.symm, vapart.1.symm⟩, ⟨wapart.2.symm, vapart.2.1.symm⟩,
        vapart.2.2.symm⟩ }

/-- The layout of a network with bits below its mask, whose workers need larger blocks than
its masters: the first block of the workers' size holds the masters, so it is passed over. -/
theorem layout_of_uneven_sizes :
    ∃ network c, Block.ofParts? 0xC0A80709 18 = some network ∧
      Carving.compute network ⟨26, 22⟩ = .ok c ∧ c.worker.toText = "192.168.4.0/22" ∧
      c.Layout network ⟨26, 22⟩ :=
  ⟨_, _, rfl, rfl, by decide +kernel, layout_of_compute rfl⟩

end ClusterOperator.Net
