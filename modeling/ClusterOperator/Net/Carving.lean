import ClusterOperator.Failure
import ClusterOperator.Net.Cidr
import ClusterOperator.Text.Blank

/-!
# Carving a cluster network

The network of a cluster is cut in half.  The upper half is for the pods; the blocks
of the masters, of the workers and of the VPN gateway are cut from the lower half, in
this order, each the lowest aligned block of its size that overlaps none of those
before it.
-/

namespace ClusterOperator.Net

/-- The sizes of the blocks that are cut, as mask lengths. -/
structure CarvingSizes where
  /-- The block of the masters. -/
  master : Nat := 24
  /-- The block of the workers, and that of the VPN gateway. -/
  worker : Nat := 24
  deriving DecidableEq, Repr

instance : Inhabited CarvingSizes := ⟨{}⟩

/-- The blocks of one cluster. -/
structure Carving where
  /-- The whole network. -/
  parent : Block
  /-- Pod networking: the upper half. -/
  calico : Block
  master : Block
  worker : Block
  vpn : Block
  deriving DecidableEq, Repr

/-- The failure of a size that no block of IPv4 addresses has. -/
def CarvingSizes.checkSize (role : String) (maskLength : Nat) : Except Failure Unit :=
  if 32 < maskLength then
    .error (.invalid s!"{role} subnet prefix /{maskLength} is not a valid IPv4 prefix")
  else .ok ()

/-- Refuses sizes that are no mask lengths. -/
def CarvingSizes.validate (sizes : CarvingSizes) : Except Failure Unit := do
  checkSize "master" sizes.master
  checkSize "worker" sizes.worker

/-- The failure of a network in which no block of a size is free. -/
def exhausted (parent : Block) (maskLength : Nat) : Failure :=
  .subnetSpaceExhausted parent.toText maskLength

/-- The upper half of a network whose bits below the mask are clear. -/
def upperHalf (parent : Block) : Except Failure Block :=
  let half := parent.maskLength + 1
  if 32 < half then .error (exhausted parent half)
  else
    match Block.ofParts? (parent.base + Nat.pow 2 (32 - half)) half with
    | some b => .ok b
    | none => .error (exhausted parent half)

/-- The least multiple of `size` that is not below `n`. -/
def alignUp (size n : Nat) : Nat := (n + size - 1) / size * size

/-- Looks for a free block from `address` upwards.  A taken block in the way is left
behind at once, so there are no more steps than taken blocks. -/
def searchFree (parent : Block) (maskLength : Nat) (taken : List Block) :
    (steps : Nat) → (address : Nat) → Option Block
  | 0, _ => none
  | steps + 1, address =>
    if parent.limit ≤ address then none
    else
      match Block.ofParts? address maskLength with
      | none => none
      | some candidate =>
        match taken.find? candidate.overlaps with
        | none => some candidate
        | some t => searchFree parent maskLength taken steps (alignUp candidate.size t.limit)

/-- The lowest block of a size inside `parent` that overlaps none of those taken. -/
def firstFree (parent : Block) (maskLength : Nat) (taken : List Block) : Except Failure Block :=
  if maskLength < parent.maskLength then
    .error (.invalid s!"a /{maskLength} subnet cannot fit inside {parent.toText}")
  else
    match searchFree parent maskLength taken (taken.length + 1) parent.base with
    | some b => .ok b
    | none => .error (exhausted parent maskLength)

/-- The blocks of a network. -/
def Carving.compute (network : Block) (sizes : CarvingSizes) : Except Failure Carving := do
  sizes.validate
  let parent := network.truncated
  let calico ← upperHalf parent
  let master ← firstFree parent sizes.master [calico]
  let worker ← firstFree parent sizes.worker [calico, master]
  let vpn ← firstFree parent sizes.worker [calico, master, worker]
  return { parent, calico, master, worker, vpn }

/-- The network of a text, blanks around it passed over. -/
def readNetwork? (cidr : String) : Option Block := Block.ofChars? (Text.trim cidr.toList)

/-- The network in the specification of a cluster, its bits below the mask cleared. -/
def parseNetwork (cluster cidr : String) : Except Failure Block :=
  match readNetwork? cidr with
  | some b => .ok b.truncated
  | none => .error (.invalidField cluster "spec.networkCidr"
      s!"invalid IPv4 CIDR {Text.quote cidr}: invalid IP address syntax")

end ClusterOperator.Net
