/-!
# Blocks of IPv4 addresses

An address is a number below `2 ^ 32`.  A block is an address with a mask length:
the leading bits that all its addresses share.  The address may have bits set below
the mask; the addresses of the block are those from `base` on, `size` many, and
`base` is the address with those bits cleared.
-/

namespace ClusterOperator.Net

/-- An address with a mask length. -/
structure Block where
  address : Nat
  maskLength : Nat
  address_lt : address < Nat.pow 2 32
  mask_le : maskLength ≤ 32
  deriving DecidableEq, Repr

namespace Block

/-- How many addresses the block has. -/
def size (b : Block) : Nat := Nat.pow 2 (32 - b.maskLength)

/-- The lowest address. -/
def base (b : Block) : Nat := b.address - b.address % b.size

/-- The first address after the block. -/
def limit (b : Block) : Nat := b.base + b.size

/-- Whether an address belongs to the block. -/
def contains (b : Block) (address : Nat) : Bool :=
  decide (b.base ≤ address) && decide (address < b.limit)

/-- The block with the bits below the mask cleared. -/
def truncated (b : Block) : Block where
  address := b.base
  maskLength := b.maskLength
  address_lt := Nat.lt_of_le_of_lt (Nat.sub_le _ _) b.address_lt
  mask_le := b.mask_le

/-- Whether one block holds the base address of the other. -/
def overlaps (a b : Block) : Bool := a.contains b.base || b.contains a.base

/-- The block at an address, if both parts are in range. -/
def ofParts? (address maskLength : Nat) : Option Block :=
  if h : address < Nat.pow 2 32 ∧ maskLength ≤ 32 then some ⟨address, maskLength, h.1, h.2⟩
  else none

end Block

end ClusterOperator.Net
