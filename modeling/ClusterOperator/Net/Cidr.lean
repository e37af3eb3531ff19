import ClusterOperator.Net.Block
import ClusterOperator.Text.Numeral

/-!
# The text of a block

A block is written as four decimal octets with points between them, a slash, and the
mask length.  In a text that is read an octet has one to three digits and a value
below 256, and the mask length has one or two digits and a value of at most 32;
leading zeros count as digits.
-/

namespace ClusterOperator.Net

/-- The digits at the front, at most `width` and at least one, if their value is at
most `limit`. -/
def readDigits? (width limit : Nat) (s : List Char) : Option (Nat × List Char) :=
  let ds := s.takeWhile fun c => (Text.digitValue? c).isSome
  let value := ds.foldl (fun n c => n * 10 + (Text.digitValue? c).getD 0) 0
  if 1 ≤ ds.length ∧ ds.length ≤ width ∧ value ≤ limit then some (value, s.drop ds.length)
  else none

/-- Goes over one character. -/
def expect? (mark : Char) : List Char → Option (List Char)
  | [] => none
  | c :: s => if c = mark then some s else none

def readOctet? (s : List Char) : Option (Nat × List Char) := readDigits? 3 255 s

/-- Four octets. -/
def readAddress? (s : List Char) : Option (Nat × List Char) := do
  let (a, s) ← readOctet? s
  let (b, s) ← (expect? '.' s).bind readOctet?
  let (c, s) ← (expect? '.' s).bind readOctet?
  let (d, s) ← (expect? '.' s).bind readOctet?
  return (((a * 256 + b) * 256 + c) * 256 + d, s)

/-- The block of a text. -/
def Block.ofChars? (s : List Char) : Option Block := do
  let (address, s) ← readAddress? s
  let (maskLength, s) ← (expect? '/' s).bind (readDigits? 2 32)
  if s.isEmpty then Block.ofParts? address maskLength else none

/-- The four octets of an address. -/
def addressText (a : Nat) : String :=
  s!"{a / Nat.pow 2 24 % 256}.{a / Nat.pow 2 16 % 256}.{a / Nat.pow 2 8 % 256}.{a % 256}"

/-- The text of a block. -/
def Block.toText (b : Block) : String := addressText b.address ++ "/" ++ toString b.maskLength

instance : ToString Block := ⟨Block.toText⟩

end ClusterOperator.Net
