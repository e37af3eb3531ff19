import ClusterOperator.Binary64.Scaled
import ClusterOperator.Json.Tree
import ClusterOperator.Text.Numeral

/-!
# Reading JSON text

One function per production of the grammar, each from the characters that are left
to a value and the characters left after it.  A number without point and exponent is
an integer if it fits a word of sixty-four bits, signed or unsigned, except `-0`,
which only a double can hold.  Every other number is a double: the digits are kept as
long as they fit an unsigned word, and what they give is scaled by a power of ten.

What is well-formed but stands for no document becomes a void value: a number beyond
the largest double, a string with half of a surrogate pair, and a container inside a
hundred and twenty-seven others.

The productions that call each other count down a supply of steps, which `readTree`
takes from the length of the text.  It suffices for every value: a member, an item after
the first and a character of a string take one step each for at least one character, and
a container takes two for its two brackets.
-/

namespace ClusterOperator.Json

/-- The fault of a text that ends or goes on with something else. -/
def unexpected : List Char → Fault
  | [] => .unexpectedEnd
  | _ => .unexpectedCharacter

/-- The blanks between tokens. -/
def isSpace (c : Char) : Bool := c = ' ' || c = '\t' || c = '\n' || c = '\r'

def skipSpace (s : List Char) : List Char := s.dropWhile isSpace

/-- Goes over the characters of a keyword. -/
def expectWord : List Char → List Char → Except Fault (List Char)
  | [], s => .ok s
  | c :: word, d :: s => if c = d then expectWord word s else .error .unexpectedCharacter
  | _ :: _, [] => .error .unexpectedEnd

/-- The digits at the front of the text, and what is after them. -/
def spanDigits : List Char → List Char × List Char
  | [] => ([], [])
  | c :: s =>
    match Text.digitValue? c with
    | some _ => let (ds, rest) := spanDigits s; (c :: ds, rest)
    | none => ([], c :: s)

/-- The value of a run of digits. -/
def digitsValue (ds : List Char) : Nat :=
  ds.foldl (fun acc c => acc * 10 + (Text.digitValue? c).getD 0) 0

/-- The digits before the point: a zero alone, or a run that starts with none. -/
def readWhole (s : List Char) : Except Fault (List Char × List Char) :=
  match spanDigits s with
  | ([], rest) => .error (unexpected rest)
  | (['0'], rest) => .ok (['0'], rest)
  | ('0' :: _, _) => .error .unexpectedCharacter
  | (ds, rest) => .ok (ds, rest)

/-- The digits after a point; an empty list if there is no point. -/
def readFraction : List Char → Except Fault (List Char × List Char)
  | '.' :: s =>
    match spanDigits s with
    | ([], rest) => .error (unexpected rest)
    | (ds, rest) => .ok (ds, rest)
  | s => .ok ([], s)

/-- The sign of an exponent; a missing one is a plus. -/
def readExponentSign : List Char → Bool × List Char
  | '-' :: s => (true, s)
  | '+' :: s => (false, s)
  | s => (false, s)

/-- The exponent after an `e`; none if there is no `e`. -/
def readExponent (s : List Char) : Except Fault (Option Int × List Char) :=
  match s with
  | c :: rest =>
    if c = 'e' ∨ c = 'E' then
      let (negative, digits) := readExponentSign rest
      match spanDigits digits with
      | ([], rest) => .error (unexpected rest)
      | (ds, rest) =>
        let n : Int := digitsValue ds
        .ok (some (if negative then -n else n), rest)
    else .ok (none, s)
  | [] => .ok (none, [])

/-- The integer of a sign and digits, if a word of sixty-four bits holds it. -/
def integerOf? (negative : Bool) (n : Nat) : Option Int :=
  if negative then
    if n ≠ 0 ∧ n ≤ Nat.pow 2 63 then some (-(n : Int)) else none
  else if n < Nat.pow 2 64 then some n else none

/-- The value of the digits that an unsigned word holds when they are put after those of
`n`, and how many digits are left over. -/
def keepDigits (n : Nat) : List Char → Nat × Nat
  | [] => (n, 0)
  | c :: ds =>
    let next := n * 10 + (Text.digitValue? c).getD 0
    if next < Nat.pow 2 64 then keepDigits next ds else (n, ds.length + 1)

/-- The double of the parts of a numeral.  Digits before the point that are left over
count as powers of ten; digits after it are tried even then. -/
def doubleOf? (negative : Bool) (whole fraction : List Char) (exponent : Int) : Option Binary64 :=
  let (n, surplus) := keepDigits 0 whole
  let (n, unread) := keepDigits n fraction
  Binary64.ofScaled? negative n (surplus - (fraction.length - unread) + exponent)

/-- The number of the parts of a numeral. -/
def numberOf (negative : Bool) (whole fraction : List Char) (exponent : Option Int) : Tree :=
  let integer :=
    match fraction, exponent with
    | [], none => integerOf? negative (digitsValue whole)
    | _, _ => none
  match integer with
  | some n => .number (.integer n)
  | none =>
    match doubleOf? negative whole fraction (exponent.getD 0) with
    | some x => .number (.double x)
    | none => .void .numberOutOfRange

/-- A number without its sign. -/
def readMagnitude (negative : Bool) (s : List Char) : Except Fault (Tree × List Char) := do
  let (whole, s) ← readWhole s
  let (fraction, s) ← readFraction s
  let (exponent, s) ← readExponent s
  return (numberOf negative whole fraction exponent, s)

def readNumber : List Char → Except Fault (Tree × List Char)
  | '-' :: s => readMagnitude true s
  | s => readMagnitude false s

/-- The value of a hexadecimal digit. -/
def hexValue? (c : Char) : Option Nat :=
  if '0' ≤ c ∧ c ≤ '9' then some (c.toNat - '0'.toNat)
  else if 'a' ≤ c ∧ c ≤ 'f' then some (c.toNat - 'a'.toNat + 10)
  else if 'A' ≤ c ∧ c ≤ 'F' then some (c.toNat - 'A'.toNat + 10)
  else none

/-- Four hexadecimal digits. -/
def readUnit : List Char → Except Fault (Nat × List Char)
  | a :: b :: c :: d :: s =>
    match hexValue? a, hexValue? b, hexValue? c, hexValue? d with
    | some a, some b, some c, some d => .ok (((a * 16 + b) * 16 + c) * 16 + d, s)
    | _, _, _, _ => .error .invalidEscape
  | _ => .error .unexpectedEnd

/-- The trailing half of a surrogate pair from an escape, if one is next. -/
def readTrailing? (s : List Char) : Option (Nat × List Char) :=
  match s with
  | '\\' :: 'u' :: s =>
    match readUnit s with
    | .ok (low, s) => if 0xDC00 ≤ low ∧ low ≤ 0xDFFF then some (low, s) else none
    | .error _ => none
  | _ => none

/-- The character of a `\u` escape, its first four digits still to come; a leading
surrogate takes the trailing one from a second escape.  A surrogate alone is none. -/
def readCodePoint (s : List Char) : Except Fault (Option Char × List Char) := do
  let (high, s) ← readUnit s
  if 0xD800 ≤ high ∧ high ≤ 0xDBFF then
    match readTrailing? s with
    | some (low, s) =>
      return (some (Char.ofNat (0x10000 + (high - 0xD800) * 0x400 + (low - 0xDC00))), s)
    | none => return (none, s)
  else if 0xDC00 ≤ high ∧ high ≤ 0xDFFF then return (none, s)
  else return (some (Char.ofNat high), s)

/-- The character of an escape, its backslash read. -/
def readEscape : List Char → Except Fault (Option Char × List Char)
  | '"' :: s => .ok (some '"', s)
  | '\\' :: s => .ok (some '\\', s)
  | '/' :: s => .ok (some '/', s)
  | 'b' :: s => .ok (some '\x08', s)
  | 'f' :: s => .ok (some '\x0c', s)
  | 'n' :: s => .ok (some '\n', s)
  | 'r' :: s => .ok (some '\r', s)
  | 't' :: s => .ok (some '\t', s)
  | 'u' :: s => readCodePoint s
  | [] => .error .unexpectedEnd
  | _ => .error .invalidEscape

/-- The characters of a string up to its closing quote, the opening one read; none if
one of them is a surrogate alone. -/
def readStringBody : (steps : Nat) → List Char → Except Fault (Option (List Char) × List Char)
  | 0, _ => .error .unexpectedEnd
  | steps + 1, s =>
    match s with
    | [] => .error .unexpectedEnd
    | '"' :: s => .ok (some [], s)
    | '\\' :: s => do
      let (c, s) ← readEscape s
      let (cs, s) ← readStringBody steps s
      return (c.bind fun c => cs.map fun cs => c :: cs, s)
    | c :: s =>
      if c.toNat < 0x20 then .error .controlCharacter
      else do
        let (cs, s) ← readStringBody steps s
        return (cs.map fun cs => c :: cs, s)

/-- A string, its opening quote read. -/
def readString (steps : Nat) (s : List Char) : Except Fault (Option String × List Char) := do
  let (cs, s) ← readStringBody steps s
  return (cs.map String.ofList, s)

/-- A value whose kind is decided by `c`, which is not yet read, if it is a scalar. -/
def readScalar (steps : Nat) (c : Char) (s : List Char) : Except Fault (Tree × List Char) := do
  if c = '"' then
    match ← readString steps (s.drop 1) with
    | (some t, s) => return (.text t, s)
    | (none, s) => return (.void .loneSurrogate, s)
  else if c = 't' then return (.bool true, ← expectWord ['t', 'r', 'u', 'e'] s)
  else if c = 'f' then return (.bool false, ← expectWord ['f', 'a', 'l', 's', 'e'] s)
  else if c = 'n' then return (.null, ← expectWord ['n', 'u', 'l', 'l'] s)
  else readNumber s

/-- A name, the colon after it, and the characters from the value on. -/
def readName (steps : Nat) (s : List Char) : Except Fault (Option String × List Char) := do
  match s with
  | '"' :: s =>
    let (name, s) ← readString steps s
    match skipSpace s with
    | ':' :: s => return (name, s)
    | s => throw (unexpected s)
  | s => throw (unexpected s)

/-- A container, which is void if it stands too deep. -/
def container (depth : Nat) (v : Tree) : Tree := if depth = 0 then .void .tooDeep else v

mutual

/-- A value after blanks; containers are void from `depth` levels on. -/
def readValue : (steps depth : Nat) → List Char → Except Fault (Tree × List Char)
  | 0, _, _ => .error .unexpectedEnd
  | steps + 1, depth, s =>
    match skipSpace s with
    | [] => .error .unexpectedEnd
    | '[' :: s =>
      match skipSpace s with
      | ']' :: s => .ok (container depth (.array []), s)
      | s => do
        let (xs, s) ← readItems steps (depth - 1) s
        return (container depth (.array xs), s)
    | '\x7b' :: s =>
      match skipSpace s with
      | '\x7d' :: s => .ok (container depth (.object []), s)
      | s => do
        let (ms, s) ← readMembers steps (depth - 1) s
        return (container depth (.object ms), s)
    | c :: s => readScalar steps c (c :: s)

/-- The items of an array up to its closing bracket. -/
def readItems : (steps depth : Nat) → List Char → Except Fault (List Tree × List Char)
  | 0, _, _ => .error .unexpectedEnd
  | steps + 1, depth, s => do
    let (x, s) ← readValue steps depth s
    match skipSpace s with
    | ']' :: s => return ([x], s)
    | ',' :: s =>
      let (xs, s) ← readItems steps depth s
      return (x :: xs, s)
    | s => throw (unexpected s)

/-- The members of an object up to its closing brace. -/
def readMembers : (steps depth : Nat) → List Char →
    Except Fault (List (Option String × Tree) × List Char)
  | 0, _, _ => .error .unexpectedEnd
  | steps + 1, depth, s => do
    let (name, s) ← readName steps (skipSpace s)
    let (value, s) ← readValue steps depth s
    match skipSpace s with
    | '\x7d' :: s => return ([(name, value)], s)
    | ',' :: s =>
      let (ms, s) ← readMembers steps depth s
      return ((name, value) :: ms, s)
    | s => throw (unexpected s)

end

/-- How deep containers may stand. -/
def depthLimit : Nat := 127

/-- The value that a text writes. -/
def readTree (text : String) : Except Fault Tree := do
  let s := text.toList
  let (v, s) ← readValue (s.length + 1) depthLimit s
  if (skipSpace s).isEmpty then return v else throw .trailingText

/-- The document that a text holds. -/
def read (text : String) : Except Fault Json := do
  let v ← readTree text
  v.toJson

end ClusterOperator.Json
