import ClusterOperator.Json.Basic
import ClusterOperator.Text.Numeral

/-!
# The canonical text of a document

Two documents that differ only in the order of object members have the same
canonical text: members are sorted by name, by code point, at every level, and
nothing stands between the tokens.  In strings the quote, the backslash and the
control characters below the space are escaped; every other character stands for
itself.  A double is written out if the power of ten of its leading digit is from -5
to 15.
-/

namespace ClusterOperator.Json

/-- The written form of one character of a string. -/
def escapeChar (c : Char) : List Char :=
  if c = '"' then ['\\', '"']
  else if c = '\\' then ['\\', '\\']
  else if c = '\x08' then ['\\', 'b']
  else if c = '\t' then ['\\', 't']
  else if c = '\n' then ['\\', 'n']
  else if c = '\x0c' then ['\\', 'f']
  else if c = '\r' then ['\\', 'r']
  else if c.toNat < 0x20 then ['\\', 'u'] ++ (Text.padZeros 4 (Text.hexDigits c.toNat)).toList
  else [c]

/-- A string between quotes. -/
def stringChars (s : String) : List Char := '"' :: s.toList.flatMap escapeChar ++ ['"']

/-- How doubles are written in documents; ties go to the even digit. -/
def doubleStyle : Binary64.Style := { least := -5, greatest := 15, plus := true, tie := .even }

/-- A number: an integer in decimal, a double with its shortest digits. -/
def numberChars : Number → List Char
  | .integer n => (toString n).toList
  | .double x => x.chars doubleStyle

/-- Puts `sep` between the texts. -/
def joined (sep : Char) : List (List Char) → List Char
  | [] => []
  | [x] => x
  | x :: rest => x ++ sep :: joined sep rest

/-- Whether the name of `a` does not come after that of `b`. -/
def nameLe {α : Type} (a b : String × α) : Bool := !decide (b.1 < a.1)

/-- Members in the order of their names. -/
def sortMembers {α : Type} (members : List (String × α)) : List (String × α) :=
  members.mergeSort nameLe

mutual

/-- The canonical text of a document, as characters. -/
def canonicalChars : Json → List Char
  | .null => ['n', 'u', 'l', 'l']
  | .bool true => ['t', 'r', 'u', 'e']
  | .bool false => ['f', 'a', 'l', 's', 'e']
  | .number n => numberChars n
  | .text s => stringChars s
  | .array xs => '[' :: joined ',' (canonicalItems xs) ++ [']']
  | .object ms =>
    '\x7b' :: joined ',' ((sortMembers (canonicalMembers ms)).map fun m =>
      stringChars m.1 ++ ':' :: m.2) ++ ['\x7d']

/-- The canonical texts of the items of an array. -/
def canonicalItems : List Json → List (List Char)
  | [] => []
  | x :: rest => canonicalChars x :: canonicalItems rest

/-- The names of members with the canonical texts of their values. -/
def canonicalMembers : List (String × Json) → List (String × List Char)
  | [] => []
  | (n, v) :: rest => (n, canonicalChars v) :: canonicalMembers rest

end

/-- The canonical text of a document. -/
def canonical (v : Json) : String := String.ofList (canonicalChars v)

end ClusterOperator.Json
