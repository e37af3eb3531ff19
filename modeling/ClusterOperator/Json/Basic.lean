import ClusterOperator.Binary64.Written

/-!
# JSON documents

A document is a tree of objects, arrays and scalars.  A number is an integer that
fits a signed or an unsigned word of sixty-four bits, or a double; the two kinds are
never equal.  The members of an object are kept in a list, each name once: setting a
member replaces the value that the name had.
-/

namespace ClusterOperator

/-- A JSON number. -/
inductive Number where
  | integer (value : Int)
  | double (value : Binary64)
  deriving DecidableEq, Repr, Inhabited

/-- A JSON document. -/
inductive Json where
  | null
  | bool (value : Bool)
  | number (value : Number)
  | text (value : String)
  | array (items : List Json)
  | object (members : List (String × Json))
  deriving Repr, Inhabited

namespace Json

/-- Puts `value` under `name`, in the place of an earlier value if there is one. -/
def setMember {α : Type} (name : String) (value : α) : List (String × α) → List (String × α)
  | [] => [(name, value)]
  | (n, v) :: rest =>
    if n = name then (name, value) :: rest else (n, v) :: setMember name value rest

/-- The value under `name` in a list of members. -/
def findMember {α : Type} (name : String) : List (String × α) → Option α
  | [] => none
  | (n, v) :: rest => if n = name then some v else findMember name rest

/-- The members of an object; none for every other document. -/
def members? : Json → Option (List (String × Json))
  | .object ms => some ms
  | _ => none

/-- The member of an object under `name`. -/
def member? (name : String) : Json → Option Json
  | .object ms => findMember name ms
  | _ => none

/-- The items of an array; none for every other document. -/
def items? : Json → Option (List Json)
  | .array xs => some xs
  | _ => none

def text? : Json → Option String
  | .text s => some s
  | _ => none

def bool? : Json → Option Bool
  | .bool b => some b
  | _ => none

def integer? : Json → Option Int
  | .number (.integer n) => some n
  | _ => none

/-- An integer number. -/
def ofNat (n : Nat) : Json := .number (.integer n)

end Json

end ClusterOperator
