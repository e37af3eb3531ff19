import ClusterOperator.Json.Tree

/-!
# Records in documents

A record is written as an object with a member per field, in which unknown members
are passed over and no field comes twice, or as an array of the fields in order, whose
last ones may be left out if they have a default.  `Fields` is what has been found; a
field is then read by name, and either has to be there, or may be null, or has a
default.
-/

namespace ClusterOperator.Json

/-- The fields of a record that a tree gives. -/
structure Fields where
  /-- Whether they were given in order, without names. -/
  positional : Bool
  members : List (String × Tree)

/-- Members with their names, if every name can be read and no field comes twice. -/
def named? (fields : List String) : List (Option String × Tree) → Option (List (String × Tree))
  | [] => some []
  | (none, _) :: _ => none
  | (some name, v) :: rest =>
    (named? fields rest).bind fun ms =>
      if name ∈ fields ∧ (findMember name ms).isSome then none else some ((name, v) :: ms)

/-- The fields of a tree that stands for a record with fields of these names. -/
def Tree.fields? (names : List String) : Tree → Option Fields
  | .object ms => (named? names ms).map fun members => { positional := false, members }
  | .array xs =>
    if xs.length ≤ names.length then some { positional := true, members := names.zip xs } else none
  | _ => none

namespace Fields

/-- A field that has to be there. -/
def require {α : Type} (fs : Fields) (name : String) (read : Tree → Option α) : Option α :=
  (findMember name fs.members).bind read

/-- A field that has a default, and no null. -/
def orDefault {α : Type} (fs : Fields) (name : String) (default : α) (read : Tree → Option α) :
    Option α :=
  match findMember name fs.members with
  | none => some default
  | some v => read v

/-- A value that may be null. -/
def orNull {α : Type} (read : Tree → Option α) (v : Tree) : Option (Option α) :=
  if v.isNull then some none else (read v).map some

/-- A field that may be null, and that may be left out. -/
def optional {α : Type} (fs : Fields) (name : String) (read : Tree → Option α) :
    Option (Option α) :=
  fs.orDefault name none (orNull read)

/-- A field that may be null, and that may be left out where fields have names. -/
def nullable {α : Type} (fs : Fields) (name : String) (read : Tree → Option α) :
    Option (Option α) :=
  if fs.positional then fs.require name (orNull read) else fs.optional name read

end Fields

end ClusterOperator.Json
