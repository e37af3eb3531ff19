import ClusterOperator.Json.Basic

/-!
# Documents as they are written

A text can be well-formed and still stand for no document: it may hold a number that
no double is near to, half of a surrogate pair, or containers that stand too deep.  Such
a value is void.  Whether that matters depends on who reads the text, because what is
not looked at is passed over.  A tree therefore keeps void values in their places,
and all members of an object in their order, a name as often as it was written.

A tree without void parts is a document, in which the last member of a name counts;
every document is a tree.
-/

namespace ClusterOperator.Json

/-- Why a text is no document. -/
inductive Fault where
  | unexpectedEnd
  | unexpectedCharacter
  | controlCharacter
  | invalidEscape
  | loneSurrogate
  | numberOutOfRange
  | tooDeep
  | trailingText
  deriving DecidableEq, Repr, Inhabited

/-- The wording of a fault. -/
def Fault.message : Fault → String
  | .unexpectedEnd => "unexpected end of text"
  | .unexpectedCharacter => "unexpected character"
  | .controlCharacter => "control character in a string"
  | .invalidEscape => "invalid escape"
  | .loneSurrogate => "lone surrogate in an escape"
  | .numberOutOfRange => "number out of range"
  | .tooDeep => "recursion limit exceeded"
  | .trailingText => "trailing characters"

/-- A value as it is written. -/
inductive Tree where
  | null
  | bool (value : Bool)
  | number (value : Number)
  | text (value : String)
  | array (items : List Tree)
  /-- The members in order; a name with half of a surrogate pair is none. -/
  | object (members : List (Option String × Tree))
  /-- A well-formed value that stands for no document. -/
  | void (fault : Fault)
  deriving Repr, Inhabited

namespace Tree

/-- Whether a value is null. -/
def isNull : Tree → Bool
  | .null => true
  | _ => false

/-- The items of an array; none for every other value. -/
def items? : Tree → Option (List Tree)
  | .array xs => some xs
  | _ => none

/-- The members of an object; none for every other value. -/
def members? : Tree → Option (List (Option String × Tree))
  | .object ms => some ms
  | _ => none

def text? : Tree → Option String
  | .text s => some s
  | _ => none

def bool? : Tree → Option Bool
  | .bool b => some b
  | _ => none

def integer? : Tree → Option Int
  | .number (.integer n) => some n
  | _ => none

/-- The items of an array, if every one of them can be read. -/
def list? {α : Type} (read : Tree → Option α) (v : Tree) : Option (List α) :=
  v.items?.bind fun xs => xs.mapM read

/-- The name of a plain alternative: a text, or an object with that name over null. -/
def alternative? : Tree → Option String
  | .text s => some s
  | .object [(some name, .null)] => some name
  | _ => none

mutual

/-- The document that a tree stands for. -/
def toJson : Tree → Except Fault Json
  | .null => .ok .null
  | .bool b => .ok (.bool b)
  | .number n => .ok (.number n)
  | .text s => .ok (.text s)
  | .array xs => (itemsToJson xs).map Json.array
  | .object ms => (membersToJson [] ms).map Json.object
  | .void fault => .error fault

/-- The documents of the items of an array. -/
def itemsToJson : List Tree → Except Fault (List Json)
  | [] => .ok []
  | x :: rest => do
    let x ← toJson x
    let rest ← itemsToJson rest
    return x :: rest

/-- The documents of the members of an object, put to those already known. -/
def membersToJson (known : List (String × Json)) :
    List (Option String × Tree) → Except Fault (List (String × Json))
  | [] => .ok known
  | (none, _) :: _ => .error .loneSurrogate
  | (some name, v) :: rest => do
    let v ← toJson v
    membersToJson (setMember name v known) rest

end

/-- The document that a tree stands for, if it stands for one. -/
def document? (v : Tree) : Option Json :=
  match v.toJson with
  | .ok d => some d
  | .error _ => none

end Tree

mutual

/-- A document as a tree. -/
def toTree : Json → Tree
  | .null => .null
  | .bool b => .bool b
  | .number n => .number n
  | .text s => .text s
  | .array xs => .array (itemsToTree xs)
  | .object ms => .object (membersToTree ms)

/-- The items of an array as trees. -/
def itemsToTree : List Json → List Tree
  | [] => []
  | x :: rest => toTree x :: itemsToTree rest

/-- The members of an object as members of a tree. -/
def membersToTree : List (String × Json) → List (Option String × Tree)
  | [] => []
  | (name, v) :: rest => (some name, toTree v) :: membersToTree rest

end

end ClusterOperator.Json
