import ClusterOperator.Json.Record
import ClusterOperator.Proofs.Json.Members

/-!
# Records are found in documents

A document is read through its tree.  As a tree an object with distinct names is a record
whose fields are found by name: under each name stands the tree of what the object has there
(`fields?_object`), whatever other members it has.
-/

namespace ClusterOperator.Json

variable {α : Type} {name : String} {names : List String} {ms : List (String × Json)}
  {read : Tree → Option α}

/-! ## Documents as trees -/

theorem itemsToTree_eq_map (xs : List Json) : itemsToTree xs = xs.map toTree := by
  induction xs with
  | nil => rfl
  | cons x xs ih => exact congrArg (toTree x :: ·) ih

theorem membersToTree_eq_map (ms : List (String × Json)) :
    membersToTree ms = ms.map fun m => (some m.1, m.2.toTree) := by
  induction ms with
  | nil => rfl
  | cons m ms ih => exact congrArg ((some m.1, m.2.toTree) :: ·) ih

@[simp] theorem toTree_text (s : String) : (Json.text s).toTree = .text s := rfl

@[simp] theorem toTree_array (xs : List Json) : (array xs).toTree = .array (xs.map toTree) :=
  congrArg Tree.array (itemsToTree_eq_map xs)

@[simp] theorem toTree_object (ms : List (String × Json)) :
    (object ms).toTree = .object (ms.map fun m => (some m.1, m.2.toTree)) :=
  congrArg Tree.object (membersToTree_eq_map ms)

/-! ## Fields of an object -/

/-- The fields of an object that is read as a record. -/
def fieldsOf (ms : List (String × Json)) : Fields :=
  { positional := false, members := ms.map fun m => (m.1, m.2.toTree) }

theorem named?_of_distinct (h : (ms.map Prod.fst).Nodup) :
    named? names (ms.map fun m => (some m.1, m.2.toTree)) =
      some (ms.map fun m => (m.1, m.2.toTree)) := by
  induction ms with
  | nil => rfl
  | cons m ms ih =>
    rw [List.map_cons, List.nodup_cons] at h
    have hlast : findMember m.1 (ms.map fun m => (m.1, m.2.toTree)) = none := by
      rw [findMember_map, findMember_eq_none_iff.mpr h.1, Option.map_none]
    rw [List.map_cons, List.map_cons, named?, ih h.2, Option.bind_some, hlast]
    exact if_neg fun hm => nomatch hm.2

/-- **The fields of an object** with distinct names. -/
theorem fields?_object (h : (ms.map Prod.fst).Nodup) :
    (object ms).toTree.fields? names = some (fieldsOf ms) := by
  rw [toTree_object, Tree.fields?, named?_of_distinct h, Option.map_some, fieldsOf]

namespace Fields

@[simp] theorem findMember_fieldsOf :
    findMember name (fieldsOf ms).members = (findMember name ms).map toTree :=
  findMember_map toTree

@[simp] theorem require_fieldsOf :
    (fieldsOf ms).require name read = (findMember name ms).bind fun v => read v.toTree := by
  rw [require, findMember_fieldsOf, Option.bind_map]
  rfl

@[simp] theorem orDefault_fieldsOf {default : α} :
    (fieldsOf ms).orDefault name default read =
      (findMember name ms).elim (some default) fun v => read v.toTree := by
  rw [orDefault, findMember_fieldsOf]
  cases findMember name ms <;> rfl

@[simp] theorem nullable_fieldsOf :
    (fieldsOf ms).nullable name read = (fieldsOf ms).optional name read := rfl

theorem orNull_of_some {v : Tree} {a : α} (hv : v.isNull = false) (h : read v = some a) :
    orNull read v = some (some a) := by
  rw [orNull, hv, h]
  rfl

end Fields

/-! ## Lists -/

/-- A list of documents is read item by item. -/
theorem list?_array_map {β : Type} {write : β → Json} {read : Tree → Option β} {xs : List β}
    (h : ∀ x ∈ xs, read (write x).toTree = some x) :
    (array (xs.map write)).toTree.list? read = some xs := by
  rw [toTree_array, Tree.list?, Tree.items?, Option.bind_some]
  induction xs with
  | nil => rfl
  | cons x xs ih =>
    obtain ⟨hx, hxs⟩ := List.forall_mem_cons.mp h
    rw [List.map_cons, List.map_cons, List.mapM_cons, hx, ih hxs]
    rfl

end ClusterOperator.Json
