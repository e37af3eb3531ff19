import ClusterOperator.Proofs.Json.Members
import ClusterOperator.Proofs.Json.Numbers
import Mathlib.Data.List.Forall2

/-!
# Documents up to the order of members

Two documents are the **same** if they differ in nothing but the order in which objects, at
any level, list their members.  Numbers are the same if they are equal, kind and bits
included; the items of arrays keep their places.

The relation is said with permutations, and for objects whose names are distinct it can be
seen through what is found under each name (`same_object_iff`).
-/

namespace ClusterOperator.Json

/-- Induction over documents: what holds of the items of an array and of the values of an
object may be used for the whole. -/
@[elab_as_elim]
theorem induct {motive : Json → Prop} (null : motive .null) (bool : ∀ b, motive (.bool b))
    (number : ∀ n, motive (.number n)) (text : ∀ s, motive (.text s))
    (array : ∀ xs, (∀ x ∈ xs, motive x) → motive (.array xs))
    (object : ∀ ms, (∀ m ∈ ms, motive m.2) → motive (.object ms)) : ∀ v, motive v
  | .null => null
  | .bool b => bool b
  | .number n => number n
  | .text s => text s
  | .array xs => array xs fun x _ => induct null bool number text array object x
  | .object ms => object ms fun m _ => induct null bool number text array object m.2
decreasing_by
  all_goals simp_wf
  · have hx := List.sizeOf_lt_of_mem ‹x ∈ xs›
    omega
  · have hm := List.sizeOf_lt_of_mem ‹m ∈ ms›
    have hvalue : sizeOf m.2 < sizeOf m := by
      obtain ⟨n, v⟩ := m
      simp only [Prod.mk.sizeOf_spec]
      omega
    omega

/-- **Documents whose objects have each name once**, at every level, and whose doubles are
finite. -/
inductive WellFormed : Json → Prop where
  | null : WellFormed .null
  | bool (b : Bool) : WellFormed (.bool b)
  | number {n : Number} : n.Proper → WellFormed (.number n)
  | text (s : String) : WellFormed (.text s)
  | array {xs : List Json} : (∀ x ∈ xs, WellFormed x) → WellFormed (.array xs)
  | object {ms : List (String × Json)} : (ms.map Prod.fst).Nodup →
      (∀ m ∈ ms, WellFormed m.2) → WellFormed (.object ms)

/-- **The same up to the order of members.**  The members of two objects are the same if
both can be listed in such an order that the names agree and the values are the same, one by
one. -/
inductive Same : Json → Json → Prop where
  | null : Same .null .null
  | bool (b : Bool) : Same (.bool b) (.bool b)
  | number (n : Number) : Same (.number n) (.number n)
  | text (s : String) : Same (.text s) (.text s)
  | array {xs ys : List Json} : List.Forall₂ Same xs ys → Same (.array xs) (.array ys)
  | object {ms ms' ns ns' : List (String × Json)} : ms'.Perm ms → ns'.Perm ns →
      ms'.map Prod.fst = ns'.map Prod.fst →
      List.Forall₂ Same (ms'.map Prod.snd) (ns'.map Prod.snd) → Same (.object ms) (.object ns)

variable {a b : Json} {xs ys : List Json} {ms ns : List (String × Json)}

@[simp] theorem wellFormed_number_iff {n : Number} : WellFormed (.number n) ↔ n.Proper := by
  constructor
  · rintro ⟨⟩
    assumption
  · exact .number

@[simp] theorem wellFormed_array_iff : WellFormed (.array xs) ↔ ∀ x ∈ xs, x.WellFormed := by
  constructor
  · rintro ⟨⟩
    assumption
  · exact .array

@[simp] theorem wellFormed_object_iff :
    WellFormed (.object ms) ↔ (ms.map Prod.fst).Nodup ∧ ∀ m ∈ ms, m.2.WellFormed := by
  constructor
  · rintro ⟨⟩
    exact ⟨‹_›, ‹_›⟩
  · rintro ⟨hnames, hvalues⟩
    exact .object hnames hvalues

theorem WellFormed.item (h : WellFormed (.array xs)) : ∀ x ∈ xs, x.WellFormed :=
  wellFormed_array_iff.mp h

theorem WellFormed.names (h : WellFormed (.object ms)) : (ms.map Prod.fst).Nodup :=
  (wellFormed_object_iff.mp h).1

theorem WellFormed.value (h : WellFormed (.object ms)) : ∀ m ∈ ms, m.2.WellFormed :=
  (wellFormed_object_iff.mp h).2

theorem Same.refl (v : Json) : Same v v := by
  induction v using induct with
  | null => exact .null
  | bool b => exact .bool b
  | number n => exact .number n
  | text s => exact .text s
  | array xs ih => exact .array (List.forall₂_same.mpr ih)
  | object ms ih =>
    refine .object (.refl ms) (.refl ms) rfl (List.forall₂_same.mpr ?_)
    exact List.forall_mem_map.mpr ih

@[simp] theorem same_array_iff : Same (.array xs) (.array ys) ↔ List.Forall₂ Same xs ys := by
  constructor
  · rintro ⟨⟩
    assumption
  · exact .array

/-! ## Objects by their names -/

/-- Members that agree one by one agree in what is found. -/
theorem found_of_forall₂ (hnames : ms.map Prod.fst = ns.map Prod.fst)
    (hvalues : List.Forall₂ Same (ms.map Prod.snd) (ns.map Prod.snd)) (name : String) :
    Option.Rel Same (findMember name ms) (findMember name ns) := by
  induction ms generalizing ns with
  | nil =>
    cases ns with
    | nil => exact .none
    | cons n ns => cases hnames
  | cons m ms ih =>
    cases ns with
    | nil => cases hnames
    | cons n ns =>
      obtain ⟨hname, hnames⟩ := List.cons.inj hnames
      cases hvalues with
      | cons hvalue hvalues =>
        rw [findMember_cons, findMember_cons, ← hname]
        split
        · exact .some hvalue
        · exact ih hnames hvalues

/-- Members that agree in what is found can be put into an order in which they agree one by
one. -/
theorem forall₂_of_found (hms : (ms.map Prod.fst).Nodup) (hns : (ns.map Prod.fst).Nodup)
    (found : ∀ name, Option.Rel Same (findMember name ms) (findMember name ns)) :
    ∃ ns' : List (String × Json), ns'.Perm ns ∧ ms.map Prod.fst = ns'.map Prod.fst ∧
      List.Forall₂ Same (ms.map Prod.snd) (ns'.map Prod.snd) := by
  induction ms generalizing ns with
  | nil =>
    -- Nothing is found on either side, so there are no members.
    cases ns with
    | nil => exact ⟨[], .refl _, rfl, .nil⟩
    | cons n ns =>
      have hn := found n.1
      rw [findMember_cons, if_pos rfl] at hn
      cases hn
  | cons m ms ih =>
    obtain ⟨name, v⟩ := m
    have hfirst := found name
    rw [findMember_cons, if_pos rfl] at hfirst
    cases hfind : findMember name ns with
    | none =>
      rw [hfind] at hfirst
      cases hfirst
    | some w =>
      rw [hfind] at hfirst
      cases hfirst with
      | some hvw =>
        -- The member of this name is moved to the front; the others are left to the rest.
        obtain ⟨front, back, hsplit⟩ := List.append_of_mem (mem_of_findMember hfind)
        have hperm : ns.Perm ((name, w) :: (front ++ back)) := hsplit ▸ List.perm_middle
        have hnodup : (((name, w) :: (front ++ back)).map Prod.fst).Nodup :=
          (hperm.map Prod.fst).nodup hns
        rw [List.map_cons, List.nodup_cons] at hms hnodup
        have hothers : ∀ key, Option.Rel Same (findMember key ms)
            (findMember key (front ++ back)) := by
          intro key
          by_cases hkey : name = key
          · subst hkey
            rw [findMember_eq_none_iff.mpr hms.1, findMember_eq_none_iff.mpr hnodup.1]
            exact .none
          · have hfound := found key
            rw [findMember_eq_of_perm hns hperm, findMember_cons, findMember_cons, if_neg hkey,
              if_neg hkey] at hfound
            exact hfound
        obtain ⟨ns', hns', hnames, hvalues⟩ := ih hms.2 hnodup.2 hothers
        refine ⟨(name, w) :: ns', (hns'.cons _).trans hperm.symm, ?_, .cons hvw hvalues⟩
        exact congrArg (name :: ·) hnames

/-- **Objects with distinct names are the same** if under every name the same is found, or
nothing in both. -/
theorem same_object_iff (hms : (ms.map Prod.fst).Nodup) (hns : (ns.map Prod.fst).Nodup) :
    Same (.object ms) (.object ns) ↔
      ∀ name, Option.Rel Same (findMember name ms) (findMember name ns) := by
  constructor
  · rintro (_ | _ | _ | _ | _ | ⟨hms', hns', hnames, hvalues⟩) name
    rw [← findMember_eq_of_perm ((hms'.map Prod.fst).nodup_iff.mpr hms) hms',
      ← findMember_eq_of_perm ((hns'.map Prod.fst).nodup_iff.mpr hns) hns']
    exact found_of_forall₂ hnames hvalues name
  · intro found
    obtain ⟨ns', hns', hnames, hvalues⟩ := forall₂_of_found hms hns found
    exact .object (.refl ms) hns' hnames hvalues

end ClusterOperator.Json
