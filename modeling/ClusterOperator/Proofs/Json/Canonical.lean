import ClusterOperator.Proofs.Json.Readability

/-!
# Equal canonical texts, same documents

Members with distinct names can be sorted in one way only, so documents that are the same up
to the order of members have one canonical text (`canonicalChars_eq_of_same`); and a canonical
text can be read in one way only, so documents that have one are the same.  Together: the
canonical text decides whether two documents are the same (`canonical_eq_iff`), and a checksum
is taken over what a document says, whatever the order its members stand in.
-/

namespace ClusterOperator.Json

variable {α : Type} {a b : Json} {xs ys : List Json} {ms ns : List (String × α)}

/-! ## The order of names -/

theorem nameLe_iff {m n : String × α} : nameLe m n = true ↔ m.1 ≤ n.1 := by
  rw [nameLe, Bool.not_eq_true', decide_eq_false_iff_not]
  exact String.not_lt

theorem nameLe_trans (k m n : String × α) (hkm : nameLe k m = true) (hmn : nameLe m n = true) :
    nameLe k n = true := by
  rw [nameLe_iff] at *
  exact String.le_trans hkm hmn

theorem nameLe_total (m n : String × α) : (nameLe m n || nameLe n m) = true := by
  rw [Bool.or_eq_true, nameLe_iff, nameLe_iff]
  exact String.le_total m.1 n.1

theorem sorted_sortMembers (ms : List (String × α)) :
    (sortMembers ms).Pairwise fun m n => nameLe m n = true :=
  List.pairwise_mergeSort nameLe_trans nameLe_total ms

/-- **Members with distinct names can be sorted in one way only.** -/
theorem sortMembers_eq_of_perm (distinct : (ms.map Prod.fst).Nodup) (h : ms.Perm ns) :
    sortMembers ms = sortMembers ns := by
  refine List.Perm.eq_of_pairwise ?_ (sorted_sortMembers ms) (sorted_sortMembers ns)
    ((sortMembers_perm ms).trans (h.trans (sortMembers_perm ns).symm))
  intro m n hm hn hmn hnm
  have hname : m.1 = n.1 := String.le_antisymm (nameLe_iff.mp hmn) (nameLe_iff.mp hnm)
  have hfirst := (findMember_eq_some_iff distinct).mpr ((sortMembers_perm ms).mem_iff.mp hm)
  have hsecond := (findMember_eq_some_iff distinct).mpr
    (h.mem_iff.mpr ((sortMembers_perm ns).mem_iff.mp hn))
  rw [hname, hsecond] at hfirst
  exact Prod.ext hname (Option.some.inj hfirst).symm

/-! ## The same documents are written alike -/

theorem map_canonicalChars_eq (h : List.Forall₂ Same xs ys)
    (alike : ∀ x ∈ xs, ∀ y, Same x y → canonicalChars x = canonicalChars y) :
    xs.map canonicalChars = ys.map canonicalChars := by
  induction h with
  | nil => rfl
  | cons hxy _ ih =>
    rw [List.forall_mem_cons] at alike
    rw [List.map_cons, List.map_cons, alike.1 _ hxy, ih alike.2]

theorem canonicalMembers_eq_zip (ms : List (String × Json)) :
    canonicalMembers ms =
      (ms.map Prod.fst).zip ((ms.map Prod.snd).map canonicalChars) := by
  rw [canonicalMembers_eq_map, List.map_map, List.zip_map']
  rfl

theorem canonicalMembers_perm {ms ns : List (String × Json)} (h : ms.Perm ns) :
    (canonicalMembers ms).Perm (canonicalMembers ns) := by
  rw [canonicalMembers_eq_map, canonicalMembers_eq_map]
  exact h.map _

theorem names_canonicalMembers (ms : List (String × Json)) :
    (canonicalMembers ms).map Prod.fst = ms.map Prod.fst := by
  rw [canonicalMembers_eq_map, List.map_map]
  rfl

/-- **Documents that are the same are written alike.** -/
theorem canonicalChars_eq_of_same (ha : a.WellFormed) (h : a.Same b) :
    canonicalChars a = canonicalChars b := by
  induction a using induct generalizing b with
  | null => cases h; rfl
  | bool x => cases h; rfl
  | number n => cases h; rfl
  | text s => cases h; rfl
  | array xs ih =>
    cases h with
    | array hitems =>
      rw [canonicalChars_array, canonicalChars_array,
        map_canonicalChars_eq hitems fun x hx _ => ih x hx (ha.item x hx)]
  | object ms ih =>
    cases h with
    | @object _ ms' ns ns' hms hns hnames hvalues =>
      have halike : ∀ v ∈ ms'.map Prod.snd, ∀ w, Same v w →
          canonicalChars v = canonicalChars w := by
        intro v hv w
        obtain ⟨m, hm, rfl⟩ := List.mem_map.mp hv
        have hm' : m ∈ ms := hms.mem_iff.mp hm
        exact ih m hm' (ha.value m hm')
      have hmembers : canonicalMembers ms' = canonicalMembers ns' := by
        rw [canonicalMembers_eq_zip, canonicalMembers_eq_zip, hnames,
          map_canonicalChars_eq hvalues halike]
      have hperm : (canonicalMembers ms).Perm (canonicalMembers ns) :=
        (canonicalMembers_perm hms.symm).trans (hmembers ▸ canonicalMembers_perm hns)
      have hdistinct : ((canonicalMembers ms).map Prod.fst).Nodup :=
        names_canonicalMembers ms ▸ ha.names
      rw [canonicalChars, canonicalChars, sortMembers_eq_of_perm hdistinct hperm]

/-- The canonical text of documents decides whether they are the same. -/
theorem canonical_eq_iff (ha : a.WellFormed) (hb : b.WellFormed) :
    canonical a = canonical b ↔ a.Same b := by
  constructor
  · intro h
    have hchars : canonicalChars a ++ [] = canonicalChars b ++ [] :=
      congrArg (· ++ []) (String.ofList_inj.mp h)
    exact (readAlike ha hb [] [] ended_nil ended_nil hchars).1
  · intro h
    exact congrArg String.ofList (canonicalChars_eq_of_same ha h)

end ClusterOperator.Json
