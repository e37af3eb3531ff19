import ClusterOperator.Proofs.Json.Canonical
import ClusterOperator.Proofs.Json.Record
import ClusterOperator.Proofs.Text.Numerals

/-!
# Canonical texts are read back

A canonical text is read as the document it was written from, with the members of every object in
the order of their names (`read_canonical`).  That holds of the documents that texts can hold: their
numbers are integers that fit a word, and containers do not stand too deep (`Plain`).

The reader goes by the first character, which tells what kind of document follows, and stops where
the document ends, whatever comes then.  It has steps enough, since each of them goes over a
character of the text.
-/

namespace ClusterOperator.Json

/-! ## Documents in order -/

mutual

/-- The document with the members of every object in the order of their names. -/
def ordered : Json → Json
  | .null => .null
  | .bool b => .bool b
  | .number n => .number n
  | .text s => .text s
  | .array xs => .array (orderedItems xs)
  | .object ms => .object (sortMembers (orderedMembers ms))

/-- The items of an array, each in order. -/
def orderedItems : List Json → List Json
  | [] => []
  | x :: rest => ordered x :: orderedItems rest

/-- Members with their values in order. -/
def orderedMembers : List (String × Json) → List (String × Json)
  | [] => []
  | (n, v) :: rest => (n, ordered v) :: orderedMembers rest

end

variable {v : Json} {xs : List Json} {ms : List (String × Json)} {r : List Char} {steps depth : Nat}

theorem ordered_array (xs : List Json) : ordered (.array xs) = .array (xs.map ordered) := by
  have hitems : orderedItems xs = xs.map ordered := by
    induction xs with
    | nil => rfl
    | cons x xs ih => rw [orderedItems, ih, List.map_cons]
  rw [ordered, hitems]

/-- Members are sorted by their names, so it makes no difference whether their values are put in
order before or after. -/
theorem ordered_object (ms : List (String × Json)) :
    ordered (.object ms) = .object ((sortMembers ms).map fun m => (m.1, m.2.ordered)) := by
  have hmembers : orderedMembers ms = ms.map fun m => (m.1, m.2.ordered) := by
    induction ms with
    | nil => rfl
    | cons m ms ih => rw [orderedMembers, ih, List.map_cons]
  have hsort : (sortMembers ms).map (fun m => (m.1, m.2.ordered)) =
      sortMembers (orderedMembers ms) := by
    rw [hmembers]
    exact List.map_mergeSort fun _ _ _ _ => rfl
  rw [ordered, hsort]

/-- **Putting members in order changes nothing** but their order. -/
theorem same_ordered (v : Json) : v.Same v.ordered := by
  induction v using induct with
  | null => exact .null
  | bool b => exact .bool b
  | number n => exact .number n
  | text s => exact .text s
  | array xs ih =>
    rw [ordered_array]
    refine .array ?_
    rw [List.forall₂_map_right_iff]
    exact List.forall₂_same.mpr ih
  | object ms ih =>
    rw [ordered_object]
    refine .object (sortMembers_perm ms) (.refl _) ?_ ?_
    · rw [List.map_map]
      rfl
    · rw [List.map_map, List.forall₂_map_left_iff, List.forall₂_map_right_iff]
      exact List.forall₂_same.mpr fun m hm => ih m ((sortMembers_perm ms).mem_iff.mp hm)

theorem names_ordered (ms : List (String × Json)) :
    ((sortMembers ms).map fun m => (m.1, m.2.ordered)).map Prod.fst =
      (sortMembers ms).map Prod.fst := by
  rw [List.map_map]
  rfl

theorem wellFormed_ordered (h : v.WellFormed) : v.ordered.WellFormed := by
  induction v using induct with
  | null | bool | number | text => exact h
  | array xs ih =>
    rw [ordered_array]
    refine .array (List.forall_mem_map.mpr fun x hx => ih x hx (h.item x hx))
  | object ms ih =>
    rw [ordered_object]
    refine .object ?_ (List.forall_mem_map.mpr fun m hm => ?_)
    · rw [names_ordered]
      exact ((sortMembers_perm ms).map Prod.fst).nodup_iff.mpr h.names
    · have hm : m ∈ ms := (sortMembers_perm ms).mem_iff.mp hm
      exact ih m hm (h.value m hm)

/-- So the canonical text stays as it is. -/
theorem canonical_ordered (h : v.WellFormed) : v.ordered.canonical = v.canonical :=
  ((canonical_eq_iff h (wellFormed_ordered h)).mpr (same_ordered v)).symm

/-! ## Documents as trees -/

theorem setMember_of_notMem {α : Type} {name : String} {value : α} {ms : List (String × α)}
    (h : name ∉ ms.map Prod.fst) : setMember name value ms = ms ++ [(name, value)] := by
  induction ms with
  | nil => rfl
  | cons m ms ih =>
    rw [List.map_cons, List.mem_cons, not_or] at h
    rw [setMember, if_neg (Ne.symm h.1), ih h.2, List.cons_append]

theorem itemsToJson_toTree (items : ∀ x ∈ xs, x.toTree.toJson = .ok x) :
    Tree.itemsToJson (xs.map toTree) = .ok xs := by
  induction xs with
  | nil => rfl
  | cons x xs ih =>
    rw [List.forall_mem_cons] at items
    rw [List.map_cons, Tree.itemsToJson, items.1, ih items.2]
    rfl

theorem membersToJson_toTree {known : List (String × Json)}
    (names : ((known ++ ms).map Prod.fst).Nodup) (values : ∀ m ∈ ms, m.2.toTree.toJson = .ok m.2) :
    Tree.membersToJson known (ms.map fun m => (some m.1, m.2.toTree)) = .ok (known ++ ms) := by
  induction ms generalizing known with
  | nil => rw [List.append_nil]; rfl
  | cons m ms ih =>
    obtain ⟨name, value⟩ := m
    rw [List.forall_mem_cons] at values
    have hname : name ∉ known.map Prod.fst := by
      rw [List.map_append, List.map_cons, List.nodup_append'] at names
      exact fun hmem => names.2.2 hmem List.mem_cons_self
    have hsplit : known ++ (name, value) :: ms = (known ++ [(name, value)]) ++ ms := by simp
    rw [hsplit] at names
    rw [List.map_cons, Tree.membersToJson, values.1, hsplit, ← ih names values.2,
      ← setMember_of_notMem hname]
    rfl

/-- **A document is what its tree stands for.** -/
theorem toJson_toTree (h : v.WellFormed) : v.toTree.toJson = .ok v := by
  induction v using induct with
  | null | bool | number | text => rfl
  | array xs ih =>
    rw [toTree_array, Tree.toJson, itemsToJson_toTree fun x hx => ih x hx (h.item x hx)]
    rfl
  | object ms ih =>
    have hmembers :
        Tree.membersToJson [] (ms.map fun m => (some m.1, m.2.toTree)) = .ok ([] ++ ms) :=
      membersToJson_toTree h.names fun m hm => ih m hm (h.value m hm)
    rw [toTree_object, Tree.toJson, hmembers]
    rfl

/-! ## Integers -/

theorem digitValue?_of_isEnd {c : Char} (h : isEnd c = true) : Text.digitValue? c = none := by
  simp only [isEnd, Bool.or_eq_true, decide_eq_true_eq] at h
  rcases h with (rfl | rfl) | rfl <;> rfl

/-- A run of digits is taken as far as it goes. -/
theorem spanDigits_append {ds : List Char} (hds : ∀ c ∈ ds, Binary64.isDigit c = true)
    (hr : Ended r) : spanDigits (ds ++ r) = (ds, r) := by
  induction ds with
  | nil =>
    cases r with
    | nil => rfl
    | cons c r => rw [List.nil_append, spanDigits, digitValue?_of_isEnd (hr c r rfl)]
  | cons c ds ih =>
    rw [List.forall_mem_cons] at hds
    obtain ⟨d, hd⟩ := Option.isSome_iff_exists.mp hds.1
    rw [List.cons_append, spanDigits, hd, ih hds.2]

theorem readFraction_ended (hr : Ended r) : readFraction r = .ok ([], r) := by
  cases r with
  | nil => rfl
  | cons c r =>
    have hc : c ≠ '.' := by
      rintro rfl
      exact nomatch hr _ _ rfl
    rw [readFraction]
    rintro s ⟨⟩
    exact hc rfl

theorem readExponent_ended (hr : Ended r) : readExponent r = .ok (none, r) := by
  cases r with
  | nil => rfl
  | cons c r =>
    have hc : ¬(c = 'e' ∨ c = 'E') := by
      rintro (rfl | rfl) <;> exact nomatch hr _ _ rfl
    rw [readExponent, if_neg hc]

/-- Only zero is written with a zero in front. -/
theorem eq_zero_of_toDigits {n : Nat} {ds : List Char} (h : Nat.toDigits 10 n = '0' :: ds) :
    n = 0 := by
  induction n using Nat.strongRecOn generalizing ds with
  | ind n ih =>
    rcases Nat.lt_or_ge n 10 with hn | hn
    · rw [Nat.toDigits_of_lt_base hn] at h
      have hdigit : ∀ k < 10, Nat.digitChar k = '0' → k = 0 := by decide
      exact hdigit n hn (List.cons.inj h).1
    · -- The first digit is that of a tenth.
      rw [Nat.toDigits_of_base_le (by decide) hn] at h
      obtain ⟨c, rest, hcons⟩ :=
        List.exists_cons_of_ne_nil (Nat.toDigits_ne_nil (n := n / 10) (b := 10))
      rw [hcons] at h
      obtain ⟨rfl, -⟩ := List.cons.inj h
      have hzero := ih (n / 10) (by omega) hcons
      omega

theorem readWhole_toDigits (n : Nat) (hr : Ended r) :
    readWhole (Nat.toDigits 10 n ++ r) = .ok (Nat.toDigits 10 n, r) := by
  have hspan : spanDigits (Nat.toDigits 10 n ++ r) = (Nat.toDigits 10 n, r) :=
    spanDigits_append (fun _ => Text.isDigit_of_mem_toDigits) hr
  obtain ⟨c, ds, hcons⟩ := List.exists_cons_of_ne_nil (Nat.toDigits_ne_nil (n := n) (b := 10))
  by_cases hc : c = '0'
  · subst hc
    obtain rfl := eq_zero_of_toDigits hcons
    rw [readWhole, hspan]
    rfl
  · rw [readWhole, hspan, hcons]
    split
    · rename_i heq; cases heq
    · rename_i heq; cases heq; exact absurd rfl hc
    · rename_i heq; cases heq; exact absurd rfl hc
    · rename_i heq; cases heq; rfl

theorem digitsValue_toDigits (n : Nat) : digitsValue (Nat.toDigits 10 n) = n :=
  (Text.valueOf_eq fun _ => Text.isDigit_of_mem_toDigits).trans Nat.ofDigitChars_ten_toDigits

theorem readMagnitude_toDigits {negative : Bool} {n : Nat} {k : Int}
    (hk : integerOf? negative n = some k) (hr : Ended r) :
    readMagnitude negative (Nat.toDigits 10 n ++ r) = .ok (.number (.integer k), r) := by
  have hnumber : numberOf negative (Nat.toDigits 10 n) [] none = .number (.integer k) := by
    rw [numberOf, digitsValue_toDigits, hk]
  rw [readMagnitude]
  simp only [readWhole_toDigits n hr, readFraction_ended hr, readExponent_ended hr, hnumber, bind,
    Except.bind]
  rfl

/-- **An integer that fits a word is read back.** -/
theorem readNumber_integer {k : Int} (hleast : -(Nat.pow 2 63 : Nat) ≤ k)
    (hgreatest : k < (Nat.pow 2 64 : Nat)) (hr : Ended r) :
    readNumber (numberChars (.integer k) ++ r) = .ok (.number (.integer k), r) := by
  cases k with
  | ofNat n =>
    have hk : integerOf? false n = some (n : Int) := if_pos (Int.ofNat_lt.mp hgreatest)
    rw [integerChars_ofNat]
    obtain ⟨c, ds, hcons⟩ := List.exists_cons_of_ne_nil (Nat.toDigits_ne_nil (n := n) (b := 10))
    have hsign : c ≠ '-' := by
      rintro rfl
      cases Text.isDigit_of_mem_toDigits (n := n) (hcons ▸ List.mem_cons_self)
    have hread := readMagnitude_toDigits hk hr
    rw [hcons] at hread ⊢
    rw [readNumber]
    · exact hread
    · rintro s ⟨⟩
      exact hsign rfl
  | negSucc n =>
    have hfits : n + 1 ≠ 0 ∧ n + 1 ≤ Nat.pow 2 63 := ⟨Nat.succ_ne_zero n, by omega⟩
    have hk : integerOf? true (n + 1) = some (Int.negSucc n) := by
      rw [integerOf?, if_pos rfl, if_pos hfits]
      rfl
    rw [integerChars_negSucc]
    exact readMagnitude_toDigits hk hr

/-! ## Documents -/

/-- **Documents that texts can hold**, up to so many containers inside one another: each name is
there once, and numbers are integers that fit a word, signed or unsigned. -/
inductive Plain : (depth : Nat) → Json → Prop where
  | null {depth : Nat} : Plain depth .null
  | bool {depth : Nat} (b : Bool) : Plain depth (.bool b)
  | integer {depth : Nat} {k : Int} : -(Nat.pow 2 63 : Nat) ≤ k → k < (Nat.pow 2 64 : Nat) →
      Plain depth (.number (.integer k))
  | text {depth : Nat} (s : String) : Plain depth (.text s)
  | array {depth : Nat} {xs : List Json} : (∀ x ∈ xs, Plain depth x) →
      Plain (depth + 1) (.array xs)
  | object {depth : Nat} {ms : List (String × Json)} : (ms.map Prod.fst).Nodup →
      (∀ m ∈ ms, Plain depth m.2) → Plain (depth + 1) (.object ms)

theorem Plain.wellFormed (h : v.Plain depth) : v.WellFormed := by
  induction h with
  | null => exact .null
  | bool b => exact .bool b
  | integer => exact .number trivial
  | text s => exact .text s
  | array _ ih => exact .array ih
  | object hnames _ ih => exact .object hnames ih

/-- No blank is at the front of a document. -/
theorem Plain.isSpace_eq {c : Char} {rest : List Char} (h : v.Plain depth)
    (htext : canonicalChars v = c :: rest) : isSpace c = false := by
  cases h with
  | null | text =>
    obtain ⟨rfl, -⟩ := List.cons.inj htext
    rfl
  | bool b =>
    cases b <;>
      (obtain ⟨rfl, -⟩ := List.cons.inj htext
       rfl)
  | array =>
    rw [canonicalChars_array] at htext
    obtain ⟨rfl, -⟩ := List.cons.inj htext
    rfl
  | object =>
    rw [canonicalChars_object] at htext
    obtain ⟨rfl, -⟩ := List.cons.inj htext
    rfl
  | integer =>
    rw [canonicalChars] at htext
    rcases mem_integerChars (htext ▸ List.mem_cons_self) with hdigit | rfl
    · refine Bool.eq_false_iff.mpr fun hspace => ?_
      simp only [isSpace, Bool.or_eq_true, decide_eq_true_eq] at hspace
      rcases hspace with ((rfl | rfl) | rfl) | rfl <;> cases hdigit
    · rfl

theorem skipSpace_cons {c : Char} {s : List Char} (h : isSpace c = false) :
    skipSpace (c :: s) = c :: s :=
  List.dropWhile_cons_of_neg (by simp [h])

/-- **A document is read back**, whatever follows it, with a step for each of its characters. -/
def ReadBack (depth : Nat) (v : Json) : Prop :=
  ∀ steps r, (canonicalChars v).length ≤ steps → Ended r →
    readValue steps depth (canonicalChars v ++ r) = .ok (v.ordered.toTree, r)

/-! ### Scalars -/

theorem readValue_scalar {c : Char} {s : List Char} (hspace : isSpace c = false)
    (harray : c ≠ '[') (hobject : c ≠ '\x7b') :
    readValue (steps + 1) depth (c :: s) = readScalar steps c (c :: s) := by
  rw [readValue, skipSpace_cons hspace]
  split
  · rename_i heq; cases heq
  · rename_i heq; cases heq; exact absurd rfl harray
  · rename_i heq; cases heq; exact absurd rfl hobject
  · rename_i heq; cases heq; rfl

/-- A character is written with at least one. -/
theorem length_le_escaped (cs : List Char) : cs.length ≤ (cs.flatMap escapeChar).length := by
  induction cs with
  | nil => exact Nat.le_refl 0
  | cons c cs ih =>
    have hc : 1 ≤ (escapeChar c).length := by
      rcases escapeChar_cases c with ⟨e, he, -⟩ | ⟨he, -⟩ <;> rw [he] <;> simp
    rw [List.flatMap_cons, List.length_append, List.length_cons]
    omega

theorem length_stringChars (s : String) : s.toList.length + 2 ≤ (stringChars s).length := by
  have hescaped := length_le_escaped s.toList
  simp only [stringChars, List.length_append, List.length_cons, List.length_nil]
  omega

theorem stringChars_append (s : String) (r : List Char) :
    stringChars s ++ r = '"' :: (s.toList.flatMap escapeChar ++ '"' :: r) := by
  simp only [stringChars, List.cons_append, List.append_assoc, List.nil_append]

theorem readBack_text (s : String) : ReadBack depth (.text s) := by
  intro steps r hsteps _
  rw [canonicalChars] at hsteps ⊢
  have hlength := length_stringChars s
  obtain ⟨n, rfl⟩ := Nat.exists_eq_add_one.mpr (show 0 < steps by omega)
  have hread : readString n (s.toList.flatMap escapeChar ++ '"' :: r) = .ok (some s, r) :=
    readString_written (by omega)
  rw [stringChars_append, readValue_scalar rfl (by decide) (by decide), readScalar, if_pos rfl,
    List.drop_one, List.tail_cons, hread]
  rfl

theorem readBack_integer {k : Int} (hleast : -(Nat.pow 2 63 : Nat) ≤ k)
    (hgreatest : k < (Nat.pow 2 64 : Nat)) : ReadBack depth (.number (.integer k)) := by
  intro steps r hsteps hr
  rw [canonicalChars] at hsteps ⊢
  obtain ⟨⟨c, rest, htext, hlead⟩, -⟩ := numeral_integer k
  obtain ⟨n, rfl⟩ := Nat.exists_eq_add_one.mpr
    (show 0 < steps by rw [htext, List.length_cons] at hsteps; omega)
  have hplain : (Json.number (.integer k)).Plain 0 := .integer hleast hgreatest
  have hspace : isSpace c = false := hplain.isSpace_eq (by rw [canonicalChars, htext])
  have hread := readNumber_integer hleast hgreatest hr
  have hnot : ∀ d, isLead d = true → c ≠ d := by
    rintro d hd rfl
    rw [hlead] at hd
    cases hd
  rw [htext, List.cons_append] at hread ⊢
  rw [readValue_scalar hspace (hnot '[' rfl) (hnot '\x7b' rfl), readScalar,
    if_neg (hnot '"' rfl), if_neg (hnot 't' rfl), if_neg (hnot 'f' rfl), if_neg (hnot 'n' rfl),
    hread]
  rfl

/-! ### Arrays -/

theorem readItems_joined (items : ∀ x ∈ xs, ReadBack depth x) (hne : xs ≠ [])
    (hsteps : (joined ',' (xs.map canonicalChars)).length < steps) :
    readItems steps depth (joined ',' (xs.map canonicalChars) ++ ']' :: r) =
      .ok (xs.map fun x => x.ordered.toTree, r) := by
  induction xs generalizing steps with
  | nil => exact absurd rfl hne
  | cons x xs ih =>
    rw [List.forall_mem_cons] at items
    obtain ⟨n, rfl⟩ := Nat.exists_eq_add_one.mpr (Nat.zero_lt_of_lt hsteps)
    rw [joined_append, readItems]
    cases xs with
    | nil =>
      have hx := items.1 n (']' :: r) (Nat.le_of_lt_succ hsteps) (ended_cons rfl)
      simp only [afterFirst, hx, bind, Except.bind]
      rfl
    | cons y ys =>
      rw [List.map_cons, List.map_cons, joined_cons_cons, List.length_append,
        List.length_cons] at hsteps
      have hx := items.1 n (afterFirst canonicalChars ']' r (y :: ys)) (by omega) (ended_cons rfl)
      have hrest := ih items.2 (List.cons_ne_nil y ys)
        (show (joined ',' ((y :: ys).map canonicalChars)).length < n by rw [List.map_cons]; omega)
      simp only [hx, bind, Except.bind]
      simp only [afterFirst, skipSpace_cons (c := ',') rfl, hrest]
      rfl

theorem readBack_array (plain : ∀ x ∈ xs, x.Plain depth) (items : ∀ x ∈ xs, ReadBack depth x) :
    ReadBack (depth + 1) (.array xs) := by
  intro steps r hsteps _
  rw [canonicalChars_array] at hsteps ⊢
  rw [List.length_append, List.length_cons] at hsteps
  obtain ⟨n, rfl⟩ := Nat.exists_eq_add_one.mpr (Nat.zero_lt_of_lt hsteps)
  rw [List.append_assoc, List.cons_append, readValue, skipSpace_cons rfl, ordered_array,
    toTree_array, List.map_map]
  cases xs with
  | nil => rfl
  | cons x xs =>
    have hread := readItems_joined (r := r) items (List.cons_ne_nil x xs)
      (show (joined ',' ((x :: xs).map canonicalChars)).length < n by
        rw [List.length_singleton] at hsteps; omega)
    obtain ⟨c, rest, htext, hend, -⟩ := canonicalChars_begins x
    have hspace : isSpace c = false := (plain x List.mem_cons_self).isSpace_eq htext
    have hc : c ≠ ']' := by
      rintro rfl
      cases hend
    simp only [joined_append, htext, List.cons_append, List.nil_append] at hread ⊢
    rw [skipSpace_cons hspace]
    split
    · rename_i heq; cases heq; exact absurd rfl hc
    · rw [Nat.add_sub_cancel, hread]
      rfl

/-! ### Objects -/

theorem readName_written {name : String} (hsteps : name.toList.length < steps) :
    readName steps (stringChars name ++ ':' :: r) = .ok (some name, r) := by
  have hread : readString steps (name.toList.flatMap escapeChar ++ '"' :: ':' :: r) =
      .ok (some name, ':' :: r) := readString_written hsteps
  rw [stringChars_append, readName, hread]
  rfl

theorem readMembers_joined (values : ∀ m ∈ ms, ReadBack depth m.2) (hne : ms ≠ [])
    (hsteps : (joined ',' (ms.map memberChars)).length < steps) :
    readMembers steps depth (joined ',' (ms.map memberChars) ++ '\x7d' :: r) =
      .ok (ms.map fun m => (some m.1, m.2.ordered.toTree), r) := by
  induction ms generalizing steps with
  | nil => exact absurd rfl hne
  | cons m ms ih =>
    rw [List.forall_mem_cons] at values
    obtain ⟨n, rfl⟩ := Nat.exists_eq_add_one.mpr (Nat.zero_lt_of_lt hsteps)
    have hname := length_stringChars m.1
    have hlength : (memberChars m).length =
        (stringChars m.1).length + (canonicalChars m.2).length + 1 := by
      rw [memberChars, List.length_append, List.length_cons, Nat.add_assoc]
    rw [joined_append, memberChars, List.append_assoc, List.cons_append, readMembers]
    have hquote : ∀ t, skipSpace (stringChars m.1 ++ t) = stringChars m.1 ++ t :=
      fun _ => skipSpace_cons rfl
    cases ms with
    | nil =>
      rw [List.map_singleton, joined, hlength] at hsteps
      have hm := values.1 n ('\x7d' :: r) (by omega) (ended_cons rfl)
      simp only [afterFirst, hquote, readName_written (show m.1.toList.length < n by omega), hm,
        bind, Except.bind]
      rfl
    | cons k ks =>
      rw [List.map_cons, List.map_cons, joined_cons_cons, List.length_append,
        List.length_cons, hlength] at hsteps
      have hm := values.1 n (afterFirst memberChars '\x7d' r (k :: ks)) (by omega) (ended_cons rfl)
      have hrest := ih values.2 (List.cons_ne_nil k ks)
        (show (joined ',' ((k :: ks).map memberChars)).length < n by rw [List.map_cons]; omega)
      simp only [hquote, readName_written (show m.1.toList.length < n by omega), hm, bind,
        Except.bind]
      simp only [afterFirst, skipSpace_cons (c := ',') rfl, hrest]
      rfl

theorem readBack_object (values : ∀ m ∈ ms, ReadBack depth m.2) :
    ReadBack (depth + 1) (.object ms) := by
  intro steps r hsteps _
  rw [canonicalChars_object] at hsteps ⊢
  rw [List.length_append, List.length_cons] at hsteps
  obtain ⟨n, rfl⟩ := Nat.exists_eq_add_one.mpr (Nat.zero_lt_of_lt hsteps)
  rw [List.append_assoc, List.cons_append, readValue, skipSpace_cons rfl, ordered_object,
    toTree_object, List.map_map]
  have hvalues : ∀ m ∈ sortMembers ms, ReadBack depth m.2 := fun m hm =>
    values m ((sortMembers_perm ms).mem_iff.mp hm)
  cases hsorted : sortMembers ms with
  | nil => rfl
  | cons m rest =>
    rw [hsorted] at hsteps hvalues
    have hread := readMembers_joined (r := r) hvalues (List.cons_ne_nil m rest)
      (show (joined ',' ((m :: rest).map memberChars)).length < n by
        rw [List.length_singleton] at hsteps; omega)
    simp only [joined_append, memberChars, stringChars, List.cons_append, List.nil_append]
      at hread ⊢
    rw [skipSpace_cons rfl]
    split
    · rename_i heq; cases heq
    · rw [Nat.add_sub_cancel, hread]
      rfl

/-- **What was written is read back.** -/
theorem Plain.readBack (h : v.Plain depth) : ReadBack depth v := by
  induction h with
  | null =>
    intro steps r hsteps _
    obtain ⟨n, rfl⟩ := Nat.exists_eq_add_one.mpr (Nat.zero_lt_of_lt hsteps)
    rfl
  | bool b =>
    intro steps r hsteps _
    cases b <;>
      (obtain ⟨n, rfl⟩ := Nat.exists_eq_add_one.mpr (Nat.zero_lt_of_lt hsteps)
       rfl)
  | integer hleast hgreatest => exact readBack_integer hleast hgreatest
  | text s => exact readBack_text s
  | array plain ih => exact readBack_array plain ih
  | object _ _ ih => exact readBack_object ih

/-- **A canonical text is read as the document in order.** -/
theorem read_canonical (h : v.Plain depthLimit) : read v.canonical = .ok v.ordered := by
  have hread := h.readBack ((canonicalChars v).length + 1) [] (Nat.le_succ _) ended_nil
  rw [List.append_nil] at hread
  have htree : readTree v.canonical = .ok v.ordered.toTree := by
    rw [readTree, canonical, String.toList_ofList]
    simp only [hread, bind, Except.bind]
    rfl
  rw [read, htree]
  exact toJson_toTree (wellFormed_ordered h.wellFormed)

end ClusterOperator.Json
