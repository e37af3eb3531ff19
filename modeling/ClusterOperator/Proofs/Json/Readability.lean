import ClusterOperator.Proofs.Json.Numbers
import ClusterOperator.Proofs.Json.Sameness
import ClusterOperator.Proofs.Json.Strings

/-!
# Canonical texts can be read in one way only

If two texts begin with canonical texts of documents, and after each of these comes nothing
or a mark that ends a document, then the documents are the same and what follows is equal
(`readAlike`).  The first character of a canonical text tells what kind of document it is of;
a number ends where the first such mark stands, a string where it is read to end, and the
items of an array and the members of an object are taken off the text one after another.
-/

namespace ClusterOperator.Json

variable {u v r s : List Char} {a b : Json}

/-! ## Where a document ends -/

/-- Nothing follows, or a mark that ends a document. -/
def Ended (r : List Char) : Prop := ∀ c rest, r = c :: rest → isEnd c = true

theorem ended_nil : Ended [] := nofun

theorem ended_cons {c : Char} (h : isEnd c = true) : Ended (c :: r) := by
  rintro _ _ ⟨⟩
  exact h

/-- Texts without such a mark are told apart by what follows them. -/
theorem cancel_of_free (hu : ∀ c ∈ u, isEnd c = false) (hv : ∀ c ∈ v, isEnd c = false)
    (hr : Ended r) (hs : Ended s) (h : u ++ r = v ++ s) : u = v ∧ r = s := by
  induction u generalizing v with
  | nil =>
    cases v with
    | nil => exact ⟨rfl, h⟩
    | cons d v =>
      have hend := hr d (v ++ s) h
      rw [hv d List.mem_cons_self] at hend
      cases hend
  | cons c u ih =>
    rw [List.forall_mem_cons] at hu
    cases v with
    | nil =>
      have hend := hs c (u ++ r) h.symm
      rw [hu.1] at hend
      cases hend
    | cons d v =>
      rw [List.forall_mem_cons] at hv
      obtain ⟨rfl, hrest⟩ := List.cons.inj h
      obtain ⟨rfl, rfl⟩ := ih hu.2 hv.2 hrest
      exact ⟨rfl, rfl⟩

/-! ## Lists with commas between them -/

theorem joined_cons_cons {sep : Char} {x y : List Char} {rest : List (List Char)} :
    joined sep (x :: y :: rest) = x ++ sep :: joined sep (y :: rest) := rfl

section

variable {α : Type} {text : α → List Char} {R : α → α → Prop} {mark : Char}

/-- What comes after the first of several texts that are joined. -/
def afterFirst (text : α → List Char) (mark : Char) (r : List Char) : List α → List Char
  | [] => mark :: r
  | x :: xs => ',' :: (joined ',' ((x :: xs).map text) ++ mark :: r)

theorem joined_append (x : α) (xs : List α) :
    joined ',' ((x :: xs).map text) ++ mark :: r = text x ++ afterFirst text mark r xs := by
  cases xs with
  | nil => rfl
  | cons y ys =>
    rw [List.map_cons, List.map_cons, joined_cons_cons, List.append_assoc]
    rfl

theorem ended_afterFirst (hmark : isEnd mark = true) (xs : List α) :
    Ended (afterFirst text mark r xs) := by
  cases xs with
  | nil => exact ended_cons hmark
  | cons x xs => exact ended_cons rfl

/-- **Joined texts are taken apart one by one**, if each of them is readable and none begins
with a mark that ends a document. -/
theorem joined_cancel {xs ys : List α} (hmark : isEnd mark = true) (hcomma : mark ≠ ',')
    (begins : ∀ x, ∃ c rest, text x = c :: rest ∧ isEnd c = false)
    (readable : ∀ x ∈ xs, ∀ y ∈ ys, ∀ r s, Ended r → Ended s → text x ++ r = text y ++ s →
      R x y ∧ r = s)
    (h : joined ',' (xs.map text) ++ mark :: r = joined ',' (ys.map text) ++ mark :: s) :
    List.Forall₂ R xs ys ∧ r = s := by
  have hbegins : ∀ x xs t, mark :: t ≠ joined ',' ((x :: xs).map text) ++ mark :: r ∧
      mark :: t ≠ joined ',' ((x :: xs).map text) ++ mark :: s := by
    intro x xs t
    obtain ⟨c, rest, htext, hc⟩ := begins x
    have hne : c ≠ mark := by
      rintro rfl
      rw [hmark] at hc
      cases hc
    rw [joined_append, joined_append, htext]
    exact ⟨fun heq => hne (List.cons.inj heq).1.symm, fun heq => hne (List.cons.inj heq).1.symm⟩
  induction xs generalizing ys with
  | nil =>
    cases ys with
    | nil => exact ⟨.nil, (List.cons.inj h).2⟩
    | cons y ys => exact absurd h (hbegins y ys r).2
  | cons x xs ih =>
    cases ys with
    | nil => exact absurd h.symm (hbegins x xs s).1
    | cons y ys =>
      rw [joined_append, joined_append] at h
      obtain ⟨hxy, hafter⟩ := readable x List.mem_cons_self y List.mem_cons_self _ _
        (ended_afterFirst hmark xs) (ended_afterFirst hmark ys) h
      have hrest : ∀ x ∈ xs, ∀ y ∈ ys, ∀ r s, Ended r → Ended s → text x ++ r = text y ++ s →
          R x y ∧ r = s := fun x hx y hy =>
        readable x (List.mem_cons_of_mem _ hx) y (List.mem_cons_of_mem _ hy)
      -- Both lists end here, or both go on after a comma.
      cases xs with
      | nil =>
        cases ys with
        | nil => exact ⟨.cons hxy .nil, (List.cons.inj hafter).2⟩
        | cons y' ys => exact absurd (List.cons.inj hafter).1 hcomma
      | cons x' xs =>
        cases ys with
        | nil => exact absurd (List.cons.inj hafter).1.symm hcomma
        | cons y' ys =>
          obtain ⟨hothers, hend⟩ := ih hrest (List.cons.inj hafter).2
          exact ⟨.cons hxy hothers, hend⟩

end

/-! ## The parts of a canonical text -/

theorem canonicalItems_eq_map (xs : List Json) : canonicalItems xs = xs.map canonicalChars := by
  induction xs with
  | nil => rfl
  | cons x xs ih => rw [canonicalItems, ih, List.map_cons]

theorem canonicalMembers_eq_map (ms : List (String × Json)) :
    canonicalMembers ms = ms.map fun m => (m.1, canonicalChars m.2) := by
  induction ms with
  | nil => rfl
  | cons m ms ih => rw [canonicalMembers, ih, List.map_cons]

/-- The text of a member. -/
def memberChars (m : String × Json) : List Char := stringChars m.1 ++ ':' :: canonicalChars m.2

/-- Members are sorted by their names, so it makes no difference whether their values are
written before or after. -/
theorem sorted_memberChars (ms : List (String × Json)) :
    ((sortMembers (canonicalMembers ms)).map fun m => stringChars m.1 ++ ':' :: m.2) =
      (sortMembers ms).map memberChars := by
  have hsort : (sortMembers ms).map (fun m => (m.1, canonicalChars m.2)) =
      sortMembers (canonicalMembers ms) := by
    rw [canonicalMembers_eq_map]
    exact List.map_mergeSort fun _ _ _ _ => rfl
  rw [← hsort, List.map_map]
  rfl

theorem canonicalChars_array (xs : List Json) :
    canonicalChars (.array xs) = '[' :: joined ',' (xs.map canonicalChars) ++ [']'] := by
  rw [canonicalChars, canonicalItems_eq_map]

theorem canonicalChars_object (ms : List (String × Json)) :
    canonicalChars (.object ms) =
      '\x7b' :: joined ',' ((sortMembers ms).map memberChars) ++ ['\x7d'] := by
  rw [canonicalChars, sorted_memberChars]

theorem sortMembers_perm {α : Type} (ms : List (String × α)) : (sortMembers ms).Perm ms :=
  List.mergeSort_perm ms nameLe

/-- The character that a document which is no number begins with. -/
def lead : Json → Option Char
  | .null => some 'n'
  | .bool true => some 't'
  | .bool false => some 'f'
  | .number _ => none
  | .text _ => some '"'
  | .array _ => some '['
  | .object _ => some '\x7b'

/-- The first character of a canonical text tells what begins there. -/
theorem canonicalChars_begins (v : Json) : ∃ c rest, canonicalChars v = c :: rest ∧
    isEnd c = false ∧ v.lead = if isLead c then some c else none := by
  cases v with
  | null => exact ⟨'n', _, by rw [canonicalChars], rfl, rfl⟩
  | bool b =>
    cases b
    · exact ⟨'f', _, by rw [canonicalChars], rfl, rfl⟩
    · exact ⟨'t', _, by rw [canonicalChars], rfl, rfl⟩
  | number n =>
    obtain ⟨⟨c, rest, hcons, hlead⟩, hfree⟩ := numeral_numberChars n
    refine ⟨c, rest, ?_, hfree c (hcons ▸ List.mem_cons_self), ?_⟩
    · rw [canonicalChars, hcons]
    · rw [hlead]
      rfl
  | text s => exact ⟨'"', _, by rw [canonicalChars, stringChars, List.cons_append], rfl, rfl⟩
  | array xs => exact ⟨'[', _, canonicalChars_array xs, rfl, rfl⟩
  | object ms => exact ⟨'\x7b', _, canonicalChars_object ms, rfl, rfl⟩

theorem lead_eq (h : canonicalChars a ++ r = canonicalChars b ++ s) : a.lead = b.lead := by
  obtain ⟨c, _, hc, -, ha⟩ := canonicalChars_begins a
  obtain ⟨d, _, hd, -, hb⟩ := canonicalChars_begins b
  rw [hc, hd] at h
  obtain ⟨rfl, -⟩ := List.cons.inj h
  rw [ha, hb]

/-! ## Documents -/

/-- Texts that begin with canonical texts of the two documents can only be equal if the
documents are the same and the same follows. -/
def ReadAlike (a b : Json) : Prop :=
  ∀ r s, Ended r → Ended s → canonicalChars a ++ r = canonicalChars b ++ s → a.Same b ∧ r = s

theorem readAlike_array {xs ys : List Json} (items : ∀ x ∈ xs, ∀ y ∈ ys, ReadAlike x y) :
    ReadAlike (.array xs) (.array ys) := by
  intro r s _ _ h
  rw [canonicalChars_array, canonicalChars_array] at h
  simp only [List.cons_append, List.append_assoc, List.nil_append, List.cons.injEq,
    true_and] at h
  have hbegins : ∀ v, ∃ c rest, canonicalChars v = c :: rest ∧ isEnd c = false := by
    intro v
    obtain ⟨c, rest, htext, hend, -⟩ := canonicalChars_begins v
    exact ⟨c, rest, htext, hend⟩
  obtain ⟨hitems, hrest⟩ := joined_cancel rfl (by decide) hbegins items h
  exact ⟨.array hitems, hrest⟩

theorem readAlike_object {ms ns : List (String × Json)}
    (values : ∀ m ∈ ms, ∀ n ∈ ns, ReadAlike m.2 n.2) :
    ReadAlike (.object ms) (.object ns) := by
  intro r s _ _ h
  rw [canonicalChars_object, canonicalChars_object] at h
  simp only [List.cons_append, List.append_assoc, List.nil_append, List.cons.injEq,
    true_and] at h
  have hbegins : ∀ m, ∃ c rest, memberChars m = c :: rest ∧ isEnd c = false :=
    fun m => ⟨'"', _, rfl, rfl⟩
  -- A member is taken off the text with its name first, then its value.
  have hmember : ∀ m ∈ sortMembers ms, ∀ n ∈ sortMembers ns, ∀ r s, Ended r → Ended s →
      memberChars m ++ r = memberChars n ++ s → (m.1 = n.1 ∧ m.2.Same n.2) ∧ r = s := by
    intro m hm n hn r s hr hs hmn
    rw [memberChars, memberChars, List.append_assoc, List.append_assoc] at hmn
    obtain ⟨hname, hvalue⟩ := stringChars_cancel hmn
    have hvalues : ReadAlike m.2 n.2 :=
      values m ((sortMembers_perm ms).mem_iff.mp hm) n ((sortMembers_perm ns).mem_iff.mp hn)
    obtain ⟨hsame, hrest⟩ := hvalues r s hr hs (List.cons.inj hvalue).2
    exact ⟨⟨hname, hsame⟩, hrest⟩
  obtain ⟨hmembers, hrest⟩ := joined_cancel rfl (by decide) hbegins hmember h
  refine ⟨.object (sortMembers_perm ms) (sortMembers_perm ns) ?_ ?_, hrest⟩
  · rw [← List.forall₂_eq_eq_eq, List.forall₂_map_left_iff, List.forall₂_map_right_iff]
    exact hmembers.imp fun _ _ => And.left
  · rw [List.forall₂_map_left_iff, List.forall₂_map_right_iff]
    exact hmembers.imp fun _ _ => And.right

/-- **Canonical texts can be read in one way only**, up to the order of members. -/
theorem readAlike (ha : a.WellFormed) (hb : b.WellFormed) : ReadAlike a b := by
  induction a using induct generalizing b with
  | null =>
    intro r s _ _ h
    have hlead := lead_eq h
    cases b with
    | null => exact ⟨.null, List.append_cancel_left h⟩
    | bool y => cases y <;> cases hlead
    | _ => cases hlead
  | bool x =>
    intro r s _ _ h
    have hlead := lead_eq h
    cases b with
    | bool y =>
      obtain rfl : x = y := by
        cases x <;> cases y <;> first | rfl | cases hlead
      exact ⟨.bool x, List.append_cancel_left h⟩
    | _ => cases x <;> cases hlead
  | number n =>
    intro r s hr hs h
    have hlead := lead_eq h
    cases b with
    | number m =>
      rw [canonicalChars, canonicalChars] at h
      obtain ⟨hchars, hrest⟩ :=
        cancel_of_free (numeral_numberChars n).free (numeral_numberChars m).free hr hs h
      obtain rfl : n = m :=
        numberChars_inj (wellFormed_number_iff.mp ha) (wellFormed_number_iff.mp hb) hchars
      exact ⟨.number n, hrest⟩
    | bool y => cases y <;> cases hlead
    | _ => cases hlead
  | text t =>
    intro r s _ _ h
    have hlead := lead_eq h
    cases b with
    | text t' =>
      rw [canonicalChars, canonicalChars] at h
      obtain ⟨rfl, hrest⟩ := stringChars_cancel h
      exact ⟨.text t, hrest⟩
    | bool y => cases y <;> cases hlead
    | _ => cases hlead
  | array xs ih =>
    intro r s hr hs h
    have hlead := lead_eq h
    cases b with
    | array ys =>
      have hitems : ∀ x ∈ xs, ∀ y ∈ ys, ReadAlike x y :=
        fun x hx y hy => ih x hx (ha.item x hx) (hb.item y hy)
      exact readAlike_array hitems r s hr hs h
    | bool y => cases y <;> cases hlead
    | _ => cases hlead
  | object ms ih =>
    intro r s hr hs h
    have hlead := lead_eq h
    cases b with
    | object ns =>
      have hvalues : ∀ m ∈ ms, ∀ n ∈ ns, ReadAlike m.2 n.2 :=
        fun m hm n hn => ih m hm (ha.value m hm) (hb.value n hn)
      exact readAlike_object hvalues r s hr hs h
    | bool y => cases y <;> cases hlead
    | _ => cases hlead

end ClusterOperator.Json
