import ClusterOperator.Binary64.Numeral
import ClusterOperator.Text.Blank
import Mathlib.Data.List.TakeWhile

/-!
# Digits, blanks and unsigned numerals

A run of digits stands for one number, and the decimal digits of a number stand for it.  Blanks
around a text are passed over, and nothing else is.

An unsigned numeral is one or more digits, behind a plus sign or none (`Unsigned`).  It is read up
to a limit that is looked at digit by digit; as digits only ever make a number larger, that is as
good as looking at the number in the end (`readNumeral_eq_ok_iff`).
-/

namespace ClusterOperator.Text

open Binary64 (isDigit)

variable {c : Char} {s ds : List Char} {n acc limit : Nat}

/-! ## Digits -/

theorem isDigit_iff : isDigit c = true ↔ 48 ≤ c.toNat ∧ c.toNat ≤ 57 := by
  have hrange : ('0' ≤ c ∧ c ≤ '9') ↔ 48 ≤ c.toNat ∧ c.toNat ≤ 57 := Iff.rfl
  rw [isDigit, digitValue?, ← hrange]
  split
  · rename_i h
    exact iff_of_true rfl h
  · rename_i h
    exact iff_of_false Bool.false_ne_true h

theorem isDigit_eq : isDigit c = c.isDigit := by
  rw [Bool.eq_iff_iff, isDigit_iff]
  simp [Char.isDigit, UInt32.le_iff_toNat_le]

theorem digitValue?_of_isDigit (h : isDigit c = true) :
    digitValue? c = some (c.toNat - '0'.toNat) := if_pos (isDigit_iff.mp h)

theorem isDigit_of_mem_toDigits (h : c ∈ Nat.toDigits 10 n) : isDigit c = true :=
  isDigit_eq.trans (Nat.isDigit_of_mem_toDigits (by decide) (by decide) h)

/-- Digits stand for the number that has them. -/
theorem valueOf_eq (h : ∀ c ∈ ds, isDigit c = true) :
    Binary64.valueOf ds = Nat.ofDigitChars 10 ds 0 := by
  have hfold : ∀ acc, ds.foldl (fun n c => n * 10 + (digitValue? c).getD 0) acc =
      ds.foldl (fun n c => 10 * n + (c.toNat - '0'.toNat)) acc := by
    induction ds with
    | nil => exact fun _ => rfl
    | cons c ds ih =>
      intro acc
      rw [List.forall_mem_cons] at h
      rw [List.foldl_cons, List.foldl_cons, digitValue?_of_isDigit h.1, Option.getD_some,
        Nat.mul_comm, ih h.2]
  rw [Nat.ofDigitChars_eq_foldl]
  exact hfold 0

/-! ## Blanks -/

theorem isBlank_of_isDigit (h : isDigit c = true) : isBlank c = false := by
  rw [isDigit_iff] at h
  simp [isBlank, inRanges, blankRanges]
  omega

theorem trimStart_of_notBlank (h : ∀ c ∈ s, isBlank c = false) : s.dropWhile isBlank = s := by
  cases s with
  | nil => rfl
  | cons c s => exact List.dropWhile_cons_of_neg (by simp [h c List.mem_cons_self])

/-- Blanks around a text without blanks are passed over. -/
theorem trim_append {front behind : List Char} (hfront : ∀ c ∈ front, isBlank c = true)
    (hbehind : ∀ c ∈ behind, isBlank c = true) (h : ∀ c ∈ s, isBlank c = false) :
    trim (front ++ (s ++ behind)) = s := by
  have hstart : trimStart (front ++ (s ++ behind)) = trimStart (s ++ behind) :=
    List.dropWhile_append_of_pos hfront
  cases s with
  | nil =>
    have hnone : trimStart behind = [] := List.dropWhile_eq_nil_iff.mpr hbehind
    rw [trim, hstart, List.nil_append, hnone]
    rfl
  | cons c s =>
    have hkept : trimStart ((c :: s) ++ behind) = (c :: s) ++ behind :=
      List.dropWhile_cons_of_neg (by simp [h c List.mem_cons_self])
    rw [trim, hstart, hkept, List.reverse_append, trimStart,
      List.dropWhile_append_of_pos fun d hd => hbehind d (List.mem_reverse.mp hd),
      trimStart_of_notBlank fun d hd => h d (List.mem_reverse.mp hd), List.reverse_reverse]

/-- What is passed over are blanks. -/
theorem exists_blanks (s : List Char) : ∃ front behind, s = front ++ (trim s ++ behind) ∧
    (∀ c ∈ front, isBlank c = true) ∧ ∀ c ∈ behind, isBlank c = true := by
  refine ⟨s.takeWhile isBlank, ((trimStart s).reverse.takeWhile isBlank).reverse, ?_,
    fun c => List.mem_takeWhile_imp, fun c hc => List.mem_takeWhile_imp (List.mem_reverse.mp hc)⟩
  have hend : trim s ++ ((trimStart s).reverse.takeWhile isBlank).reverse = trimStart s := by
    have hsplit := List.takeWhile_append_dropWhile (p := isBlank) (l := (trimStart s).reverse)
    rw [trim, ← List.reverse_append]
    exact (congrArg List.reverse hsplit).trans (List.reverse_reverse _)
  rw [hend, trimStart, List.takeWhile_append_dropWhile]

/-! ## Unsigned numerals -/

/-- **The digits of a number**; there may be zeros in front. -/
structure Digits (n : Nat) (ds : List Char) : Prop where
  nonempty : ds ≠ []
  digits : ∀ c ∈ ds, c.isDigit = true
  value : Nat.ofDigitChars 10 ds 0 = n

/-- **The unsigned numerals of a number**: its digits, behind a plus sign or none. -/
inductive Unsigned (n : Nat) : List Char → Prop where
  | bare {ds : List Char} : Digits n ds → Unsigned n ds
  | signed {ds : List Char} : Digits n ds → Unsigned n ('+' :: ds)

/-- Digits behind a number make it larger, if anything. -/
theorem le_ofDigitChars (acc : Nat) (ds : List Char) : acc ≤ Nat.ofDigitChars 10 ds acc := by
  have hpos : 1 ≤ 10 ^ ds.length := Nat.one_le_pow _ _ (by decide)
  rw [Nat.ofDigitChars_eq_ofDigitChars_zero]
  exact Nat.le_add_right_of_le (Nat.le_mul_of_pos_left acc hpos)

/-- Digits are read onto a number if what they make of it is within the limit. -/
theorem readDigits_eq_ok_iff (hacc : acc ≤ limit) :
    readDigits limit acc ds = .ok n ↔
      (∀ c ∈ ds, c.isDigit = true) ∧ Nat.ofDigitChars 10 ds acc = n ∧ n ≤ limit := by
  induction ds generalizing acc with
  | nil =>
    rw [readDigits, Except.ok.injEq, Nat.ofDigitChars_nil]
    constructor
    · rintro rfl
      exact ⟨List.forall_mem_nil _, rfl, hacc⟩
    · exact fun h => h.2.1
  | cons c ds ih =>
    rw [readDigits, Nat.ofDigitChars_cons, List.forall_mem_cons, Nat.mul_comm 10 acc]
    cases hdigit : c.isDigit with
    | false =>
      have hnone : digitValue? c = none := Option.not_isSome_iff_eq_none.mp fun hsome => by
        rw [← isDigit_eq, isDigit, hsome] at hdigit
        cases hdigit
      rw [hnone]
      exact ⟨nofun, fun h => nomatch h.1.1⟩
    | true =>
      rw [digitValue?_of_isDigit (isDigit_eq.trans hdigit)]
      dsimp only
      split
      · rename_i hnext
        rw [ih hnext, eq_self, true_and]
      · rename_i hpassed
        -- What follows cannot bring the number back below the limit.
        refine ⟨nofun, fun h => absurd ?_ hpassed⟩
        obtain ⟨-, rfl, hle⟩ := h
        exact Nat.le_trans (le_ofDigitChars _ ds) hle

theorem digits_iff (hne : ds ≠ []) :
    readDigits limit 0 ds = .ok n ↔ Digits n ds ∧ n ≤ limit := by
  rw [readDigits_eq_ok_iff (Nat.zero_le limit)]
  exact ⟨fun ⟨hdigits, hvalue, hle⟩ => ⟨⟨hne, hdigits, hvalue⟩, hle⟩,
    fun ⟨h, hle⟩ => ⟨h.digits, h.value, hle⟩⟩

/-- Without a sign all of a text has to be digits. -/
theorem readNumeral_of_isDigit (h : c.isDigit = true) :
    readNumeral limit (c :: s) = readDigits limit 0 (c :: s) := by
  unfold readNumeral
  split
  · rename_i heq
    cases heq
  · rename_i heq
    cases heq
    cases h
  · rename_i heq
    cases heq
    cases h
  · rfl

/-- **What is read are the unsigned numerals of the numbers within the limit.** -/
theorem readNumeral_eq_ok_iff : readNumeral limit s = .ok n ↔ Unsigned n s ∧ n ≤ limit := by
  constructor
  · intro h
    unfold readNumeral at h
    split at h
    · cases h
    · cases h
    · rename_i ds hds
      obtain ⟨hdigits, hle⟩ := (digits_iff hds).mp h
      exact ⟨.signed hdigits, hle⟩
    · rename_i hempty _ _
      obtain ⟨hdigits, hle⟩ := (digits_iff hempty).mp h
      exact ⟨.bare hdigits, hle⟩
  · rintro ⟨hds | hds, hle⟩
    · obtain ⟨c, rest, rfl⟩ := List.exists_cons_of_ne_nil hds.nonempty
      rw [readNumeral_of_isDigit (hds.digits c List.mem_cons_self)]
      exact (digits_iff hds.nonempty).mpr ⟨hds, hle⟩
    · rename_i ds
      obtain ⟨c, rest, rfl⟩ := List.exists_cons_of_ne_nil hds.nonempty
      exact (digits_iff hds.nonempty).mpr ⟨hds, hle⟩

theorem Digits.isBlank (h : Digits n ds) : ∀ c ∈ ds, isBlank c = false := fun c hc =>
  isBlank_of_isDigit (isDigit_eq.trans (h.digits c hc))

theorem Unsigned.isBlank (h : Unsigned n s) : ∀ c ∈ s, isBlank c = false := by
  cases h with
  | bare hds => exact hds.isBlank
  | signed hds => exact List.forall_mem_cons.mpr ⟨rfl, hds.isBlank⟩

/-- **The texts that spell a number**: its unsigned numerals, with any blanks around them. -/
def Spells (n : Nat) (text : String) : Prop :=
  ∃ front numeral behind, text.toList = front ++ (numeral ++ behind) ∧
    (∀ c ∈ front, isBlank c = true) ∧ (∀ c ∈ behind, isBlank c = true) ∧ Unsigned n numeral

theorem readNumeral_trim_eq_ok_iff {text : String} :
    readNumeral limit (trim text.toList) = .ok n ↔ Spells n text ∧ n ≤ limit := by
  rw [readNumeral_eq_ok_iff]
  refine and_congr_left' ⟨fun h => ?_, ?_⟩
  · obtain ⟨front, behind, htext, hfront, hbehind⟩ := exists_blanks text.toList
    exact ⟨front, _, behind, htext, hfront, hbehind, h⟩
  · rintro ⟨front, numeral, behind, htext, hfront, hbehind, h⟩
    rwa [htext, trim_append hfront hbehind h.isBlank]

/-- **A number is spelled by what it is written as.** -/
theorem spells_toString (n : Nat) : Spells n (toString n) := by
  have hdigits : Digits n (Nat.toDigits 10 n) :=
    ⟨Nat.toDigits_ne_nil, fun _ => Nat.isDigit_of_mem_toDigits (by decide) (by decide),
      Nat.ofDigitChars_ten_toDigits⟩
  have htext : (toString n).toList = Nat.toDigits 10 n := String.toList_ofList
  exact ⟨[], _, [], by rw [htext, List.append_nil, List.nil_append], nofun, nofun, .bare hdigits⟩

end ClusterOperator.Text
