import ClusterOperator.Proofs.Net.Carving
import ClusterOperator.Proofs.Text.Numerals

/-!
# Texts of blocks

A block has many spellings: its octets and its mask length may be written with leading zeros, and
its address may have any bits below the mask (`Spelling`).  Blanks around a spelling are passed
over.  What is read is exactly what is spelled (`readNetwork?_eq_some_iff`), and the text that a
block is written as is one of its spellings, so it is read as that block (`readNetwork?_toText`).
-/

namespace ClusterOperator.Net

open Binary64 (isDigit)
open Text (isBlank_of_isDigit isDigit_of_mem_toDigits valueOf_eq)

variable {width limit n : Nat} {s rest ds : List Char} {b : Block} {t : String}

/-! ## Numerals -/

/-- **The numerals of a number** of limited width and size; leading zeros count. -/
structure Numeral (width limit : Nat) (ds : List Char) (n : Nat) : Prop where
  nonempty : 1 ≤ ds.length
  length_le : ds.length ≤ width
  digits : ∀ c ∈ ds, isDigit c = true
  value : Binary64.valueOf ds = n
  value_le : n ≤ limit

/-- What is read are the digits at the front, as far as they go. -/
theorem readDigits?_eq :
    readDigits? width limit s =
      if 1 ≤ (s.takeWhile isDigit).length ∧ (s.takeWhile isDigit).length ≤ width ∧
          Binary64.valueOf (s.takeWhile isDigit) ≤ limit then
        some (Binary64.valueOf (s.takeWhile isDigit), s.dropWhile isDigit)
      else none := by
  have hsplit : s.takeWhile isDigit ++ s.dropWhile isDigit = s := List.takeWhile_append_dropWhile
  have hrest : s.drop (s.takeWhile isDigit).length = s.dropWhile isDigit := by
    calc s.drop (s.takeWhile isDigit).length
        = (s.takeWhile isDigit ++ s.dropWhile isDigit).drop (s.takeWhile isDigit).length := by
          rw [hsplit]
      _ = s.dropWhile isDigit := List.drop_left
  rw [← hrest]
  rfl

/-- A numeral is read up to the first character that is no digit. -/
theorem readDigits?_eq_some_iff :
    readDigits? width limit s = some (n, rest) ↔
      ∃ ds, Numeral width limit ds n ∧ s = ds ++ rest ∧
        ∀ c after, rest = c :: after → isDigit c = false := by
  rw [readDigits?_eq]
  constructor
  · intro h
    split at h
    · rename_i hds
      obtain ⟨rfl, rfl⟩ := Prod.mk.inj (Option.some.inj h)
      refine ⟨s.takeWhile isDigit, ⟨hds.1, hds.2.1, fun c => List.mem_takeWhile_imp, rfl, hds.2.2⟩,
        List.takeWhile_append_dropWhile.symm, fun c after hafter => ?_⟩
      have hhead := List.head?_dropWhile_not isDigit s
      rwa [hafter] at hhead
    · cases h
  · rintro ⟨ds, hds, rfl, hrest⟩
    have hstop : rest.takeWhile isDigit = [] ∧ rest.dropWhile isDigit = rest := by
      cases rest with
      | nil => exact ⟨rfl, rfl⟩
      | cons c after =>
        have hc : ¬isDigit c = true := by simp [hrest c after rfl]
        exact ⟨List.takeWhile_cons_of_neg hc, List.dropWhile_cons_of_neg hc⟩
    rw [List.takeWhile_append_of_pos hds.digits, List.dropWhile_append_of_pos hds.digits, hstop.1,
      hstop.2, List.append_nil, hds.value, if_pos ⟨hds.nonempty, hds.length_le, hds.value_le⟩]

/-- A numeral at the end. -/
theorem Numeral.read_end (h : Numeral width limit ds n) :
    readDigits? width limit ds = some (n, []) :=
  readDigits?_eq_some_iff.mpr ⟨ds, h, (List.append_nil ds).symm, nofun⟩

/-- A numeral in front of a mark. -/
theorem Numeral.read (h : Numeral width limit ds n) {mark : Char} (hmark : isDigit mark = false) :
    readDigits? width limit (ds ++ mark :: rest) = some (n, mark :: rest) :=
  readDigits?_eq_some_iff.mpr ⟨ds, h, rfl, by rintro _ _ ⟨⟩; exact hmark⟩

/-- The decimal numeral of a number that is small enough. -/
theorem numeral_toDigits (hn : n ≤ limit) (hlimit : limit < Nat.pow 10 width) (hwidth : 0 < width) :
    Numeral width limit (Nat.toDigits 10 n) n where
  nonempty := Nat.length_toDigits_pos
  length_le := (Nat.length_toDigits_le_iff (by decide) hwidth).mpr (Nat.lt_of_le_of_lt hn hlimit)
  digits _ := isDigit_of_mem_toDigits
  value := by rw [valueOf_eq fun _ => isDigit_of_mem_toDigits, Nat.ofDigitChars_ten_toDigits]
  value_le := hn

theorem expect?_eq_some_iff {mark : Char} : expect? mark s = some rest ↔ s = mark :: rest := by
  cases s with
  | nil => simp [expect?]
  | cons c s =>
    by_cases hc : c = mark
    · simp [expect?, hc]
    · simp [expect?, hc]

/-! ## Spellings -/

/-- **The spellings of a block**: four octets and a mask length. -/
inductive Spelling (b : Block) : List Char → Prop where
  | mk {as bs cs ds ms : List Char} {x y z w : Nat} :
      Numeral 3 255 as x → Numeral 3 255 bs y → Numeral 3 255 cs z → Numeral 3 255 ds w →
      Numeral 2 32 ms b.maskLength → b.address = ((x * 256 + y) * 256 + z) * 256 + w →
      Spelling b (as ++ '.' :: (bs ++ '.' :: (cs ++ '.' :: (ds ++ '/' :: ms))))

theorem ofParts?_eq_some_iff {address maskLength : Nat} :
    Block.ofParts? address maskLength = some b ↔
      b.address = address ∧ b.maskLength = maskLength := by
  constructor
  · exact Block.ofParts?_eq_some
  · rintro ⟨rfl, rfl⟩
    exact dif_pos ⟨b.address_lt, b.mask_le⟩

/-- A text is read part by part. -/
theorem ofChars?_eq_some_iff_parts :
    Block.ofChars? s = some b ↔
      ∃ x y z w m s₁ s₂ s₃ s₄, readDigits? 3 255 s = some (x, '.' :: s₁) ∧
        readDigits? 3 255 s₁ = some (y, '.' :: s₂) ∧ readDigits? 3 255 s₂ = some (z, '.' :: s₃) ∧
        readDigits? 3 255 s₃ = some (w, '/' :: s₄) ∧ readDigits? 2 32 s₄ = some (m, []) ∧
        b.address = ((x * 256 + y) * 256 + z) * 256 + w ∧ b.maskLength = m := by
  simp only [Block.ofChars?, readAddress?, readOctet?, Option.bind_eq_bind,
    Option.bind_eq_some_iff, Option.pure_def, Option.some.injEq, expect?_eq_some_iff]
  constructor
  · rintro ⟨_, ⟨⟨x, _⟩, hx, ⟨y, _⟩, ⟨s₁, rfl, hy⟩, ⟨z, _⟩, ⟨s₂, rfl, hz⟩, ⟨w, _⟩, ⟨s₃, rfl, hw⟩,
      rfl⟩, ⟨m, _⟩, ⟨s₄, rfl, hm⟩, hend⟩
    split at hend
    · rename_i hempty
      obtain rfl := List.isEmpty_iff.mp hempty
      obtain ⟨haddress, hmask⟩ := ofParts?_eq_some_iff.mp hend
      exact ⟨x, y, z, w, m, s₁, s₂, s₃, s₄, hx, hy, hz, hw, hm, haddress, hmask⟩
    · cases hend
  · rintro ⟨x, y, z, w, m, s₁, s₂, s₃, s₄, hx, hy, hz, hw, hm, haddress, hmask⟩
    exact ⟨_, ⟨_, hx, _, ⟨s₁, rfl, hy⟩, _, ⟨s₂, rfl, hz⟩, _, ⟨s₃, rfl, hw⟩, rfl⟩, _,
      ⟨s₄, rfl, hm⟩, ofParts?_eq_some_iff.mpr ⟨haddress, hmask⟩⟩

/-- **What is read is what is spelled.** -/
theorem ofChars?_eq_some_iff : Block.ofChars? s = some b ↔ Spelling b s := by
  rw [ofChars?_eq_some_iff_parts]
  constructor
  · rintro ⟨x, y, z, w, m, s₁, s₂, s₃, s₄, hx, hy, hz, hw, hm, haddress, rfl⟩
    obtain ⟨as, ha, rfl, -⟩ := readDigits?_eq_some_iff.mp hx
    obtain ⟨bs, hb, rfl, -⟩ := readDigits?_eq_some_iff.mp hy
    obtain ⟨cs, hc, rfl, -⟩ := readDigits?_eq_some_iff.mp hz
    obtain ⟨ds, hd, rfl, -⟩ := readDigits?_eq_some_iff.mp hw
    obtain ⟨ms, hms, rfl, -⟩ := readDigits?_eq_some_iff.mp hm
    rw [List.append_nil]
    exact .mk ha hb hc hd hms haddress
  · rintro ⟨ha, hb, hc, hd, hm, haddress⟩
    exact ⟨_, _, _, _, _, _, _, _, _, ha.read rfl, hb.read rfl, hc.read rfl, hd.read rfl,
      hm.read_end, haddress, rfl⟩

/-! ## Blanks -/

/-- A spelling has no blanks. -/
theorem Spelling.isBlank (h : Spelling b s) : ∀ c ∈ s, Text.isBlank c = false := by
  obtain ⟨ha, hb, hc, hd, hm, -⟩ := h
  simp only [List.forall_mem_append, List.forall_mem_cons]
  exact ⟨fun c hmem => isBlank_of_isDigit (ha.digits c hmem), rfl,
    fun c hmem => isBlank_of_isDigit (hb.digits c hmem), rfl,
    fun c hmem => isBlank_of_isDigit (hc.digits c hmem), rfl,
    fun c hmem => isBlank_of_isDigit (hd.digits c hmem), rfl,
    fun c hmem => isBlank_of_isDigit (hm.digits c hmem)⟩

/-- **A network is read from its spellings with any blanks around them**, and from nothing else. -/
theorem readNetwork?_eq_some_iff :
    readNetwork? t = some b ↔ ∃ front s behind, t.toList = front ++ (s ++ behind) ∧
      (∀ c ∈ front, Text.isBlank c = true) ∧ (∀ c ∈ behind, Text.isBlank c = true) ∧
      Spelling b s := by
  rw [readNetwork?, ofChars?_eq_some_iff]
  constructor
  · intro h
    obtain ⟨front, behind, htext, hfront, hbehind⟩ := Text.exists_blanks t.toList
    exact ⟨front, _, behind, htext, hfront, hbehind, h⟩
  · rintro ⟨front, s, behind, htext, hfront, hbehind, h⟩
    rwa [htext, Text.trim_append hfront hbehind h.isBlank]

/-! ## The text of a block -/

/-- An address is put together from its octets. -/
theorem address_eq_octets (b : Block) :
    b.address = ((b.address / Nat.pow 2 24 % 256 * 256 + b.address / Nat.pow 2 16 % 256) * 256 +
      b.address / Nat.pow 2 8 % 256) * 256 + b.address % 256 := by
  have hlt : b.address < 4294967296 := b.address_lt
  have h24 : Nat.pow 2 24 = 16777216 := rfl
  have h16 : Nat.pow 2 16 = 65536 := rfl
  have h8 : Nat.pow 2 8 = 256 := rfl
  rw [h24, h16, h8]
  omega

/-- **The text of a block is one of its spellings.** -/
theorem spelling_toText (b : Block) : Spelling b b.toText.toList := by
  have hdigits : ∀ n : Nat, (toString n).toList = Nat.toDigits 10 n := fun _ => String.toList_ofList
  have htext : b.toText.toList =
      Nat.toDigits 10 (b.address / Nat.pow 2 24 % 256) ++ '.' ::
        (Nat.toDigits 10 (b.address / Nat.pow 2 16 % 256) ++ '.' ::
          (Nat.toDigits 10 (b.address / Nat.pow 2 8 % 256) ++ '.' ::
            (Nat.toDigits 10 (b.address % 256) ++ '/' :: Nat.toDigits 10 b.maskLength))) := by
    have hpoint : (toString ".").toList = ['.'] := rfl
    have hslash : "/".toList = ['/'] := rfl
    simp only [Block.toText, addressText, String.toList_append, hdigits, hpoint, hslash,
      List.append_assoc, List.cons_append, List.nil_append]
  have octet : ∀ n, Numeral 3 255 (Nat.toDigits 10 (n % 256)) (n % 256) := fun n =>
    numeral_toDigits (Nat.le_of_lt_succ (Nat.mod_lt n (by decide))) (by decide) (by decide)
  rw [htext]
  exact .mk (octet _) (octet _) (octet _) (octet _)
    (numeral_toDigits b.mask_le (by decide) (by decide)) (address_eq_octets b)

theorem readNetwork?_toText (b : Block) : readNetwork? b.toText = some b :=
  readNetwork?_eq_some_iff.mpr ⟨[], _, [], by rw [List.append_nil, List.nil_append], nofun, nofun,
    spelling_toText b⟩

theorem Block.truncated_of_aligned (h : b.Aligned) : b.truncated = b := by
  obtain ⟨address, maskLength, _, _⟩ := b
  rw [Block.truncated, Block.mk.injEq]
  exact ⟨Block.base_eq_of_aligned h, rfl⟩

/-- What is parsed has no bits below the mask. -/
theorem aligned_of_parseNetwork {cluster cidr : String} (h : parseNetwork cluster cidr = .ok b) :
    b.Aligned := by
  rw [parseNetwork] at h
  split at h
  · cases h
    exact Block.aligned_truncated _
  · cases h

/-- A block whose bits below the mask are clear is parsed from its text. -/
theorem parseNetwork_toText (h : b.Aligned) (cluster : String) :
    parseNetwork cluster b.toText = .ok b := by
  rw [parseNetwork, readNetwork?_toText]
  exact congrArg Except.ok (Block.truncated_of_aligned h)

end ClusterOperator.Net
