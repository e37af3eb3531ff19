import ClusterOperator.Deployment.Content
import ClusterOperator.Proofs.Json.Canonical

/-!
# What a checksum is taken over

A checksum is a digest of the canonical text, so it is taken over a document up to the order
of its members.  What the canonical text shows can only be hidden by a collision of the
digest; whether there is one among the texts at hand is left open here (`Sha256.Separates`).
-/

namespace ClusterOperator

/-- The digest is no collision of the two texts. -/
def Sha256.Separates (s t : String) : Prop := Sha256.hexDigest s = Sha256.hexDigest t → s = t

variable {a b : Json}

theorem checksum_eq_of_same (ha : a.WellFormed) (h : a.Same b) : checksum a = checksum b :=
  congrArg (fun chars => Sha256.hexDigest (String.ofList chars))
    (Json.canonicalChars_eq_of_same ha h)

/-- Without a collision, checksums are equal if and only if the documents are the same. -/
theorem checksum_eq_iff (ha : a.WellFormed) (hb : b.WellFormed)
    (separates : Sha256.Separates a.canonical b.canonical) :
    checksum a = checksum b ↔ a.Same b := by
  constructor
  · intro h
    exact (Json.canonical_eq_iff ha hb).mp (separates h)
  · exact checksum_eq_of_same ha

/-- **The canonical text decides whether documents are the same** up to the order of members.
So no reordering changes a checksum, and no other change is hidden from it, collisions
apart. -/
theorem canonical_decides_same (ha : a.WellFormed) (hb : b.WellFormed) :
    (a.canonical = b.canonical ↔ a.Same b) ∧
      (a.Same b → checksum a = checksum b) ∧
      (Sha256.Separates a.canonical b.canonical → checksum a = checksum b → a.Same b) :=
  ⟨Json.canonical_eq_iff ha hb, checksum_eq_of_same ha,
    fun separates => (checksum_eq_iff ha hb separates).mp⟩

/-! ## Documents with marks in their strings -/

namespace Reordering

/-- One half, as a double. -/
def half : Binary64 := ⟨0x3FE0000000000000⟩

/-- An array that begins with an object of these members. -/
def items (members : List (String × Json)) : Json :=
  .array [.object members, .text "],\\\"", .number (.double half)]

def listed : Json :=
  .object [("b", items [("x,\"", .null), ("y", .bool true)]), ("a", .number (.integer 1))]

/-- The same members, in another order on both levels. -/
def reordered : Json :=
  .object [("a", .number (.integer 1)), ("b", items [("y", .bool true), ("x,\"", .null)])]

/-- Two of the members have exchanged their values. -/
def exchanged : Json :=
  .object [("b", items [("x,\"", .bool true), ("y", .null)]), ("a", .number (.integer 1))]

theorem proper_half : half.Proper := ⟨by decide, by decide⟩

theorem wellFormed {d : Json} (hd : d = listed ∨ d = reordered ∨ d = exchanged) :
    d.WellFormed := by
  rcases hd with rfl | rfl | rfl <;>
    simp [listed, reordered, exchanged, items, Number.Proper, proper_half, Json.WellFormed.null,
      Json.WellFormed.bool, Json.WellFormed.text]

theorem same_reordered : listed.Same reordered := by
  have hinner : (items [("x,\"", .null), ("y", .bool true)]).Same
      (items [("y", .bool true), ("x,\"", .null)]) := by
    refine .array (.cons ?_ (.cons (.text _) (.cons (.number _) .nil)))
    exact .object (.refl _) (.swap _ _ []) rfl (.cons .null (.cons (.bool _) .nil))
  exact .object (.refl _) (.swap _ _ []) rfl (.cons hinner (.cons (.number _) .nil))

theorem not_same_exchanged : ¬listed.Same exchanged := by
  intro h
  have hitems := (Json.same_object_iff (by decide) (by decide)).mp h "b"
  simp only [Json.findMember_cons, reduceIte, Option.rel_some_some, items,
    Json.same_array_iff] at hitems
  cases hitems with
  | cons hinner _ =>
    have hvalue := (Json.same_object_iff (by decide) (by decide)).mp hinner "y"
    rcases hvalue with ⟨⟨⟩⟩

end Reordering

/-- The canonical texts of documents whose strings hold marks, and which hold a double. -/
theorem canonical_decides_same_of_reordering :
    Reordering.listed.canonical = Reordering.reordered.canonical ∧
      checksum Reordering.listed = checksum Reordering.reordered ∧
      Reordering.listed.canonical ≠ Reordering.exchanged.canonical := by
  obtain ⟨hreordered, hchecksum, -⟩ := canonical_decides_same
    (Reordering.wellFormed (.inl rfl)) (Reordering.wellFormed (.inr (.inl rfl)))
  obtain ⟨hexchanged, -⟩ := canonical_decides_same
    (Reordering.wellFormed (.inl rfl)) (Reordering.wellFormed (.inr (.inr rfl)))
  refine ⟨hreordered.mpr Reordering.same_reordered, hchecksum Reordering.same_reordered, ?_⟩
  intro h
  exact Reordering.not_same_exchanged (hexchanged.mp h)

end ClusterOperator
