import ClusterOperator.Cluster.Object
import ClusterOperator.Proofs.Json.Record
import ClusterOperator.Proofs.Json.Sameness

/-!
# A status is read back from its document

An entry of a status, with all its conditions, is read back from what is written of it, as
long as its times are; and a status is read from an object that has under `phase`, `message`
and `resources` what is written of it, and nothing where nothing is written
(`Status.ofJson?_of_found`).  What else the object has does not matter.
-/

namespace ClusterOperator

open Json (findMember toTree)

/-- A time that is read back from its text. -/
def Instant.ReadsBack (t : Instant) : Prop := Instant.ofText? t.toText = some t

instance (t : Instant) : Decidable t.ReadsBack := by
  unfold Instant.ReadsBack
  infer_instance

/-- The times in a status are read back from their texts. -/
def Status.TimesReadBack (s : Status) : Prop :=
  ∀ e ∈ s.resources, ∀ c ∈ e.conditions, c.since.ReadsBack

instance (s : Status) : Decidable s.TimesReadBack := by
  unfold Status.TimesReadBack
  infer_instance

theorem Instant.ReadsBack.ofTree? {t : Instant} (h : t.ReadsBack) :
    instantOfTree? (.text t.toText) = some t := by
  rw [instantOfTree?, Json.Tree.text?, Option.bind_some]
  exact h

theorem Phase.ofTree?_text (p : Phase) : Phase.ofTree? (.text p.toText) = some p := by
  cases p <;> rfl

theorem Condition.ofTree?_toJson {c : Condition} (h : c.since.ReadsBack) :
    Condition.ofTree? c.toJson.toTree = some c := by
  rw [Condition.toJson, Condition.ofTree?, Json.fields?_object (by simp), Option.bind_eq_bind,
    Option.bind_some, Json.Fields.require_fieldsOf, Json.Fields.require_fieldsOf,
    Json.Fields.require_fieldsOf]
  generalize hms : [("type", Json.text c.kind), ("status", .text c.value),
    ("lastTransitionTime", .text c.since.toText)] = ms
  have hkind : findMember "type" ms = some (.text c.kind) := hms ▸ rfl
  have hvalue : findMember "status" ms = some (.text c.value) := hms ▸ rfl
  have hsince : findMember "lastTransitionTime" ms = some (.text c.since.toText) := hms ▸ rfl
  rw [hkind, hvalue, hsince, Option.bind_some, Option.bind_some, Option.bind_some,
    Json.toTree_text, Json.toTree_text, Json.toTree_text, h.ofTree?]
  rfl

theorem ResourceEntry.ofTree?_toJson {e : ResourceEntry}
    (h : ∀ c ∈ e.conditions, c.since.ReadsBack) :
    ResourceEntry.ofTree? e.toJson.toTree = some e := by
  have hread : ∀ c ∈ e.conditions, Condition.ofTree? c.toJson.toTree = some c := fun c hc =>
    Condition.ofTree?_toJson (h c hc)
  have hconditions := Json.list?_array_map hread
  obtain ⟨name, conditions⟩ := e
  cases conditions with
  | nil =>
    rw [ResourceEntry.toJson, ResourceEntry.ofTree?, Json.fields?_object (by simp)]
    simp [Json.findMember_cons, Json.Tree.text?]
  | cons c cs =>
    rw [ResourceEntry.toJson, ResourceEntry.ofTree?, Json.fields?_object (by simp)]
    simp [Json.findMember_cons, Json.Tree.text?, hconditions, -Json.toTree_array, -List.map_cons]

namespace Status

variable {s : Status} {ms : List (String × Json)}

/-- What is written of the message. -/
def messageJson? (s : Status) : Option Json := s.message.map Json.text

/-- What is written of the entries. -/
def resourcesJson? (s : Status) : Option Json :=
  if s.resources.isEmpty then none else some (.array (s.resources.map ResourceEntry.toJson))

/-- **A status is read from what is found** under the names of its parts. -/
theorem ofJson?_of_found (distinct : (ms.map Prod.fst).Nodup) (times : s.TimesReadBack)
    (phase : findMember "phase" ms = some (.text s.phase.toText))
    (message : findMember "message" ms = s.messageJson?)
    (resources : findMember "resources" ms = s.resourcesJson?) :
    ofJson? (.object ms) = some s := by
  have hmessage : (Json.fieldsOf ms).optional "message" Json.Tree.text? = some s.message := by
    rw [Json.Fields.optional, Json.Fields.orDefault_fieldsOf, message, messageJson?]
    cases s.message <;> rfl
  have hresources : (Json.fieldsOf ms).orDefault "resources" []
      (Json.Tree.list? ResourceEntry.ofTree?) = some s.resources := by
    rw [Json.Fields.orDefault_fieldsOf, resources, resourcesJson?]
    split
    · rename_i hempty
      rw [List.isEmpty_iff.mp hempty]
      rfl
    · exact Json.list?_array_map fun e he => ResourceEntry.ofTree?_toJson (times e he)
  have hphase : (Json.fieldsOf ms).orDefault "phase" .pending Phase.ofTree? = some s.phase := by
    rw [Json.Fields.orDefault_fieldsOf, phase]
    exact Phase.ofTree?_text s.phase
  rw [ofJson?, ofTree?, Json.fields?_object distinct, Option.bind_eq_bind, Option.bind_some,
    hphase, Option.bind_eq_bind, Option.bind_some, hmessage, Option.bind_eq_bind,
    Option.bind_some, hresources]
  rfl

end Status

/-! ## Cluster objects -/

namespace ClusterObject

variable {name : String} {ms : List (String × Json)} {o : ClusterObject} {v : Json}

/-- The object that a document holds. -/
def ofJson? (v : Json) : Option ClusterObject := ofTree? v.toTree

/-- Whether a member of the metadata is of its kind, if it is one of the known parts. -/
def isMetadata (m : String × Json) : Bool :=
  match findMember m.1 metadataParts with
  | some test => m.2.toTree.isNull || test m.2.toTree
  | none => true

theorem hasParts_metadata :
    hasParts metadataParts (Json.object ms).toTree = ms.all isMetadata := by
  rw [Json.toTree_object, hasParts, Json.Tree.members?]
  dsimp only
  rw [List.all_map]
  rfl

theorem text?_toTree (v : Json) : v.toTree.text? = v.text? := by
  cases v <;> rfl

/-- The last part of a name is the one that is found, if names are distinct. -/
theorem lastText?_of_distinct (distinct : (ms.map Prod.fst).Nodup) :
    lastText? name (ms.map fun m => (some m.1, m.2.toTree)) =
      (findMember name ms).bind Json.text? := by
  rw [lastText?]
  cases hfind : findMember name ms with
  | none =>
    have hnone : (ms.map fun m => (some m.1, m.2.toTree)).reverse.find?
        (fun m => m.1 = some name) = none := by
      rw [List.find?_eq_none]
      intro m hm hname
      obtain ⟨k, hk, rfl⟩ := List.mem_map.mp (List.mem_reverse.mp hm)
      have hkey : k.1 = name := by simpa using hname
      exact Json.findMember_eq_none_iff.mp hfind (hkey ▸ List.mem_map_of_mem hk)
    rw [hnone]
    rfl
  | some w =>
    have hw := Json.mem_of_findMember hfind
    cases hlast : (ms.map fun m => (some m.1, m.2.toTree)).reverse.find?
        (fun m => m.1 = some name) with
    | none =>
      rw [List.find?_eq_none] at hlast
      exact absurd (decide_eq_true rfl)
        (hlast _ (List.mem_reverse.mpr (List.mem_map_of_mem hw)))
    | some m =>
      obtain ⟨k, hk, rfl⟩ :=
        List.mem_map.mp (List.mem_reverse.mp (List.mem_of_find?_eq_some hlast))
      have hkey : k.1 = name := by simpa using List.find?_some hlast
      -- The names are distinct, so both are the same member.
      have hkw : findMember name ms = some k.2 :=
        hkey ▸ (Json.findMember_eq_some_iff distinct).mpr hk
      obtain rfl : w = k.2 := Option.some.inj (hfind.symm.trans hkw)
      exact text?_toTree k.2

/-- **The version in metadata**: all known parts are of their kinds, and the version is the
text found under its name. -/
theorem versionOfTree?_object_eq_some_iff (distinct : (ms.map Prod.fst).Nodup)
    {version : Option String} :
    versionOfTree? (Json.object ms).toTree = some version ↔
      (∀ m ∈ ms, isMetadata m = true) ∧
        (findMember "resourceVersion" ms).bind Json.text? = version := by
  rw [versionOfTree?, hasParts_metadata, Json.toTree_object, Json.Tree.members?,
    Option.bind_some, lastText?_of_distinct distinct]
  by_cases hall : ms.all isMetadata = true
  · rw [if_pos hall, Option.some.injEq]
    exact ⟨fun h => ⟨List.all_eq_true.mp hall, h⟩, fun h => h.2⟩
  · rw [if_neg hall]
    exact ⟨nofun, fun h => absurd (List.all_eq_true.mpr h.1) hall⟩

/-- A value that gives a version is an object. -/
theorem exists_of_versionOfTree? {version : Option String}
    (h : versionOfTree? v.toTree = some version) : ∃ mm, v = .object mm := by
  cases v with
  | object mm => exact ⟨mm, rfl⟩
  | _ => cases h

/-- **A cluster object is read** part by part. -/
theorem ofJson?_eq_some_iff (distinct : (ms.map Prod.fst).Nodup) :
    ofJson? (.object ms) = some o ↔
      ((findMember "metadata" ms).bind fun v => versionOfTree? v.toTree) = some o.version ∧
      ((findMember "spec" ms).bind fun v => ClusterSpec.ofTree? v.toTree) = some o.spec ∧
      (Json.fieldsOf ms).optional "status" Status.ofTree? = some o.status := by
  rw [ofJson?, ofTree?, Json.fields?_object distinct, Option.bind_eq_bind, Option.bind_some,
    Json.Fields.require_fieldsOf, Json.Fields.require_fieldsOf, Json.Fields.nullable_fieldsOf]
  simp only [Option.bind_eq_bind, Option.bind_eq_some_iff, Option.pure_def, Option.some.injEq]
  constructor
  · rintro ⟨version, hversion, spec, hspec, status, hstatus, rfl⟩
    exact ⟨hversion, hspec, hstatus⟩
  · rintro ⟨hversion, hspec, hstatus⟩
    exact ⟨_, hversion, _, hspec, _, hstatus, rfl⟩

/-- The version that the metadata of a document names. -/
def versionIn (v : Json) : Option String :=
  ((v.member? "metadata").bind fun m => m.member? "resourceVersion").bind Json.text?

/-- The version of an object is the one that its document names. -/
theorem version_of_ofJson? (hms : (Json.object ms).WellFormed)
    (h : ofJson? (.object ms) = some o) : o.version = versionIn (.object ms) := by
  obtain ⟨md, hmeta, hversion⟩ :=
    Option.bind_eq_some_iff.mp ((ofJson?_eq_some_iff hms.names).mp h).1
  obtain ⟨mm, rfl⟩ := exists_of_versionOfTree? hversion
  have hmm := (hms.value _ (Json.mem_of_findMember hmeta)).names
  rw [versionIn, Json.member?, hmeta, Option.bind_some, Json.member?]
  exact ((versionOfTree?_object_eq_some_iff hmm).mp hversion).2.symm

end ClusterObject

end ClusterOperator
