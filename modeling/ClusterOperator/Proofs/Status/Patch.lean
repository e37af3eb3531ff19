import ClusterOperator.Proofs.Json.MergePatch
import ClusterOperator.Proofs.Status.Documents

/-!
# The status patch replaces the status

What is written of a status leaves out what is empty, and a merge patch leaves alone what is
left out.  The patch therefore says null where something is left out, so that under each of
the three names there stands afterwards what is written of the new status, whatever stood
there before (`patched_message`, `patched_resources`).  Members of the old status that have
other names stay, and are not looked at when it is read.

Of the rest of the object only the version can change, to the one that the patch names
(`replaced_of_mergePatch`).
-/

namespace ClusterOperator

open Json (findMember mergePatch mergeMembers patched fieldsOf)

variable {name : String} {s : Status} {version : Option String} {ms : List (String × Json)}
  {old : Option Json} {o : ClusterObject}

/-! ## What is written is well-formed -/

theorem Condition.wellFormed_toJson (c : Condition) : c.toJson.WellFormed := by
  rw [Condition.toJson, Json.wellFormed_object_iff]
  refine ⟨by simp, ?_⟩
  simp only [List.forall_mem_cons, List.not_mem_nil, false_implies, implies_true, and_true]
  exact ⟨.text _, .text _, .text _⟩

theorem ResourceEntry.wellFormed_toJson (e : ResourceEntry) : e.toJson.WellFormed := by
  have hconditions : (Json.array (e.conditions.map Condition.toJson)).WellFormed :=
    .array (List.forall_mem_map.mpr fun c _ => c.wellFormed_toJson)
  rw [ResourceEntry.toJson, Json.wellFormed_object_iff]
  split
  · exact ⟨by simp, List.forall_mem_singleton.mpr (.text _)⟩
  · refine ⟨by simp, ?_⟩
    exact List.forall_mem_cons.mpr ⟨.text _, List.forall_mem_singleton.mpr hconditions⟩

namespace Status

/-- What a patch has under the name of the status. -/
def patchMembers (s : Status) : List (String × Json) :=
  (s.toJson.members?).getD [] ++
    (if s.message.isNone then [("message", Json.null)] else []) ++
    (if s.resources.isEmpty then [("resources", Json.null)] else [])

theorem perm_patchMembers (s : Status) :
    s.patchMembers.Perm
      [("phase", .text s.phase.toText), ("message", s.messageJson?.getD .null),
        ("resources", s.resourcesJson?.getD .null)] := by
  obtain ⟨phase, message, resources⟩ := s
  cases message <;> cases resources <;>
    simp [patchMembers, toJson, Json.members?, messageJson?, resourcesJson?, List.Perm.swap]

theorem nodup_patchMembers (s : Status) : (s.patchMembers.map Prod.fst).Nodup := by
  rw [(s.perm_patchMembers.map Prod.fst).nodup_iff]
  simp

theorem findMember_patchMembers (s : Status) :
    findMember name s.patchMembers =
      findMember name
        [("phase", .text s.phase.toText), ("message", s.messageJson?.getD .null),
          ("resources", s.resourcesJson?.getD .null)] :=
  Json.findMember_eq_of_perm s.nodup_patchMembers s.perm_patchMembers

theorem wellFormed_patchMembers (s : Status) : (Json.object s.patchMembers).WellFormed := by
  refine .object s.nodup_patchMembers fun m hm => ?_
  have hresources : (Json.array (s.resources.map ResourceEntry.toJson)).WellFormed :=
    .array (List.forall_mem_map.mpr fun e _ => e.wellFormed_toJson)
  rw [s.perm_patchMembers.mem_iff] at hm
  simp only [List.mem_cons, List.not_mem_nil, or_false] at hm
  rcases hm with rfl | rfl | rfl
  · exact .text _
  · dsimp only [messageJson?]
    cases s.message
    · exact .null
    · exact .text _
  · dsimp only [resourcesJson?]
    split
    · exact .null
    · exact hresources

/-! ## Nulls make up for what is left out -/

theorem patched_message (s : Status) :
    patched (s.messageJson?.getD .null) old = s.messageJson? := by
  rw [messageJson?]
  cases s.message <;> rfl

theorem patched_resources (s : Status) :
    patched (s.resourcesJson?.getD .null) old = s.resourcesJson? := by
  rw [resourcesJson?]
  split <;> rfl

/-- **A status that is laid over any members** is read back. -/
theorem ofJson?_mergeMembers (hms : (Json.object ms).WellFormed) (times : s.TimesReadBack) :
    ofJson? (.object (mergeMembers s.patchMembers ms)) = some s := by
  have hwell := s.wellFormed_patchMembers.mergePatch hms
  refine ofJson?_of_found hwell.names times ?_ ?_ ?_
  · rw [Json.findMember_mergeMembers s.nodup_patchMembers, findMember_patchMembers]
    rfl
  · rw [Json.findMember_mergeMembers s.nodup_patchMembers, findMember_patchMembers]
    exact s.patched_message
  · rw [Json.findMember_mergeMembers s.nodup_patchMembers, findMember_patchMembers]
    exact s.patched_resources

end Status

/-! ## What the patch has -/

/-- What a patch has under the name of the metadata: the version, if it names one. -/
def versionMembers : Option String → List (String × Json)
  | none => []
  | some v => [("metadata", .object [("resourceVersion", .text v)])]

theorem wellFormed_versionMembers : (Json.object (versionMembers version)).WellFormed := by
  cases version with
  | none => exact .object .nil nofun
  | some v =>
    refine .object (by simp [versionMembers]) (List.forall_mem_singleton.mpr ?_)
    exact .object (by simp) (List.forall_mem_singleton.mpr (.text v))

theorem findMember_versionMembers (h : name ≠ "metadata") :
    findMember name (versionMembers version) = none := by
  cases version with
  | none => rfl
  | some v => exact if_neg h.symm

/-- The members of a status patch. -/
def statusMembers (s : Status) (version : Option String) : List (String × Json) :=
  ("status", .object s.patchMembers) :: versionMembers version

theorem statusPatch_eq : statusPatch s version = .object (statusMembers s version) := by
  cases version <;> rfl

/-- A patch names the version it is made for. -/
theorem versionIn_statusPatch (s : Status) (version : Option String) :
    ClusterObject.versionIn (statusPatch s version) = version := by
  cases version <;> rfl

theorem findMember_statusMembers (h : name ≠ "status") :
    findMember name (statusMembers s version) = findMember name (versionMembers version) :=
  if_neg h.symm

theorem wellFormed_statusMembers : (Json.object (statusMembers s version)).WellFormed := by
  have hversion : (Json.object (versionMembers version)).WellFormed := wellFormed_versionMembers
  have hother : findMember "status" (versionMembers version) = none :=
    findMember_versionMembers (by decide)
  refine .object ?_ (List.forall_mem_cons.mpr ⟨s.wellFormed_patchMembers, hversion.value⟩)
  rw [statusMembers, List.map_cons, List.nodup_cons]
  exact ⟨Json.findMember_eq_none_iff.mp hother, hversion.names⟩

/-! ## What the patch makes of an object -/

/-- Whatever stood under the name of the status, its members are laid under the new ones. -/
theorem status_of_mergeMembers (version : Option String) (hms : (Json.object ms).WellFormed)
    (times : s.TimesReadBack) :
    ∃ body, findMember "status" (mergeMembers (statusMembers s version) ms) =
      some (.object body) ∧ Status.ofJson? (.object body) = some s := by
  let under := ((findMember "status" ms).getD .null).members?.getD []
  have hunder : (Json.object under).WellFormed := by
    dsimp only [under]
    cases hfind : findMember "status" ms with
    | none => exact .object .nil nofun
    | some v =>
      have hv := hms.value _ (Json.mem_of_findMember hfind)
      cases v with
      | object _ => exact hv
      | _ => exact .object .nil nofun
  refine ⟨mergeMembers s.patchMembers under, ?_, Status.ofJson?_mergeMembers hunder times⟩
  rw [Json.findMember_mergeMembers wellFormed_statusMembers.names]
  rfl

/-- What else stands there afterwards: what stood there before, apart from the version. -/
theorem findMember_mergeMembers_statusMembers (h : name ≠ "status") :
    findMember name (mergeMembers (statusMembers s version) ms) =
      (findMember name (versionMembers version)).elim (findMember name ms) fun p =>
        patched p (findMember name ms) := by
  rw [Json.findMember_mergeMembers wellFormed_statusMembers.names, findMember_statusMembers h]

/-- Metadata under a version, looked at member by member. -/
theorem member?_versioned {v : String} :
    (patched (.object [("resourceVersion", .text v)]) old).bind (Json.member? name) =
      if name = "resourceVersion" then some (.text v) else old.bind (Json.member? name) := by
  have hmembers : old.bind (Json.member? name) =
      findMember name ((old.getD .null).members?.getD []) := by
    cases old with
    | none => rfl
    | some md => cases md <;> rfl
  rw [hmembers]
  exact Json.findMember_setMember

namespace ClusterObject

variable {ps : List (String × Json)} {status : Option Status}

/-- Metadata with another version give that version. -/
theorem versionOfTree?_patched {md : Json} {v : String} (hmd : md.WellFormed)
    (h : versionOfTree? md.toTree = some o.version) :
    ∃ md', patched (.object [("resourceVersion", .text v)]) (some md) = some md' ∧
      versionOfTree? md'.toTree = some (some v) := by
  obtain ⟨mm, rfl⟩ := exists_of_versionOfTree? h
  obtain ⟨hparts, -⟩ := (versionOfTree?_object_eq_some_iff hmd.names).mp h
  refine ⟨.object (Json.setMember "resourceVersion" (.text v) mm), rfl, ?_⟩
  rw [versionOfTree?_object_eq_some_iff (Json.nodup_names_setMember hmd.names),
    Json.findMember_setMember, if_pos rfl]
  refine ⟨fun m hm => ?_, rfl⟩
  rcases Json.mem_setMember hm with rfl | hm
  · rfl
  · exact hparts m hm

/-- **An object under a patch** that changes nothing but the status and the version. -/
theorem ofJson?_mergeMembers (hps : (Json.object ps).WellFormed)
    (hms : (Json.object ms).WellFormed) (hspec : findMember "spec" ps = none)
    (hversion : findMember "metadata" ps = findMember "metadata" (versionMembers version))
    (h : ofJson? (.object ms) = some o)
    (hstatus : (fieldsOf (mergeMembers ps ms)).optional "status" Status.ofTree? = some status) :
    ofJson? (.object (mergeMembers ps ms)) =
      some { o with status := status, version := version.or o.version } := by
  obtain ⟨hold, hkept, -⟩ := (ofJson?_eq_some_iff hms.names).mp h
  refine (ofJson?_eq_some_iff (hps.mergeMembers hms).names).mpr ⟨?_, ?_, hstatus⟩
  · rw [Json.findMember_mergeMembers hps.names, hversion]
    cases version with
    | none => exact hold
    | some v =>
      obtain ⟨md, hmd, hread⟩ := Option.bind_eq_some_iff.mp hold
      obtain ⟨md', hpatched, hread'⟩ :=
        versionOfTree?_patched (v := v) (hms.value _ (Json.mem_of_findMember hmd)) hread
      rw [hmd]
      exact Option.bind_eq_some_iff.mpr ⟨md', hpatched, hread'⟩
  · rw [Json.findMember_mergeMembers hps.names, hspec]
    exact hkept

end ClusterObject

/-- **A document with its status replaced**, and with the version if one is given; nothing
else is changed. -/
structure Replaced (s : Status) (version : Option String) (before after : Json) : Prop where
  wellFormed : after.WellFormed
  /-- The new status is read, whatever stood in its place. -/
  status : (after.member? "status").bind Status.ofJson? = some s
  others : ∀ name, name ≠ "status" → name ≠ "metadata" →
    after.member? name = before.member? name
  /-- Without a version the metadata are left alone. -/
  metadata : version = none → after.member? "metadata" = before.member? "metadata"
  /-- With a version nothing else in them is changed. -/
  parts : ∀ name, name ≠ "resourceVersion" →
    (after.member? "metadata").bind (Json.member? name) =
      (before.member? "metadata").bind (Json.member? name)
  named : ∀ v, version = some v → ClusterObject.versionIn after = some v
  /-- A cluster remains one, with the same specification. -/
  object : ∀ o, ClusterObject.ofJson? before = some o →
    ClusterObject.ofJson? after =
      some { o with status := some s, version := version.or o.version }

/-- **The status patch replaces the status**, and nothing else. -/
theorem replaced_of_mergePatch (version : Option String) (hms : (Json.object ms).WellFormed)
    (times : s.TimesReadBack) :
    Replaced s version (.object ms) (mergePatch (statusPatch s version) (.object ms)) := by
  have hps : (Json.object (statusMembers s version)).WellFormed := wellFormed_statusMembers
  obtain ⟨body, hstatus, hread⟩ := status_of_mergeMembers version hms times
  have hmerged : ∀ name, name ≠ "status" →
      findMember name (mergeMembers (statusMembers s version) ms) =
        (findMember name (versionMembers version)).elim (findMember name ms) fun p =>
          patched p (findMember name ms) := fun _ => findMember_mergeMembers_statusMembers
  have hmetadata := hmerged "metadata" (by decide)
  rw [statusPatch_eq, Json.mergePatch_object_object]
  exact {
    wellFormed := hps.mergeMembers hms
    status := by rw [Json.member?, hstatus, Option.bind_some, hread]
    others := fun name hname hname' => by
      have hother := hmerged name hname
      rw [findMember_versionMembers hname'] at hother
      exact hother
    metadata := by
      rintro rfl
      exact hmetadata
    parts := fun name hname => by
      rw [Json.member?, hmetadata]
      cases version with
      | none => rfl
      | some v => exact member?_versioned.trans (if_neg hname)
    named := by
      rintro v rfl
      rw [ClusterObject.versionIn, Json.member?, hmetadata]
      exact congrArg (Option.bind · Json.text?) (member?_versioned.trans (if_pos rfl))
    object := fun o ho => by
      refine ClusterObject.ofJson?_mergeMembers hps hms ?_
        (findMember_statusMembers (by decide)) ho ?_
      · rw [findMember_statusMembers (by decide), findMember_versionMembers (by decide)]
      · rw [Json.Fields.optional, Json.Fields.orDefault_fieldsOf, hstatus, Option.elim_some]
        exact Json.Fields.orNull_of_some rfl hread }

end ClusterOperator
