import ClusterOperator.Cluster.Api
import ClusterOperator.Proofs.Status.Patch
import ClusterOperator.Proofs.Status.Swap

/-!
# The stored status behind the cluster API

What is assumed of the cluster API: it keeps the document of a cluster, answers a reading
with that document, and lays a patch over it, which gives it a version that it never had.  A
patch that names another version than the one that is there is refused with a conflict.  Other
refusals change nothing, if there are any.

Behind the programs that load and store a status such an API is a versioned cell: a load
answers the status and the version of the stored object, and a store replaces the status as a
whole, since the patch does (`exists_course`).  So loads and stores compare and swap.
-/

namespace ClusterOperator

open Json (mergePatch mergeMembers fieldsOf)

namespace ClusterApi

/-! ## The server -/

/-- What the API keeps of a cluster: its document, and the versions it had before. -/
structure StoredCluster where
  document : Json
  past : List (Option String) := []

/-- Gives a document a version. -/
def bump (version : String) (document : Json) : Json :=
  mergePatch (.object (versionMembers (some version))) document

/-- Where the status of a cluster is read. -/
def readTarget? (ns name : String) : Option String := target? (statusPath ns name)

/-- Where the status of a cluster is written. -/
def writeTarget? (ns name : String) : Option String :=
  target? s!"{statusPath ns name}?&fieldManager={ClusterKind.fieldManager}"

/-- A request to read the status of a cluster. -/
structure Reads (ns name : String) (request : ApiRequest) : Prop where
  method : request.method = "GET"
  target : readTarget? ns name = some request.target

/-- A request to lay a patch over the status of a cluster. -/
structure Patches (ns name : String) (request : ApiRequest) (patch : Json) : Prop where
  method : request.method = "PATCH"
  target : writeTarget? ns name = some request.target
  contentType : request.contentType = some "application/merge-patch+json"
  body : request.body = some patch

/-- The request that replaces a status. -/
def patchRequest (status : Status) (version : Option String) (target : String) : ApiRequest where
  method := "PATCH"
  target := target
  contentType := some "application/merge-patch+json"
  body := some (statusPatch status version)

/-- Whether there are targets for a cluster. -/
def Addressable (ns name : String) : Prop :=
  name ≠ "" ∧ (readTarget? ns name).isSome ∧ (writeTarget? ns name).isSome

/-- Whether a reply is an error, and not a conflict. -/
def IsRefusal : Except String ApiReply → Prop
  | .error _ => True
  | .ok reply => isErrorCode reply.code = true ∧ (errorOf reply).code ≠ 409

/-- The version of the stored document. -/
def StoredCluster.version (s : StoredCluster) : Option String :=
  ClusterObject.versionIn s.document

/-- **How the API answers** for a cluster.  Refusals for other reasons than a conflict only
happen if `refusing`. -/
inductive Answers (refusing : Prop) (ns name : String) :
    StoredCluster → Exchange interface → StoredCluster → Prop where
  | read (s : StoredCluster) (request : ApiRequest) (text : String) :
      Reads ns name request → tree? text = some s.document.toTree →
      Answers refusing ns name s ⟨.send request, .ok ⟨200, text⟩⟩ s
  | stale (s : StoredCluster) (request : ApiRequest) (patch : Json) (text : String) :
      Patches ns name request patch → ClusterObject.versionIn patch ≠ none →
      ClusterObject.versionIn patch ≠ s.version → (errorOf ⟨409, text⟩).code = 409 →
      Answers refusing ns name s ⟨.send request, .ok ⟨409, text⟩⟩ s
  | merged (s : StoredCluster) (request : ApiRequest) (patch : Json) (fresh text : String) :
      Patches ns name request patch →
      ClusterObject.versionIn patch = none ∨ ClusterObject.versionIn patch = s.version →
      some fresh ∉ s.version :: s.past →
      tree? text = some (bump fresh (mergePatch patch s.document)).toTree →
      Answers refusing ns name s ⟨.send request, .ok ⟨200, text⟩⟩
        ⟨bump fresh (mergePatch patch s.document), s.version :: s.past⟩
  | refused (s : StoredCluster) (request : ApiRequest) (reply : Except String ApiReply) :
      refusing → IsRefusal reply → Answers refusing ns name s ⟨.send request, reply⟩ s
  | clock (s : StoredCluster) (now : Instant) : Answers refusing ns name s ⟨.clock, now⟩ s
  | draw (s : StoredCluster) (jitter : Jitter) : Answers refusing ns name s ⟨.draw, jitter⟩ s
  | pause (s : StoredCluster) (d : Duration) : Answers refusing ns name s ⟨.pause d, ()⟩ s

/-- **What a stored cluster shows** of its status. -/
structure Shows (s : StoredCluster) (c : StatusCell) : Prop where
  wellFormed : s.document.WellFormed
  members : ∃ ms, s.document = .object ms
  object : ∃ o, ClusterObject.ofJson? s.document = some o ∧
    c = ⟨o.status.getD {}, o.version, s.past⟩
  versioned : c.Versioned

/-- Somebody else has changed a cluster, but not its status. -/
def Edited (s t : StoredCluster) : Prop :=
  ∀ c, Shows s c → ∃ fresh, some fresh ∉ c.version :: c.past ∧
    Shows t ⟨c.status, some fresh, c.version :: c.past⟩

/-- **What happens to a stored cluster**: its status is loaded and stored by the programs that
do so, and others change the rest.  Every load and every store makes one request to the API, so
that those of several clients are one after another, in whatever order. -/
inductive History (refusing : Prop) (ns name : String) :
    StoredCluster → List StatusEvent → StoredCluster → Prop where
  | nil (s : StoredCluster) : History refusing ns name s [] s
  | load {s t u : StoredCluster} {xs : List (Exchange interface)}
      {reply : Except Failure Snapshot} {events : List StatusEvent} :
      ((statusStore ns).load name).Transcript xs reply → Served (Answers refusing ns name) s xs t →
      History refusing ns name t events u → History refusing ns name s (.load reply :: events) u
  | store {s t u : StoredCluster} {xs : List (Exchange interface)} {status : Status}
      {version : Option String} {reply : Except StoreFault Unit} {events : List StatusEvent} :
      ((statusStore ns).store name status version).Transcript xs reply →
      Served (Answers refusing ns name) s xs t →
      History refusing ns name t events u →
      History refusing ns name s (.store status version reply :: events) u
  | edit {s t u : StoredCluster} {events : List StatusEvent} :
      Edited s t → History refusing ns name t events u →
      History refusing ns name s (.edit :: events) u

variable {refusing : Prop} {ns name : String} {s t : StoredCluster} {c d : StatusCell}
  {xs : List (Exchange interface)} {ms : List (String × Json)} {o : ClusterObject}

/-! ## What the client makes of replies -/

theorem objectOf_read {document : Json} {text : String}
    (hread : ClusterObject.ofJson? document = some o)
    (htext : tree? text = some document.toTree) : objectOf (.ok ⟨200, text⟩) = .ok o := by
  have hobject : (tree? text).bind ClusterObject.ofTree? = some o := by
    rw [htext]
    exact hread
  have hcode : ¬isErrorCode 200 = true := by decide
  rw [objectOf, if_neg hcode, hobject]

theorem objectOf_stale (name : String) {text : String} (h : (errorOf ⟨409, text⟩).code = 409) :
    ∃ fault, objectOf (.ok ⟨409, text⟩) = .error fault ∧
      storeFault name fault = .conflict name := by
  refine ⟨.answered (errorOf ⟨409, text⟩), rfl, ?_⟩
  rw [storeFault, if_pos h]

theorem objectOf_refused (name : String) {reply : Except String ApiReply} (h : IsRefusal reply) :
    ∃ fault, objectOf reply = .error fault ∧
      storeFault name fault = .other (.kubernetes fault) := by
  cases reply with
  | error text => exact ⟨.unanswered text, rfl, rfl⟩
  | ok reply =>
    refine ⟨.answered (errorOf reply), ?_, ?_⟩
    · rw [objectOf, if_pos h.1]
    · rw [storeFault, if_neg h.2]

/-! ## The server's side -/

theorem Reads.not_patches {request : ApiRequest} {patch : Json} (h : Reads ns name request) :
    ¬Patches ns name request patch := fun h' =>
  absurd (h.method.symm.trans h'.method) (by decide)

theorem patches_patchRequest {status : Status} {version : Option String} {target : String}
    (htarget : writeTarget? ns name = some target) :
    Patches ns name (patchRequest status version target) (statusPatch status version) :=
  ⟨rfl, htarget, rfl, rfl⟩

/-- What may be answered to a request to read. -/
theorem Answers.of_reads {request : ApiRequest} {reply : Except String ApiReply}
    (hreads : Reads ns name request) (h : Answers refusing ns name s ⟨.send request, reply⟩ t) :
    t = s ∧ ((∃ text, reply = .ok ⟨200, text⟩ ∧ tree? text = some s.document.toTree) ∨
      (IsRefusal reply ∧ refusing)) := by
  cases h with
  | read _ text _ htext => exact ⟨rfl, .inl ⟨text, rfl, htext⟩⟩
  | stale _ _ _ hpatch | merged _ _ _ _ hpatch => exact absurd hpatch hreads.not_patches
  | refused _ _ hmay hreply => exact ⟨rfl, .inr ⟨hreply, hmay⟩⟩

/-- What may be answered to a request to lay a patch over the status. -/
theorem Answers.of_patches {request : ApiRequest} {patch : Json}
    {reply : Except String ApiReply} (hpatches : Patches ns name request patch)
    (h : Answers refusing ns name s ⟨.send request, reply⟩ t) :
    (t = s ∧ ClusterObject.versionIn patch ≠ none ∧ ClusterObject.versionIn patch ≠ s.version ∧
        ∃ text, reply = .ok ⟨409, text⟩ ∧ (errorOf ⟨409, text⟩).code = 409) ∨
      ((ClusterObject.versionIn patch = none ∨ ClusterObject.versionIn patch = s.version) ∧
        ∃ fresh text, some fresh ∉ s.version :: s.past ∧
          t = ⟨bump fresh (mergePatch patch s.document), s.version :: s.past⟩ ∧
          reply = .ok ⟨200, text⟩ ∧ tree? text = some t.document.toTree) ∨
      (t = s ∧ IsRefusal reply ∧ refusing) := by
  cases h with
  | read _ _ hreads => exact absurd hpatches hreads.not_patches
  | stale _ patch' text hpatch hnamed hstale hcode =>
    obtain rfl : patch' = patch := Option.some.inj (hpatch.body.symm.trans hpatches.body)
    exact .inl ⟨rfl, hnamed, hstale, text, rfl, hcode⟩
  | merged _ patch' fresh text hpatch hcurrent hfresh htext =>
    obtain rfl : patch' = patch := Option.some.inj (hpatch.body.symm.trans hpatches.body)
    exact .inr (.inl ⟨hcurrent, fresh, text, hfresh, rfl, rfl, htext⟩)
  | refused _ _ hmay hreply => exact .inr (.inr ⟨rfl, hreply, hmay⟩)

/-- A request that is sent has one answer; where there is no target, nothing is sent. -/
theorem send_served {text : String} {request : String → ApiRequest}
    {r : Except ApiFault ClusterObject} (h : (send name text request).Transcript xs r)
    (hx : Served (Answers refusing ns name) s xs t) :
    ((name = "" ∨ target? text = none) ∧ t = s ∧ ∃ e, r = .error (.unanswered e)) ∨
      ∃ target reply, target? text = some target ∧ r = objectOf reply ∧
        Answers refusing ns name s ⟨.send (request target), reply⟩ t := by
  rw [send] at h
  split at h
  · rename_i hname
    obtain ⟨rfl, rfl⟩ := Program.transcript_done_iff.mp h
    exact .inl ⟨.inl hname, Served.nil_iff.mp hx, _, rfl⟩
  · split at h
    · rename_i hnone
      obtain ⟨rfl, rfl⟩ := Program.transcript_done_iff.mp h
      exact .inl ⟨.inr hnone, Served.nil_iff.mp hx, _, rfl⟩
    · rename_i target htarget
      obtain ⟨reply, hcall, rfl⟩ := Program.transcript_map_iff.mp h
      obtain rfl := Program.transcript_call_iff.mp hcall
      obtain ⟨_, hanswer, hnil⟩ := Served.cons_iff.mp hx
      obtain rfl := Served.nil_iff.mp hnil
      exact .inr ⟨target, reply, htarget, rfl, hanswer⟩

theorem ofJson?_bump {v : String} (hms : (Json.object ms).WellFormed)
    (h : ClusterObject.ofJson? (.object ms) = some o) :
    ClusterObject.ofJson? (bump v (.object ms)) = some { o with version := some v } := by
  have hversion : (Json.object (versionMembers (some v))).WellFormed := wellFormed_versionMembers
  have hold := ((ClusterObject.ofJson?_eq_some_iff hms.names).mp h).2.2
  rw [Json.Fields.optional, Json.Fields.orDefault_fieldsOf] at hold
  rw [bump, Json.mergePatch_object_object]
  refine ClusterObject.ofJson?_mergeMembers hversion hms
    (findMember_versionMembers (by decide)) rfl h ?_
  rw [Json.Fields.optional, Json.Fields.orDefault_fieldsOf,
    Json.findMember_mergeMembers hversion.names, findMember_versionMembers (by decide)]
  exact hold

/-! ## What loads and stores do -/

theorem Shows.version_eq (h : Shows s c) : c.version = s.version ∧ c.past = s.past := by
  obtain ⟨ms, hms⟩ := h.members
  obtain ⟨o, hread, rfl⟩ := h.object
  have hwell := h.wellFormed
  rw [hms] at hwell hread
  rw [StoredCluster.version, hms]
  exact ⟨ClusterObject.version_of_ofJson? hwell hread, rfl⟩

/-- Why an operation may fail: the API refuses it, or there is no target for it. -/
def MayFail (refusing : Prop) (ns name : String) : Prop := refusing ∨ ¬Addressable ns name

theorem MayFail.of_untargeted (h : name = "" ∨ readTarget? ns name = none ∨
    writeTarget? ns name = none) : MayFail refusing ns name := by
  refine .inr fun ⟨hname, hread, hwrite⟩ => ?_
  rcases h with h | h | h
  · exact hname h
  · rw [h] at hread
    cases hread
  · rw [h] at hwrite
    cases hwrite

/-- **A load** answers what the object shows. -/
theorem load_does {reply : Except Failure Snapshot} (hs : Shows s c)
    (h : (load ns name).Transcript xs reply) (hx : Served (Answers refusing ns name) s xs t) :
    t = s ∧ StatusCell.Does name (MayFail refusing ns name) c (.load reply) c := by
  obtain ⟨r, ys, zs, rfl, hsend, hrest⟩ := Program.transcript_bind_iff.mp h
  obtain ⟨u, hys, hzs⟩ := Served.append_iff.mp hx
  rcases send_served hsend hys with ⟨hnone, rfl, e, rfl⟩ | ⟨target, answer, htarget, rfl, hanswer⟩
  · obtain ⟨rfl, rfl⟩ := Program.transcript_done_iff.mp hrest
    obtain rfl := Served.nil_iff.mp hzs
    exact ⟨rfl, .loadFailed c _ (.of_untargeted (hnone.imp_right .inl))⟩
  · have hreads : Reads ns name { method := "GET", target := target } := ⟨rfl, htarget⟩
    obtain ⟨rfl, ⟨text, rfl, htext⟩ | ⟨hrefusal, hmay⟩⟩ := hanswer.of_reads hreads
    · obtain ⟨o, hread, rfl⟩ := hs.object
      rw [objectOf_read hread htext] at hrest
      obtain ⟨now, ws, rfl, hdone⟩ := Program.transcript_call_bind_iff.mp hrest
      obtain ⟨rfl, rfl⟩ := Program.transcript_done_iff.mp hdone
      obtain ⟨_, hclock, hnil⟩ := Served.cons_iff.mp hzs
      obtain rfl := Served.nil_iff.mp hnil
      cases hclock
      exact ⟨rfl, .loaded _ now⟩
    · obtain ⟨fault, hfault, -⟩ := objectOf_refused name hrefusal
      rw [hfault] at hrest
      obtain ⟨rfl, rfl⟩ := Program.transcript_done_iff.mp hrest
      obtain rfl := Served.nil_iff.mp hzs
      exact ⟨rfl, .loadFailed c _ (.inl hmay)⟩

/-- What a patch makes of an object shows the new status, under the fresh version. -/
theorem Shows.merged {status : Status} {fresh : String} (hs : Shows s c)
    (version : Option String) (times : status.TimesReadBack)
    (hfresh : some fresh ∉ c.version :: c.past) :
    Shows ⟨bump fresh (mergePatch (statusPatch status version) s.document), s.version :: s.past⟩
      ⟨status, some fresh, c.version :: c.past⟩ := by
  obtain ⟨hversion, hpast⟩ := hs.version_eq
  obtain ⟨ms, hms⟩ := hs.members
  obtain ⟨o, hread, rfl⟩ := hs.object
  have hwell := hs.wellFormed
  rw [hms] at hwell hread ⊢
  have hreplaced := replaced_of_mergePatch version hwell times
  have hobject := hreplaced.object o hread
  have hmerged := hreplaced.wellFormed
  rw [statusPatch_eq, Json.mergePatch_object_object] at hobject hmerged ⊢
  have hbumped := ofJson?_bump (v := fresh) hmerged hobject
  refine ⟨wellFormed_versionMembers.mergePatch hmerged, ⟨_, rfl⟩, ⟨_, hbumped, ?_⟩, nofun, hfresh⟩
  rw [← hversion]
  rfl

/-- **A store** replaces the whole status, if its version is the one that is there. -/
theorem store_does {status : Status} {version : Option String} {reply : Except StoreFault Unit}
    (hs : Shows s c) (times : status.TimesReadBack)
    (h : (store ns name status version).Transcript xs reply)
    (hx : Served (Answers refusing ns name) s xs t) :
    ∃ d, StatusCell.Does name (MayFail refusing ns name) c (.store status version reply) d ∧
      Shows t d := by
  obtain ⟨r, ys, zs, rfl, hsend, hrest⟩ := Program.transcript_bind_iff.mp h
  obtain ⟨u, hys, hzs⟩ := Served.append_iff.mp hx
  obtain ⟨hversion, hpast⟩ := hs.version_eq
  rcases send_served hsend hys with ⟨hnone, rfl, e, rfl⟩ | ⟨target, answer, htarget, rfl, hanswer⟩
  · obtain ⟨rfl, rfl⟩ := Program.transcript_done_iff.mp hrest
    obtain rfl := Served.nil_iff.mp hzs
    exact ⟨c, .storeFailed c _ _ _ (.of_untargeted (hnone.imp_right .inr)), hs⟩
  · rcases hanswer.of_patches (patches_patchRequest htarget) with
      ⟨rfl, hnamed, hstale, text, rfl, hcode⟩ |
      ⟨hcurrent, fresh, text, hfresh, rfl, rfl, htext⟩ | ⟨rfl, hrefusal, hmay⟩
    · obtain ⟨fault, hfault, hconflict⟩ := objectOf_stale name hcode
      rw [hfault] at hrest
      obtain ⟨rfl, rfl⟩ := Program.transcript_done_iff.mp hrest
      obtain rfl := Served.nil_iff.mp hzs
      rw [versionIn_statusPatch] at hnamed hstale
      rw [hconflict]
      exact ⟨c, .conflicted c _ _ hnamed (hversion ▸ hstale), hs⟩
    · rw [← hversion, ← hpast] at hfresh
      have hmerged := hs.merged version times hfresh
      obtain ⟨o, hread, -⟩ := hmerged.object
      rw [objectOf_read hread htext] at hrest
      obtain ⟨rfl, rfl⟩ := Program.transcript_done_iff.mp hrest
      obtain rfl := Served.nil_iff.mp hzs
      rw [versionIn_statusPatch, ← hversion] at hcurrent
      exact ⟨_, .stored c _ _ fresh hcurrent hfresh, hmerged⟩
    · obtain ⟨fault, hfault, hother⟩ := objectOf_refused name hrefusal
      rw [hfault] at hrest
      obtain ⟨rfl, rfl⟩ := Program.transcript_done_iff.mp hrest
      obtain rfl := Served.nil_iff.mp hzs
      rw [hother]
      exact ⟨c, .storeFailed c _ _ _ (.inl hmay), hs⟩

/-! ## Whole histories -/

variable {events : List StatusEvent}

/-- **A history is a course** of what it should do to the cell that the object shows. -/
theorem exists_course (h : History refusing ns name s events t) (hs : Shows s c)
    (times : ∀ status version reply, .store status version reply ∈ events →
      status.TimesReadBack) :
    ∃ d, StatusCell.Course name (MayFail refusing ns name) c events d ∧ Shows t d := by
  induction h generalizing c with
  | nil => exact ⟨c, .nil c, hs⟩
  | load hload hx _ ih =>
    obtain ⟨rfl, hdoes⟩ := load_does hs hload hx
    obtain ⟨d, hcourse, hd⟩ := ih hs fun _ _ _ hmem => times _ _ _ (List.mem_cons_of_mem _ hmem)
    exact ⟨d, .cons hdoes hcourse, hd⟩
  | store hstore hx _ ih =>
    obtain ⟨u, hdoes, hu⟩ := store_does hs (times _ _ _ List.mem_cons_self) hstore hx
    obtain ⟨d, hcourse, hd⟩ := ih hu fun _ _ _ hmem => times _ _ _ (List.mem_cons_of_mem _ hmem)
    exact ⟨d, .cons hdoes hcourse, hd⟩
  | edit hedited _ ih =>
    obtain ⟨fresh, hfresh, hu⟩ := hedited c hs
    obtain ⟨d, hcourse, hd⟩ := ih hu fun _ _ _ hmem => times _ _ _ (List.mem_cons_of_mem _ hmem)
    exact ⟨d, .cons (.edited c fresh hfresh) hcourse, hd⟩

/-- **To those who use the gateway the API is a versioned cell**: whatever clients load and store
through it, at versions that they have read, they are answered as the cell would answer them. -/
theorem History.served (h : History refusing ns name s events t) (hs : Shows s c)
    (times : ∀ status version reply, .store status version reply ∈ events →
      status.TimesReadBack) (unedited : .edit ∉ events)
    (versioned : ∀ status version reply, .store status version reply ∈ events →
      version ≠ none) :
    ∃ d, Served (StatusCell.Answers name) c (events.filterMap (StatusEvent.exchange? name)) d ∧
      Shows t d := by
  obtain ⟨d, hcourse, hd⟩ := exists_course h hs times
  exact ⟨d, hcourse.served unedited versioned, hd⟩

/-! ## What can happen

Nothing of what is done to the cell is out of reach: an API that has a text for its document
can answer a load and a store, and it can always answer a conflict. -/

section Reach

variable {status : Status} {version : Option String} {fresh text : String}

theorem send_transcript {text target : String} (request : String → ApiRequest)
    (hname : name ≠ "") (htarget : target? text = some target) (reply : Except String ApiReply) :
    (send name text request).Transcript [⟨.send (request target), reply⟩] (objectOf reply) := by
  rw [send, if_neg hname, htarget]
  exact Program.transcript_map_iff.mpr ⟨reply, Program.transcript_call_iff.mpr rfl, rfl⟩

theorem History.loaded (haddress : Addressable ns name) (hs : Shows s c)
    (htext : tree? text = some s.document.toTree) (now : Instant)
    (h : History refusing ns name s events t) :
    History refusing ns name s (.load (.ok ⟨c.status, c.version, now⟩) :: events) t := by
  obtain ⟨target, htarget⟩ := Option.isSome_iff_exists.mp haddress.2.1
  obtain ⟨o, hread, rfl⟩ := hs.object
  have hsend := send_transcript (fun target => { method := "GET", target }) haddress.1 htarget
    (.ok ⟨200, text⟩)
  rw [objectOf_read hread htext] at hsend
  refine .load (Program.transcript_bind_iff.mpr ⟨_, _, [⟨.clock, now⟩], rfl, hsend, ?_⟩)
    (.cons (.read s _ text ⟨rfl, htarget⟩ htext) (.cons (.clock s now) (.nil s))) h
  exact Program.transcript_call_bind_iff.mpr ⟨now, [], rfl, .done _⟩

theorem History.stored (haddress : Addressable ns name) (hs : Shows s c)
    (times : status.TimesReadBack) (hcurrent : version = none ∨ version = c.version)
    (hfresh : some fresh ∉ c.version :: c.past)
    (htext : tree? text =
      some (bump fresh (mergePatch (statusPatch status version) s.document)).toTree)
    (h : History refusing ns name
      ⟨bump fresh (mergePatch (statusPatch status version) s.document), s.version :: s.past⟩
      events t) :
    History refusing ns name s (.store status version (.ok ()) :: events) t := by
  obtain ⟨target, htarget⟩ := Option.isSome_iff_exists.mp haddress.2.2
  obtain ⟨o, hread, -⟩ := (hs.merged version times hfresh).object
  obtain ⟨hversion, hpast⟩ := hs.version_eq
  rw [hversion, hpast] at hfresh
  rw [hversion, ← versionIn_statusPatch status version] at hcurrent
  have hsend := send_transcript (patchRequest status version) haddress.1 htarget
    (.ok ⟨200, text⟩)
  rw [objectOf_read hread htext] at hsend
  refine .store (Program.transcript_bind_iff.mpr ⟨_, _, [], rfl, hsend, .done _⟩)
    (.cons ?_ (.nil _)) h
  exact .merged s _ _ fresh text (patches_patchRequest htarget) hcurrent hfresh htext

theorem History.conflicted (haddress : Addressable ns name) (hs : Shows s c)
    (hnamed : version ≠ none) (hstale : version ≠ c.version)
    (h : History refusing ns name s events t) :
    History refusing ns name s (.store status version (.error (.conflict name)) :: events) t := by
  obtain ⟨target, htarget⟩ := Option.isSome_iff_exists.mp haddress.2.2
  have hcode : (errorOf ⟨409, ""⟩).code = 409 := rfl
  obtain ⟨fault, hfault, hconflict⟩ := objectOf_stale name hcode
  rw [← versionIn_statusPatch status version] at hnamed hstale
  have hsend := send_transcript (patchRequest status version) haddress.1 htarget
    (.ok ⟨409, ""⟩)
  rw [hfault] at hsend
  rw [← hconflict]
  refine .store (Program.transcript_bind_iff.mpr ⟨_, _, [], rfl, hsend, .done _⟩)
    (.cons ?_ (.nil _)) h
  exact .stale s _ _ "" (patches_patchRequest htarget) hnamed (hs.version_eq.1 ▸ hstale) hcode

end Reach

/-- **The patch replaces the status and nothing else**, so that behind such an API loads and
stores compare and swap. -/
theorem replaces_and_swaps :
    (∀ (ms : List (String × Json)) (status : Status) (version : Option String),
      (Json.object ms).WellFormed → status.TimesReadBack →
      Replaced status version (.object ms) (mergePatch (statusPatch status version) (.object ms))) ∧
    ∀ (refusing : Prop) (ns name : String) (s t : StoredCluster) (c : StatusCell)
      (events : List StatusEvent),
      Shows s c → (∀ status version reply, .store status version reply ∈ events →
        status.TimesReadBack) →
      History refusing ns name s events t →
      ComparesAndSwaps name (MayFail refusing ns name) c.status events := by
  refine ⟨fun ms status version hms times => replaced_of_mergePatch version hms times,
    fun refusing ns name s t c events hs times h => ?_⟩
  obtain ⟨d, hcourse, -⟩ := exists_course h hs times
  exact hcourse.comparesAndSwaps hs.versioned

/-! ### A store that comes too late -/

namespace Overtaken

/-- An object whose status has a member that nobody knows. -/
def before : Json :=
  .object [("metadata", .object [("resourceVersion", .text "7")]),
    ("spec", .object [("location", .text "westeurope"), ("networkCidr", .text "10.0.0.0/16"),
      ("releaseVersion", .text "1.0")]),
    ("status", .object [("phase", .text "Failed"), ("message", .text "quota"),
      ("note", .text "kept")])]

/-- What its status is read as. -/
def failed : Status where
  phase := .failed
  message := some "quota"

/-- What is stored. -/
def ready : Status where
  phase := .ready
  resources := [⟨"main", [⟨"Checksum", "a1", ⟨0, 0⟩⟩]⟩]

/-- What is made of the object. -/
def after : Json :=
  .object [("metadata", .object [("resourceVersion", .text "8")]),
    ("spec", .object [("location", .text "westeurope"), ("networkCidr", .text "10.0.0.0/16"),
      ("releaseVersion", .text "1.0")]),
    ("status", .object [("phase", .text "Ready"), ("note", .text "kept"),
      ("resources", .array [.object [("name", .text "main"),
        ("conditions", .array [.object [("type", .text "Checksum"), ("status", .text "a1"),
          ("lastTransitionTime", .text "1970-01-01T00:00:00Z")]])]])])]

/-- The text of the object before, in pieces. -/
def beforePieces : List String :=
  ["\x7b\"metadata\":\x7b\"resourceVersion\":\"7\"\x7d,",
    "\"spec\":\x7b\"location\":\"westeurope\",\"networkCidr\":\"10.0.0.0/16\",",
    "\"releaseVersion\":\"1.0\"\x7d,\"status\":\x7b\"phase\":\"Failed\",",
    "\"message\":\"quota\",\"note\":\"kept\"\x7d\x7d"]

/-- The text of the object afterwards. -/
def afterPieces : List String :=
  ["\x7b\"metadata\":\x7b\"resourceVersion\":\"8\"\x7d,",
    "\"spec\":\x7b\"location\":\"westeurope\",\"networkCidr\":\"10.0.0.0/16\",",
    "\"releaseVersion\":\"1.0\"\x7d,\"status\":\x7b\"phase\":\"Ready\",",
    "\"note\":\"kept\",\"resources\":[\x7b\"name\":\"main\",",
    "\"conditions\":[\x7b\"type\":\"Checksum\",\"status\":\"a1\",",
    "\"lastTransitionTime\":\"1970-01-01T00:00:00Z\"\x7d]\x7d]\x7d\x7d"]

theorem tree?_of_pieces {pieces : List String} {v : Json.Tree}
    (hread : Json.readValue ((pieces.flatMap String.toList).length + 1) Json.depthLimit
      (pieces.flatMap String.toList) = .ok (v, [])) :
    tree? (String.ofList (pieces.flatMap String.toList)) = some v := by
  rw [tree?, Json.readTree, String.toList_ofList]
  dsimp only
  rw [hread]
  rfl

set_option maxRecDepth 2000 in
theorem tree?_before :
    tree? (String.ofList (beforePieces.flatMap String.toList)) = some before.toTree := by
  refine tree?_of_pieces ?_
  simp only [beforePieces, List.flatMap_cons, List.flatMap_nil, String.reduceToList]
  rfl

set_option maxRecDepth 2000 in
theorem tree?_after :
    tree? (String.ofList (afterPieces.flatMap String.toList)) = some after.toTree := by
  refine tree?_of_pieces ?_
  simp only [afterPieces, List.flatMap_cons, List.flatMap_nil, String.reduceToList]
  rfl

theorem bump_before : bump "8" (mergePatch (statusPatch ready (some "7")) before) = after := rfl

theorem timesReadBack_ready : ready.TimesReadBack := by
  decide +kernel

theorem addressable : Addressable "default" "c1" := by
  refine ⟨by decide, ?_, ?_⟩ <;> decide +kernel

theorem wellFormed_before : before.WellFormed := by
  have htext : ∀ s, (Json.text s).WellFormed := .text
  simp [before, htext]

theorem shows_before : Shows ⟨before, []⟩ ⟨failed, some "7", []⟩ where
  wellFormed := wellFormed_before
  members := ⟨_, rfl⟩
  object := ⟨⟨⟨none, "westeurope", "10.0.0.0/16", "1.0", true, []⟩, some failed, some "7"⟩,
    rfl, rfl⟩
  versioned := ⟨nofun, nofun⟩

theorem shows_after : Shows ⟨after, [some "7"]⟩ ⟨ready, some "8", [some "7"]⟩ :=
  bump_before ▸ shows_before.merged _ timesReadBack_ready (by decide)

/-- A load, a store at its version, another store at that version, and a load. -/
def course : List StatusEvent :=
  [.load (.ok ⟨failed, some "7", ⟨0, 0⟩⟩), .store ready (some "7") (.ok ()),
    .store {} (some "7") (.error (.conflict "c1")), .load (.ok ⟨ready, some "8", ⟨0, 0⟩⟩)]

theorem history : History False "default" "c1" ⟨before, []⟩ course ⟨after, [some "7"]⟩ := by
  refine .loaded addressable shows_before tree?_before ⟨0, 0⟩ ?_
  refine .stored addressable shows_before timesReadBack_ready (.inr rfl) (by decide)
    (bump_before ▸ tree?_after) ?_
  rw [bump_before]
  refine .conflicted addressable shows_after nofun (by decide) ?_
  exact .loaded addressable shows_after tree?_after ⟨0, 0⟩ (.nil _)

theorem timesReadBack_course (status : Status) (version : Option String)
    (reply : Except StoreFault Unit) (h : .store status version reply ∈ course) :
    status.TimesReadBack := by
  simp only [course, List.mem_cons, List.not_mem_nil, reduceCtorEq, false_or, or_false,
    StatusEvent.store.injEq] at h
  rcases h with ⟨rfl, -, -⟩ | ⟨rfl, -, -⟩
  · exact timesReadBack_ready
  · exact nofun

end Overtaken

/-- The first store replaces a status that has a message and a member that nobody knows; the
second one comes too late, and the last load gives what the first one was given. -/
theorem replaces_and_swaps_of_overtaken :
    Replaced Overtaken.ready (some "7") Overtaken.before
      (mergePatch (statusPatch Overtaken.ready (some "7")) Overtaken.before) ∧
    History False "default" "c1" ⟨Overtaken.before, []⟩ Overtaken.course
      ⟨Overtaken.after, [some "7"]⟩ ∧
    ¬MayFail False "default" "c1" ∧
    ComparesAndSwaps "c1" (MayFail False "default" "c1") Overtaken.failed Overtaken.course := by
  obtain ⟨replaces, swaps⟩ := replaces_and_swaps
  refine ⟨replaces _ _ _ Overtaken.wellFormed_before Overtaken.timesReadBack_ready,
    Overtaken.history, ?_, ?_⟩
  · rintro (hrefusing | hnot)
    · exact hrefusing
    · exact hnot Overtaken.addressable
  · exact swaps _ _ _ _ _ _ _ Overtaken.shows_before Overtaken.timesReadBack_course
      Overtaken.history

end ClusterApi

end ClusterOperator
