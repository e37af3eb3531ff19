import ClusterOperator.Pass.Context

/-!
# The context of a pass

What canceling a pass and putting identifiers into its context leave behind, and what a
requirement that is met says.

Resources change a context by calls, of which there are four kinds (`ContextCall`).  Each part of
a context is written by calls of one kind: the reason for canceling is the first one that was
given, and everything else is what was written last.  So whatever is called on a fresh context in
whatever order, what it answers can be read off the calls (`reflects_afterCalls`).
-/

namespace ClusterOperator

/-- Whether a field is a handle, which is never given as a text. -/
def ContextField.isHandle : ContextField → Bool
  | .storageContainer => true
  | .cloudConfig => true
  | _ => false

namespace PassContext

variable {ctx : PassContext} {reason value v : String} {field other : ContextField}
  {identifier : Option String}

@[simp] theorem isCanceled_cancel : (ctx.cancel reason).isCanceled = true := by
  unfold cancel isCanceled
  split
  · rename_i h
    rw [h]
    rfl
  · rfl

theorem cancelReason_eq_none_iff : ctx.cancelReason = none ↔ ctx.isCanceled = false := by
  rw [isCanceled, Option.isSome_eq_false_iff, Option.isNone_iff_eq_none]

/-- What is required and met is set. -/
theorem isSet_of_validate {name : String} {fields : List ContextField}
    (h : ctx.validate name fields = .ok ()) (hfield : field ∈ fields) : ctx.isSet field = true := by
  dsimp only [validate] at h
  split at h
  · rename_i hmissing
    rw [List.isEmpty_iff, List.map_eq_nil_iff, List.filter_eq_nil_iff] at hmissing
    simpa using hmissing field hfield
  · cases h

/-- A requirement fails with the names of the fields that cannot be used. -/
theorem validate_of_isSet_iff {usable : ContextField → Prop} [DecidablePred usable]
    (h : ∀ field, ctx.isSet field = true ↔ usable field) {name : String}
    {fields : List ContextField} :
    ctx.validate name fields =
      if ∀ field ∈ fields, usable field then .ok ()
      else .error (.invalidContext name
        ((fields.filter fun field => ¬usable field).map (·.toText))) := by
  have hmissing : (fields.filter fun field => !ctx.isSet field) =
      fields.filter fun field => ¬usable field := by
    refine List.filter_congr fun field _ => Bool.eq_iff_iff.mpr ?_
    simp [← h field]
  have hall : ((fields.filter fun field => ¬usable field).map (·.toText)).isEmpty = true ↔
      ∀ field ∈ fields, usable field := by
    simp [List.filter_eq_nil_iff]
  simp only [validate, hmissing]
  by_cases hmet : ∀ field ∈ fields, usable field
  · rw [if_pos hmet, if_pos (hall.mpr hmet)]
  · rw [if_neg hmet, if_neg fun hempty => hmet (hall.mp hempty)]

/-! ## Identifiers -/

/-- The identifier in a field; container and renderer have none. -/
def identifier? (ctx : PassContext) : ContextField → Option String
  | .apiServerBackendPoolId => ctx.apiServerBackendPoolId
  | .etcdBackendPoolId => ctx.etcdBackendPoolId
  | .masterSubnetId => ctx.masterSubnetId
  | .workerSubnetId => ctx.workerSubnetId
  | .storageContainer => none
  | .cloudConfig => none

theorem nonEmpty_eq_some_iff : nonEmpty value = some v ↔ value = v ∧ v ≠ "" := by
  unfold nonEmpty
  split
  · rename_i hempty
    exact ⟨nofun, fun ⟨heq, htext⟩ => absurd (heq ▸ hempty) htext⟩
  · rename_i htext
    rw [Option.some_inj]
    exact ⟨fun heq => ⟨heq, heq ▸ htext⟩, And.left⟩

/-- An identifier that is never the empty text can be used if it is there. -/
theorem isUsable_eq_isSome (text : identifier ≠ some "") :
    isUsable identifier = identifier.isSome := by
  cases identifier with
  | none => rfl
  | some v => exact decide_eq_true fun hempty => text (congrArg some hempty)

theorem isUsable_iff : isUsable identifier = true ↔ ∃ v, identifier = some v ∧ v ≠ "" := by
  cases identifier <;> simp [isUsable]

theorem isSet_of_not_isHandle (text : field.isHandle = false) :
    ctx.isSet field = isUsable (ctx.identifier? field) := by
  cases field with
  | storageContainer | cloudConfig => cases text
  | _ => rfl

/-- Only handles refuse a text. -/
theorem setOutput_fst : (ctx.setOutput field value).1 = !field.isHandle := by
  cases field <;> rfl

/-- A handle that refuses a text leaves the context as it is. -/
theorem setOutput_of_isHandle (handle : field.isHandle = true) :
    ctx.setOutput field value = (false, ctx) := by
  cases field with
  | storageContainer | cloudConfig => rfl
  | _ => cases handle

theorem identifier?_setOutput_self (identifier : (ctx.setOutput field value).1 = true) :
    (ctx.setOutput field value).2.identifier? field = nonEmpty value := by
  cases field with
  | storageContainer | cloudConfig => cases identifier
  | _ => rfl

theorem identifier?_setOutput_of_ne (hne : field ≠ other) :
    (ctx.setOutput field value).2.identifier? other = ctx.identifier? other := by
  cases field <;> cases other <;> first | rfl | exact absurd rfl hne

@[simp] theorem storage_setOutput : (ctx.setOutput field value).2.storage = ctx.storage := by
  cases field <;> rfl

@[simp] theorem hasRenderer_setOutput :
    (ctx.setOutput field value).2.hasRenderer = ctx.hasRenderer := by
  cases field <;> rfl

@[simp] theorem cancelReason_setOutput :
    (ctx.setOutput field value).2.cancelReason = ctx.cancelReason := by
  cases field <;> rfl

@[simp] theorem isCanceled_setOutput :
    (ctx.setOutput field value).2.isCanceled = ctx.isCanceled := by
  cases field <;> rfl

/-! Canceling a pass leaves what the resources share. -/

@[simp] theorem identifier?_cancel :
    (ctx.cancel reason).identifier? field = ctx.identifier? field := by
  unfold cancel
  split
  · rfl
  · cases field <;> rfl

@[simp] theorem storage_cancel : (ctx.cancel reason).storage = ctx.storage := by
  unfold cancel
  split <;> rfl

@[simp] theorem hasRenderer_cancel : (ctx.cancel reason).hasRenderer = ctx.hasRenderer := by
  unfold cancel
  split <;> rfl

end PassContext

/-! ## Calls -/

/-- What a resource may call on a context. -/
inductive ContextCall where
  | setOutput (field : ContextField) (value : String)
  | setStorage (storage : StorageContainer)
  | setRenderer
  | cancel (reason : String)
  deriving DecidableEq

namespace ContextCall

/-- What a call makes of a context. -/
def apply (ctx : PassContext) : ContextCall → PassContext
  | .setOutput field value => (ctx.setOutput field value).2
  | .setStorage storage => ctx.setStorage storage
  | .setRenderer => ctx.setRenderer
  | .cancel reason => ctx.cancel reason

/-- The text that a call gives for a field. -/
def value? (field : ContextField) : ContextCall → Option String
  | .setOutput other value => if other = field then some value else none
  | _ => none

/-- The container that a call attaches. -/
def storage? : ContextCall → Option StorageContainer
  | .setStorage storage => some storage
  | _ => none

/-- The reason that a call gives for canceling. -/
def reason? : ContextCall → Option String
  | .cancel reason => some reason
  | _ => none

variable {β : Type} {given? : ContextCall → Option β} {calls : List ContextCall} {v : β}

/-- The first thing of a kind that calls give. -/
def First (given? : ContextCall → Option β) (calls : List ContextCall) (v : β) : Prop :=
  ∃ earlier call later, calls = earlier ++ call :: later ∧ given? call = some v ∧
    ∀ c ∈ earlier, given? c = none

/-- The last thing of a kind that calls give. -/
def Last (given? : ContextCall → Option β) (calls : List ContextCall) (v : β) : Prop :=
  ∃ earlier call later, calls = earlier ++ call :: later ∧ given? call = some v ∧
    ∀ c ∈ later, given? c = none

theorem first_iff : First given? calls v ↔ calls.findSome? given? = some v :=
  List.findSome?_eq_some_iff.symm

theorem last_iff : Last given? calls v ↔ calls.reverse.findSome? given? = some v := by
  rw [List.findSome?_eq_some_iff]
  constructor
  · rintro ⟨earlier, call, later, rfl, hgiven, hlater⟩
    refine ⟨later.reverse, call, earlier.reverse, by simp, hgiven, fun c hc => ?_⟩
    exact hlater c (List.mem_reverse.mp hc)
  · rintro ⟨later, call, earlier, hcalls, hgiven, hlater⟩
    refine ⟨earlier.reverse, call, later.reverse, ?_, hgiven, fun c hc => ?_⟩
    · rw [← List.reverse_reverse calls, hcalls]
      simp
    · exact hlater c (List.mem_reverse.mp hc)

/-- Something is given last if it is given at all. -/
theorem exists_last_iff : (∃ v, Last given? calls v) ↔ ∃ call ∈ calls, (given? call).isSome := by
  simp only [last_iff, ← Option.isSome_iff_exists, List.isSome_findSome?, List.any_reverse,
    List.any_eq_true]

/-- **The calls provide a field**: the text that is given for it last is not empty, or the handle
is attached. -/
def Provides (calls : List ContextCall) : ContextField → Prop
  | .storageContainer => ∃ call ∈ calls, call.storage?.isSome
  | .cloudConfig => .setRenderer ∈ calls
  | field => ∃ v, Last (value? field) calls v ∧ v ≠ ""

theorem givesText_iff {field : ContextField} :
    (calls.reverse.findSome? (value? field)).any (fun v => v ≠ "") = true ↔
      ∃ v, Last (value? field) calls v ∧ v ≠ "" := by
  simp only [last_iff, Option.any_eq_true, decide_eq_true_eq]

instance (calls : List ContextCall) : DecidablePred (Provides calls)
  | .storageContainer => inferInstanceAs (Decidable (∃ call ∈ calls, call.storage?.isSome))
  | .cloudConfig => inferInstanceAs (Decidable (.setRenderer ∈ calls))
  | .apiServerBackendPoolId => decidable_of_iff _ givesText_iff
  | .etcdBackendPoolId => decidable_of_iff _ givesText_iff
  | .masterSubnetId => decidable_of_iff _ givesText_iff
  | .workerSubnetId => decidable_of_iff _ givesText_iff

end ContextCall

namespace PassContext

open ContextCall (First Last Provides value? storage? reason? first_iff last_iff
  exists_last_iff)

variable {ctx : PassContext} {call : ContextCall} {calls : List ContextCall}
  {field : ContextField}

/-- The context after several calls. -/
def afterCalls (ctx : PassContext) (calls : List ContextCall) : PassContext :=
  calls.foldl ContextCall.apply ctx

theorem cancelReason_apply :
    (call.apply ctx).cancelReason = ctx.cancelReason.or call.reason? := by
  cases call with
  | setOutput field value => exact cancelReason_setOutput.trans (Option.or_none).symm
  | setStorage | setRenderer => exact (Option.or_none).symm
  | cancel reason =>
    dsimp only [ContextCall.apply, ContextCall.reason?, cancel]
    split
    · rename_i h
      rw [h]
      rfl
    · rename_i h
      rw [h, Option.none_or]

/-- **The first reason stands.** -/
theorem cancelReason_afterCalls :
    (ctx.afterCalls calls).cancelReason =
      ctx.cancelReason.or (calls.findSome? ContextCall.reason?) := by
  induction calls generalizing ctx with
  | nil => exact (Option.or_none).symm
  | cons call calls ih =>
    rw [afterCalls, List.foldl_cons]
    refine ih.trans ?_
    rw [cancelReason_apply, Option.or_assoc, List.findSome?_cons]
    cases call.reason? <;> rfl

theorem identifier?_apply (text : field.isHandle = false) :
    (call.apply ctx).identifier? field =
      ((call.value? field).map nonEmpty).getD (ctx.identifier? field) := by
  cases call with
  | setOutput other value =>
    dsimp only [ContextCall.apply, value?]
    split
    · rename_i heq
      subst heq
      exact identifier?_setOutput_self (by rw [setOutput_fst, text]; rfl)
    · rename_i hne
      exact identifier?_setOutput_of_ne hne
  | setStorage | setRenderer => cases field <;> rfl
  | cancel reason => exact identifier?_cancel

theorem storage_apply : (call.apply ctx).storage = (call.storage?.map some).getD ctx.storage := by
  cases call with
  | setOutput field value => exact storage_setOutput
  | setStorage | setRenderer => rfl
  | cancel reason => exact storage_cancel

theorem hasRenderer_apply :
    (call.apply ctx).hasRenderer = true ↔ call = .setRenderer ∨ ctx.hasRenderer = true := by
  cases call with
  | setOutput field value => simp [ContextCall.apply]
  | setStorage storage => exact ⟨.inr, fun h => h.resolve_left nofun⟩
  | setRenderer => exact iff_of_true rfl (.inl rfl)
  | cancel reason => simp [ContextCall.apply]

/-- **What was given last stands**, in a part of a context that a call either leaves or makes of
what it gives. -/
theorem afterCalls_of_apply {α β : Type} {f : PassContext → β} {given? : ContextCall → Option α}
    {made : α → β}
    (apply : ∀ ctx call, f (ContextCall.apply ctx call) = ((given? call).map made).getD (f ctx)) :
    f (ctx.afterCalls calls) = ((calls.reverse.findSome? given?).map made).getD (f ctx) := by
  induction calls generalizing ctx with
  | nil => rfl
  | cons call calls ih =>
    rw [afterCalls, List.foldl_cons]
    refine ih.trans ?_
    rw [apply, List.reverse_cons, List.findSome?_append, List.findSome?_singleton]
    cases calls.reverse.findSome? given? <;> rfl

theorem hasRenderer_afterCalls :
    (ctx.afterCalls calls).hasRenderer = true ↔
      .setRenderer ∈ calls ∨ ctx.hasRenderer = true := by
  induction calls generalizing ctx with
  | nil => exact ⟨.inr, fun h => h.resolve_left nofun⟩
  | cons call calls ih =>
    rw [afterCalls, List.foldl_cons]
    refine ih.trans ?_
    rw [hasRenderer_apply, List.mem_cons, ← or_assoc, or_comm (a := .setRenderer ∈ calls),
      eq_comm (a := call)]

/-! ## Fresh contexts -/

variable {storage : StorageContainer} {v reason : String}

theorem identifier?_fresh_iff (text : field.isHandle = false) :
    (({} : PassContext).afterCalls calls).identifier? field = some v ↔
      Last (value? field) calls v ∧ v ≠ "" := by
  have hfresh : ({} : PassContext).identifier? field = none := by cases field <;> rfl
  rw [afterCalls_of_apply (f := (·.identifier? field)) fun _ _ => identifier?_apply text, hfresh,
    last_iff]
  cases calls.reverse.findSome? (value? field) with
  | none => exact ⟨nofun, nofun⟩
  | some value =>
    rw [Option.some_inj]
    exact nonEmpty_eq_some_iff

theorem storage_fresh_iff :
    (({} : PassContext).afterCalls calls).storage = some storage ↔
      Last storage? calls storage := by
  rw [afterCalls_of_apply (f := (·.storage)) fun _ _ => storage_apply, last_iff]
  cases calls.reverse.findSome? storage? <;> rfl

theorem cancelReason_fresh_iff :
    (({} : PassContext).afterCalls calls).cancelReason = some reason ↔
      First reason? calls reason := by
  rw [cancelReason_afterCalls, first_iff, Option.none_or]

/-- **A field is set if the calls provide it.** -/
theorem isSet_fresh_iff :
    (({} : PassContext).afterCalls calls).isSet field = true ↔ Provides calls field := by
  have identifier : ∀ field : ContextField, field.isHandle = false →
      ((({} : PassContext).afterCalls calls).isSet field = true ↔
        ∃ v, Last (value? field) calls v ∧ v ≠ "") := by
    intro field text
    rw [isSet_of_not_isHandle text, isUsable_iff]
    refine exists_congr fun v => ?_
    rw [identifier?_fresh_iff text, and_assoc, and_self]
  cases field with
  | storageContainer =>
    have hisSet : (({} : PassContext).afterCalls calls).isSet .storageContainer = true ↔
        ∃ storage, (({} : PassContext).afterCalls calls).storage = some storage :=
      Option.isSome_iff_exists
    rw [hisSet, Provides, ← exists_last_iff]
    exact exists_congr fun storage => storage_fresh_iff
  | cloudConfig => exact hasRenderer_afterCalls.trans (or_iff_left Bool.false_ne_true)
  | _ => exact identifier _ rfl

/-- **What a context answers, by the calls that were made on it.** -/
structure Reflects (calls : List ContextCall) (ctx : PassContext) : Prop where
  /-- An identifier is the text that was given for it last, unless that is the empty one. -/
  identifier : ∀ field v, field.isHandle = false →
    (ctx.identifier? field = some v ↔ Last (value? field) calls v ∧ v ≠ "")
  /-- The container is the one that was attached last. -/
  storage : ∀ s, ctx.storage = some s ↔ Last storage? calls s
  isSet : ∀ field, ctx.isSet field = true ↔ Provides calls field
  /-- Identifiers take every text, handles none. -/
  takes : ∀ field value, (ctx.setOutput field value).1 = !field.isHandle
  refused : ∀ field value, field.isHandle = true → (ctx.setOutput field value).2 = ctx
  /-- The reason for canceling is the one that was given first. -/
  reason : ∀ r, ctx.cancelReason = some r ↔ First reason? calls r
  /-- Nothing that is called later clears or replaces it. -/
  stands : ∀ r more, ctx.cancelReason = some r → (ctx.afterCalls more).cancelReason = some r
  /-- A requirement fails with the names of what the calls do not provide, in the order in which
  they are required. -/
  validate : ∀ resource required, ctx.validate resource required =
    if ∀ field ∈ required, Provides calls field then .ok ()
    else .error (.invalidContext resource
      ((required.filter fun field => ¬Provides calls field).map (·.toText)))

/-- **A context that was fresh reflects the calls that were made on it**, whatever they are. -/
theorem reflects_afterCalls (calls : List ContextCall) :
    Reflects calls (({} : PassContext).afterCalls calls) where
  identifier _ _ text := identifier?_fresh_iff text
  storage _ := storage_fresh_iff
  isSet _ := isSet_fresh_iff
  takes _ _ := setOutput_fst
  refused _ _ handle := congrArg Prod.snd (setOutput_of_isHandle handle)
  reason _ := cancelReason_fresh_iff
  stands r more h := by rw [cancelReason_afterCalls, h, Option.some_or]
  validate resource required := validate_of_isSet_iff fun _ => isSet_fresh_iff

/-- A text that is given again replaces the one before, and clears it if it is empty; a handle that
was given as a text is not there. -/
example : (({} : PassContext).afterCalls
      [.setOutput .masterSubnetId "a", .setOutput .workerSubnetId "b", .cancel "first",
        .setOutput .masterSubnetId "", .setOutput .storageContainer "c", .cancel "second"]).validate
      "blobobject" [.storageContainer, .workerSubnetId, .masterSubnetId] =
    .error (.invalidContext "blobobject" ["storageContainer", "masterSubnetID"]) := rfl

end PassContext

end ClusterOperator
