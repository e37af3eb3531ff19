import ClusterOperator.Pass.Step

/-!
# Transcripts

A program leaves open what is replied to its requests.  A **transcript** of a program
is one way in which it can go: its requests in order, each with the reply it got, and
the value it ended with.  What holds of every transcript holds in every world.

A world in which not everything can be replied is given by a relation `answers`: from
which state to which state an exchange takes it.  `Served` says that a list of
exchanges fits such a world.  The run of a program under a server is a transcript that
fits the world of that server (`run_transcript`).
-/

namespace ClusterOperator

/-- A request and the reply it got. -/
structure Exchange (I : Interface) where
  request : I.Request
  reply : I.Reply request

/-- An exchange in front of which one list ends is behind it in the other, or in it. -/
theorem append_cons_eq_append {α : Type} {before behind ys zs : List α} {x : α}
    (h : before ++ x :: behind = ys ++ zs) :
    (∃ ws, ys = before ++ x :: ws ∧ behind = ws ++ zs) ∨
      ∃ ws, before = ys ++ ws ∧ zs = ws ++ x :: behind := by
  rcases List.append_eq_append_iff.mp h with ⟨ws, rfl, hws⟩ | ⟨ws, rfl, rfl⟩
  · cases ws with
    | nil => exact .inr ⟨[], by simp, hws.symm⟩
    | cons w ws =>
      obtain ⟨rfl, rfl⟩ := List.cons.inj hws
      exact .inl ⟨ws, rfl, rfl⟩
  · exact .inr ⟨ws, rfl, rfl⟩

/-- The exchanges take a world from the first state to the last, one after another. -/
inductive Served {I : Interface} {σ : Type} (answers : σ → Exchange I → σ → Prop) :
    σ → List (Exchange I) → σ → Prop where
  | nil (s : σ) : Served answers s [] s
  | cons {s t u : σ} {x : Exchange I} {xs : List (Exchange I)} :
      answers s x t → Served answers t xs u → Served answers s (x :: xs) u

namespace Served

variable {I : Interface} {σ : Type} {answers : σ → Exchange I → σ → Prop} {s t u : σ}
  {x : Exchange I} {xs ys : List (Exchange I)}

@[simp] theorem nil_iff : Served answers s [] t ↔ t = s := by
  constructor
  · rintro ⟨⟩; rfl
  · rintro rfl; exact .nil _

@[simp] theorem cons_iff :
    Served answers s (x :: xs) u ↔ ∃ t, answers s x t ∧ Served answers t xs u := by
  constructor
  · rintro (_ | ⟨hx, hxs⟩); exact ⟨_, hx, hxs⟩
  · rintro ⟨t, hx, hxs⟩; exact .cons hx hxs

theorem append_iff :
    Served answers s (xs ++ ys) u ↔ ∃ t, Served answers s xs t ∧ Served answers t ys u := by
  induction xs generalizing s with
  | nil => simp
  | cons x xs ih =>
    simp only [List.cons_append, cons_iff, ih]
    constructor
    · rintro ⟨v, hx, t, hxs, hys⟩; exact ⟨t, ⟨v, hx, hxs⟩, hys⟩
    · rintro ⟨t, ⟨v, hx, hxs⟩, hys⟩; exact ⟨v, hx, t, hxs, hys⟩

/-- What every exchange keeps is kept by all of them. -/
theorem invariant {P : σ → Prop} (step : ∀ s x t, x ∈ xs → answers s x t → P s → P t)
    (h : Served answers s xs t) (hs : P s) : P t := by
  induction h with
  | nil => exact hs
  | cons hx _ ih =>
    exact ih (fun s y t hy => step s y t (List.mem_cons_of_mem _ hy))
      (step _ _ _ List.mem_cons_self hx hs)

end Served

namespace Program

variable {I : Interface} {α β σ : Type}

/-- The program ends with the value after these exchanges. -/
inductive Transcript : Program I α → List (Exchange I) → α → Prop where
  | done (a : α) : Transcript (.done a) [] a
  | ask {q : I.Request} {next : I.Reply q → Program I α} {xs : List (Exchange I)} {a : α}
      (r : I.Reply q) : Transcript (next r) xs a → Transcript (.ask q next) (⟨q, r⟩ :: xs) a

variable {p : Program I α} {f : α → Program I β} {a : α} {b : β} {xs : List (Exchange I)}

@[simp] theorem transcript_done_iff {b : α} :
    (Program.done (I := I) a).Transcript xs b ↔ xs = [] ∧ b = a := by
  constructor
  · rintro ⟨⟩; exact ⟨rfl, rfl⟩
  · rintro ⟨rfl, rfl⟩; exact .done _

@[simp] theorem transcript_ask_iff {q : I.Request} {next : I.Reply q → Program I α} :
    (Program.ask q next).Transcript xs a ↔
      ∃ r ys, xs = ⟨q, r⟩ :: ys ∧ (next r).Transcript ys a := by
  constructor
  · rintro (_ | ⟨r, h⟩); exact ⟨r, _, rfl, h⟩
  · rintro ⟨r, ys, rfl, h⟩; exact .ask r h

@[simp] theorem transcript_call_iff {q : I.Request} {r : I.Reply q} :
    (Program.call q).Transcript xs r ↔ xs = [⟨q, r⟩] := by
  simp only [Program.call, transcript_ask_iff, transcript_done_iff]
  constructor
  · rintro ⟨r, _, rfl, rfl, rfl⟩; rfl
  · rintro rfl; exact ⟨r, [], rfl, rfl, rfl⟩

theorem transcript_bind_iff :
    (p.bind f).Transcript xs b ↔
      ∃ a ys zs, xs = ys ++ zs ∧ p.Transcript ys a ∧ (f a).Transcript zs b := by
  induction p generalizing xs with
  | done a =>
    simp only [Program.bind, transcript_done_iff]
    constructor
    · intro h; exact ⟨a, [], xs, rfl, ⟨rfl, rfl⟩, h⟩
    · rintro ⟨_, _, zs, rfl, ⟨rfl, rfl⟩, h⟩; exact h
  | ask q next ih =>
    simp only [Program.bind, transcript_ask_iff, ih]
    constructor
    · rintro ⟨r, _, rfl, a, ys, zs, rfl, hp, hf⟩
      exact ⟨a, ⟨q, r⟩ :: ys, zs, rfl, ⟨r, ys, rfl, hp⟩, hf⟩
    · rintro ⟨a, _, zs, rfl, ⟨r, ys, rfl, hp⟩, hf⟩
      exact ⟨r, ys ++ zs, rfl, a, ys, zs, rfl, hp, hf⟩

/-- A program that only changes the value of another one has the same exchanges. -/
theorem transcript_map_iff {g : α → β} :
    (p.bind fun a => .done (g a)).Transcript xs b ↔ ∃ a, p.Transcript xs a ∧ b = g a := by
  simp only [transcript_bind_iff, transcript_done_iff]
  constructor
  · rintro ⟨a, ys, _, rfl, hp, rfl, rfl⟩; exact ⟨a, by simpa using hp, rfl⟩
  · rintro ⟨a, hp, rfl⟩; exact ⟨a, xs, [], by simp, hp, rfl, rfl⟩

/-- A program that begins with a request goes on with the reply to it. -/
theorem transcript_call_bind_iff {q : I.Request} {g : I.Reply q → Program I β} :
    ((Program.call q).bind g).Transcript xs b ↔
      ∃ r ys, xs = ⟨q, r⟩ :: ys ∧ (g r).Transcript ys b :=
  transcript_ask_iff

/-- What was replied tells how far a program went and what it ended with. -/
theorem Transcript.unique {b : α} {ys zs ws : List (Exchange I)} (h : p.Transcript xs a)
    (h' : p.Transcript ys b) (heq : xs ++ zs = ys ++ ws) : xs = ys ∧ a = b := by
  induction h generalizing ys with
  | done a =>
    obtain ⟨rfl, rfl⟩ := transcript_done_iff.mp h'
    exact ⟨rfl, rfl⟩
  | ask r _ ih =>
    obtain ⟨r', ys, rfl, hrest⟩ := transcript_ask_iff.mp h'
    -- Both begin with the same exchange, so the program goes on in the same way.
    obtain ⟨hx, hxs⟩ := List.cons.inj heq
    cases hx
    obtain ⟨rfl, rfl⟩ := ih hrest hxs
    exact ⟨rfl, rfl⟩

/-- A run under a server is a transcript, and fits the world of the server. -/
theorem run_transcript (serve : (q : I.Request) → σ → I.Reply q × σ) (p : Program I α) (s : σ) :
    ∃ xs, p.Transcript xs (p.run serve s).1 ∧
      Served (fun s x t => serve x.request s = (x.reply, t)) s xs (p.run serve s).2 := by
  induction p generalizing s with
  | done a => exact ⟨[], .done a, .nil s⟩
  | ask q next ih =>
    obtain ⟨xs, hp, hs⟩ := ih (serve q s).1 (serve q s).2
    exact ⟨⟨q, (serve q s).1⟩ :: xs, .ask _ hp, .cons rfl hs⟩

/-- A program whose requests can all be replied to can end. -/
theorem exists_transcript (replies : ∀ q, Nonempty (I.Reply q)) (p : Program I α) :
    ∃ xs a, p.Transcript xs a := by
  obtain ⟨xs, h, -⟩ := run_transcript (σ := Unit)
    (fun q s => (Classical.choice (replies q), s)) p ()
  exact ⟨xs, _, h⟩

/-! ### What a program asks -/

/-- Whatever is replied, the program makes requests of one sort only. -/
def Asks (sort : I.Request → Prop) (p : Program I α) : Prop :=
  ∀ xs a, p.Transcript xs a → ∀ x ∈ xs, sort x.request

variable {sort : I.Request → Prop}

theorem Asks.done (a : α) : (Program.done a : Program I α).Asks sort := by
  intro xs b h
  obtain ⟨rfl, -⟩ := transcript_done_iff.mp h
  exact nofun

theorem Asks.bind (hp : p.Asks sort) (hf : ∀ a, (f a).Asks sort) : (p.bind f).Asks sort := by
  intro xs b h
  obtain ⟨a, ys, zs, rfl, hys, hzs⟩ := transcript_bind_iff.mp h
  exact List.forall_mem_append.mpr ⟨hp ys a hys, hf a zs b hzs⟩

theorem Asks.call {q : I.Request} (hq : sort q) : (Program.call q).Asks sort := by
  intro xs r h
  obtain rfl := transcript_call_iff.mp h
  exact List.forall_mem_singleton.mpr hq

end Program

/-! ## Transcripts of steps -/

namespace Step

variable {I : Interface} {α β : Type}

/-- The step goes from one context to another with this result. -/
def Transcript (m : Step I α) (ctx : PassContext) (xs : List (Exchange I)) (r : Except Failure α)
    (after : PassContext) : Prop :=
  (m ctx).Transcript xs (r, after)

variable {m : Step I α} {f : α → Step I β} {ctx after : PassContext} {xs : List (Exchange I)}
  {a : α} {r : Except Failure α} {s : Except Failure β}

@[simp] theorem bind_eq_bind : (m >>= f) = m.bind f := rfl

@[simp] theorem transcript_pure_iff :
    (pure a : Step I α).Transcript ctx xs r after ↔ xs = [] ∧ r = .ok a ∧ after = ctx := by
  simp [Transcript, pure]

@[simp] theorem transcript_fail_iff {e : Failure} :
    (Step.fail e : Step I α).Transcript ctx xs r after ↔
      xs = [] ∧ r = .error e ∧ after = ctx := by
  simp [Transcript, Step.fail]

@[simp] theorem transcript_lift_iff {p : Program I α} :
    (Step.lift p).Transcript ctx xs r after ↔
      ∃ a, p.Transcript xs a ∧ r = .ok a ∧ after = ctx := by
  simp [Transcript, Step.lift, Program.transcript_map_iff]

@[simp] theorem transcript_tryLift_iff {p : Program I (Except Failure α)} :
    (Step.tryLift p).Transcript ctx xs r after ↔ p.Transcript xs r ∧ after = ctx := by
  simp only [Transcript, Step.tryLift, Program.transcript_map_iff, Prod.mk.injEq]
  constructor
  · rintro ⟨_, hp, rfl, rfl⟩; exact ⟨hp, rfl⟩
  · rintro ⟨hp, rfl⟩; exact ⟨r, hp, rfl, rfl⟩

@[simp] theorem transcript_modify_iff {g : PassContext → PassContext} {r : Except Failure Unit} :
    (Step.modify g : Step I Unit).Transcript ctx xs r after ↔
      xs = [] ∧ r = .ok () ∧ after = g ctx := by
  simp [Transcript, Step.modify]

@[simp] theorem transcript_cancel_iff {reason : String} {r : Except Failure Unit} :
    (Step.cancel reason : Step I Unit).Transcript ctx xs r after ↔
      xs = [] ∧ r = .ok () ∧ after = ctx.cancel reason :=
  transcript_modify_iff

@[simp] theorem transcript_require_iff {name : String} {fields : List ContextField}
    {r : Except Failure Unit} :
    (Step.require name fields : Step I Unit).Transcript ctx xs r after ↔
      xs = [] ∧ r = ctx.validate name fields ∧ after = ctx := by
  simp [Transcript, Step.require]

/-- A step that goes on ends with the failure of its first part, or with the result of
the rest. -/
theorem transcript_bind_iff :
    (m.bind f).Transcript ctx xs s after ↔
      (∃ e, m.Transcript ctx xs (.error e) after ∧ s = .error e) ∨
        ∃ a between ys zs, xs = ys ++ zs ∧ m.Transcript ctx ys (.ok a) between ∧
          (f a).Transcript between zs s after := by
  simp only [Transcript, Step.bind, Program.transcript_bind_iff]
  constructor
  · rintro ⟨⟨r, between⟩, ys, zs, rfl, hm, hf⟩
    cases r with
    | error e =>
      simp only [Program.transcript_done_iff, Prod.mk.injEq] at hf
      obtain ⟨rfl, rfl, rfl⟩ := hf
      exact .inl ⟨e, by simpa using hm, rfl⟩
    | ok a => exact .inr ⟨a, between, ys, zs, rfl, hm, hf⟩
  · rintro (⟨e, hm, rfl⟩ | ⟨a, between, ys, zs, rfl, hm, hf⟩)
    · exact ⟨(.error e, after), xs, [], by simp, hm, by simp⟩
    · exact ⟨(.ok a, between), ys, zs, rfl, hm, hf⟩

/-! What a step that begins in a known way goes on with. -/

@[simp] theorem transcript_context_bind_iff {f : PassContext → Step I β} :
    ((Step.context : Step I PassContext).bind f).Transcript ctx xs s after ↔
      (f ctx).Transcript ctx xs s after :=
  Iff.rfl

@[simp] theorem transcript_modify_bind_iff {g : PassContext → PassContext}
    {f : Unit → Step I β} :
    ((Step.modify g : Step I Unit).bind f).Transcript ctx xs s after ↔
      (f ()).Transcript (g ctx) xs s after :=
  Iff.rfl

@[simp] theorem transcript_cancel_bind_iff {reason : String} {f : Unit → Step I β} :
    ((Step.cancel reason : Step I Unit).bind f).Transcript ctx xs s after ↔
      (f ()).Transcript (ctx.cancel reason) xs s after :=
  Iff.rfl

/-- A step that begins with a request goes on with the reply to it. -/
theorem transcript_ask_bind_iff {q : I.Request} {g : I.Reply q → Step I β} :
    ((Step.lift (Program.call q)).bind g).Transcript ctx xs s after ↔
      ∃ reply ys, xs = ⟨q, reply⟩ :: ys ∧ (g reply).Transcript ctx ys s after :=
  Program.transcript_ask_iff

/-- A step that begins with a program ends with its failure, or goes on with its value. -/
theorem transcript_tryLift_bind_iff {p : Program I (Except Failure α)} :
    ((Step.tryLift p).bind f).Transcript ctx xs s after ↔
      (∃ e, p.Transcript xs (.error e) ∧ s = .error e ∧ after = ctx) ∨
        ∃ a ys zs, xs = ys ++ zs ∧ p.Transcript ys (.ok a) ∧
          (f a).Transcript ctx zs s after := by
  simp only [transcript_bind_iff, transcript_tryLift_iff]
  constructor
  · rintro (⟨e, ⟨hp, rfl⟩, rfl⟩ | ⟨a, _, ys, zs, rfl, ⟨hp, rfl⟩, hf⟩)
    · exact .inl ⟨e, hp, rfl, rfl⟩
    · exact .inr ⟨a, ys, zs, rfl, hp, hf⟩
  · rintro (⟨e, hp, rfl, rfl⟩ | ⟨a, ys, zs, rfl, hp, hf⟩)
    · exact .inl ⟨e, ⟨hp, rfl⟩, rfl⟩
    · exact .inr ⟨a, ctx, ys, zs, rfl, ⟨hp, rfl⟩, hf⟩

/-- A step that begins with a program of one request goes on with the value that the reply
makes. -/
theorem transcript_tryLift_cons_iff {p : Program I (Except Failure α)} {q : I.Request}
    {value : I.Reply q → Except Failure α} {reply : I.Reply q}
    (hp : ∀ {xs r}, p.Transcript xs r ↔ ∃ reply, xs = [⟨q, reply⟩] ∧ r = value reply)
    (hvalue : value reply = .ok a) :
    ((Step.tryLift p).bind f).Transcript ctx (⟨q, reply⟩ :: xs) s after ↔
      (f a).Transcript ctx xs s after := by
  rw [transcript_tryLift_bind_iff]
  constructor
  · rintro (⟨e, hfails, -⟩ | ⟨b, ys, zs, heq, hb, hf⟩)
    · obtain ⟨_, heq, he⟩ := hp.mp hfails
      cases heq
      rw [hvalue] at he
      cases he
    · obtain ⟨_, rfl, hvalue'⟩ := hp.mp hb
      cases heq
      rw [hvalue] at hvalue'
      cases hvalue'
      exact hf
  · intro hf
    exact .inr ⟨a, [_], xs, rfl, hp.mpr ⟨reply, rfl, hvalue.symm⟩, hf⟩

/-- A step that goes on succeeds if both parts do. -/
theorem transcript_bind_ok_iff {b : β} :
    (m.bind f).Transcript ctx xs (.ok b) after ↔
      ∃ a between ys zs, xs = ys ++ zs ∧ m.Transcript ctx ys (.ok a) between ∧
        (f a).Transcript between zs (.ok b) after := by
  simp [transcript_bind_iff]

/-- A step that begins with a requirement that is met goes on. -/
theorem transcript_require_bind_of_ok {name : String} {fields : List ContextField}
    {f : Unit → Step I β} (valid : ctx.validate name fields = .ok ()) :
    ((Step.require name fields : Step I Unit).bind f).Transcript ctx xs s after ↔
      (f ()).Transcript ctx xs s after := by
  have hstep : ((Step.require name fields : Step I Unit).bind f) ctx = f () ctx := by
    simp only [Step.bind, Step.require, Program.bind, valid]
  rw [Transcript, hstep, Transcript]

/-- A step that begins with a requirement that is not met fails. -/
theorem transcript_require_bind_of_error {name : String} {fields : List ContextField}
    {f : Unit → Step I β} {e : Failure} (invalid : ctx.validate name fields = .error e) :
    ((Step.require name fields : Step I Unit).bind f).Transcript ctx xs s after ↔
      xs = [] ∧ s = .error e ∧ after = ctx := by
  have hstep : ((Step.require name fields : Step I Unit).bind f) ctx =
      (Step.fail e : Step I β) ctx := by
    simp only [Step.bind, Step.require, Program.bind, invalid, Step.fail]
  rw [Transcript, hstep, ← Transcript, transcript_fail_iff]

/-- A step that begins with a requirement succeeds if the requirement is met and the rest
does. -/
theorem transcript_require_bind_ok_iff {name : String} {fields : List ContextField}
    {f : Unit → Step I β} {b : β} :
    ((Step.require name fields : Step I Unit).bind f).Transcript ctx xs (.ok b) after ↔
      ctx.validate name fields = .ok () ∧ (f ()).Transcript ctx xs (.ok b) after := by
  rw [transcript_bind_ok_iff]
  constructor
  · rintro ⟨⟨⟩, between, ys, zs, rfl, hrequire, hf⟩
    obtain ⟨rfl, hvalid, rfl⟩ := transcript_require_iff.mp hrequire
    exact ⟨hvalid.symm, hf⟩
  · rintro ⟨hvalid, hf⟩
    exact ⟨(), ctx, [], xs, rfl, transcript_require_iff.mpr ⟨rfl, hvalid.symm, rfl⟩, hf⟩

/-! ### What a step asks -/

/-- Whatever is replied, the step makes requests of one sort only. -/
def Asks (sort : I.Request → Prop) (m : Step I α) : Prop := ∀ ctx, (m ctx).Asks sort

section

variable {sort : I.Request → Prop}

theorem Asks.pure (a : α) : (Pure.pure a : Step I α).Asks sort := fun _ => .done _

theorem Asks.fail (e : Failure) : (Step.fail e : Step I α).Asks sort := fun _ => .done _

theorem Asks.context : (Step.context : Step I PassContext).Asks sort := fun _ => .done _

theorem Asks.isCanceled : (Step.isCanceled : Step I Bool).Asks sort := fun _ => .done _

theorem Asks.cancel (reason : String) : (Step.cancel reason : Step I Unit).Asks sort :=
  fun _ => .done _

theorem Asks.require (name : String) (fields : List ContextField) :
    (Step.require name fields : Step I Unit).Asks sort :=
  fun _ => .done _

theorem Asks.lift {p : Program I α} (hp : p.Asks sort) : (Step.lift p).Asks sort :=
  fun _ => hp.bind fun _ => .done _

theorem Asks.tryLift {p : Program I (Except Failure α)} (hp : p.Asks sort) :
    (Step.tryLift p).Asks sort :=
  fun _ => hp.bind fun _ => .done _

theorem Asks.bind (hm : m.Asks sort) (hf : ∀ a, (f a).Asks sort) : (m.bind f).Asks sort := by
  refine fun ctx => (hm ctx).bind fun r => ?_
  obtain ⟨r, between⟩ := r
  cases r with
  | error e => exact .done _
  | ok a => exact hf a between

end

end Step

end ClusterOperator
