import ClusterOperator.Proofs.Transcript

/-!
# What a program ensures in a world

A program **ensures** something in a world, from a state of it, if it holds of every way in
which the program can go there: of the exchanges, of the value it ends with, and of the state
it leaves.  Since programs always end, this is what a program does and not only what it does
if it ends.

There is one rule for each way of making programs and steps, so a program is gone through from
its beginning to its end, with the state of the world at hand.
-/

namespace ClusterOperator

variable {I : Interface} {α β σ : Type} {answers : σ → Exchange I → σ → Prop} {s : σ}

namespace Program

/-- **What the program ensures** in the world, from the state `s`. -/
def Ensures (answers : σ → Exchange I → σ → Prop) (p : Program I α) (s : σ)
    (post : List (Exchange I) → α → σ → Prop) : Prop :=
  ∀ xs a t, p.Transcript xs a → Served answers s xs t → post xs a t

variable {p : Program I α} {f : α → Program I β} {a : α}
  {post post' : List (Exchange I) → α → σ → Prop}

theorem Ensures.mono (h : p.Ensures answers s post)
    (weaker : ∀ xs a t, post xs a t → post' xs a t) : p.Ensures answers s post' :=
  fun xs a t hp hs => weaker xs a t (h xs a t hp hs)

theorem ensures_done_iff : (Program.done a).Ensures answers s post ↔ post [] a s := by
  constructor
  · intro h
    exact h [] a s (.done a) (.nil s)
  · intro h xs b t hdone hserved
    obtain ⟨rfl, rfl⟩ := transcript_done_iff.mp hdone
    obtain rfl := Served.nil_iff.mp hserved
    exact h

theorem ensures_call_iff {q : I.Request} {post : List (Exchange I) → I.Reply q → σ → Prop} :
    (Program.call q).Ensures answers s post ↔ ∀ r t, answers s ⟨q, r⟩ t → post [⟨q, r⟩] r t := by
  constructor
  · intro h r t hr
    exact h _ r t (transcript_call_iff.mpr rfl) (.cons hr (.nil t))
  · intro h xs r t hq hs
    obtain rfl := transcript_call_iff.mp hq
    obtain ⟨u, hr, hend⟩ := Served.cons_iff.mp hs
    obtain rfl := Served.nil_iff.mp hend
    exact h r t hr

theorem ensures_call_bind_iff {q : I.Request} {g : I.Reply q → Program I α} :
    ((Program.call q).bind g).Ensures answers s post ↔
      ∀ r t, answers s ⟨q, r⟩ t →
        (g r).Ensures answers t fun xs a u => post (⟨q, r⟩ :: xs) a u := by
  constructor
  · intro h r t hr xs a u hg hxs
    exact h _ a u (transcript_call_bind_iff.mpr ⟨r, xs, rfl, hg⟩) (.cons hr hxs)
  · intro h xs a u hp hs
    obtain ⟨r, ys, rfl, hg⟩ := transcript_call_bind_iff.mp hp
    obtain ⟨t, hr, hys⟩ := Served.cons_iff.mp hs
    exact h r t hr ys a u hg hys

theorem ensures_bind_iff {post : List (Exchange I) → β → σ → Prop} :
    (p.bind f).Ensures answers s post ↔
      p.Ensures answers s fun xs a t =>
        (f a).Ensures answers t fun ys b u => post (xs ++ ys) b u := by
  constructor
  · intro h xs a t hp hxs ys b u hf hys
    exact h (xs ++ ys) b u (transcript_bind_iff.mpr ⟨a, xs, ys, rfl, hp, hf⟩)
      (Served.append_iff.mpr ⟨t, hxs, hys⟩)
  · intro h xs b u hp hs
    obtain ⟨a, ys, zs, rfl, hpa, hf⟩ := transcript_bind_iff.mp hp
    obtain ⟨t, hys, hzs⟩ := Served.append_iff.mp hs
    exact h ys a t hpa hys zs b u hf hzs

/-- A program that only changes the value of another one. -/
theorem ensures_map_iff {g : α → β} {post : List (Exchange I) → β → σ → Prop} :
    (p.bind fun a => .done (g a)).Ensures answers s post ↔
      p.Ensures answers s fun xs a t => post xs (g a) t := by
  simp only [ensures_bind_iff, ensures_done_iff, List.append_nil]

/-- A program can always go in some way, in a world that answers whatever it is asked. -/
theorem exists_served (total : ∀ s q, ∃ r t, answers s ⟨q, r⟩ t) (p : Program I α) (s : σ) :
    ∃ xs a t, p.Transcript xs a ∧ Served answers s xs t := by
  induction p generalizing s with
  | done a => exact ⟨[], a, s, .done a, .nil s⟩
  | ask q next ih =>
    obtain ⟨r, t, hr⟩ := total s q
    obtain ⟨xs, a, u, hp, hs⟩ := ih r t
    exact ⟨_, a, u, .ask r hp, .cons hr hs⟩

end Program

namespace Step

/-- **What the step ensures** in the world, from a context and the state `s`. -/
def Ensures (answers : σ → Exchange I → σ → Prop) (m : Step I α) (ctx : PassContext) (s : σ)
    (post : List (Exchange I) → Except Failure α → PassContext → σ → Prop) : Prop :=
  ∀ xs r after t, m.Transcript ctx xs r after → Served answers s xs t → post xs r after t

variable {m : Step I α} {f : α → Step I β} {ctx : PassContext} {a : α}
  {post post' : List (Exchange I) → Except Failure α → PassContext → σ → Prop}

theorem Ensures.mono (h : m.Ensures answers ctx s post)
    (weaker : ∀ xs r after t, post xs r after t → post' xs r after t) :
    m.Ensures answers ctx s post' :=
  fun xs r after t hm hs => weaker xs r after t (h xs r after t hm hs)

/-- What a step ensures is ensured by its program. -/
theorem ensures_iff :
    m.Ensures answers ctx s post ↔
      (m ctx).Ensures answers s fun xs r t => post xs r.1 r.2 t := by
  constructor
  · rintro h xs ⟨r, after⟩ t hm hs
    exact h xs r after t hm hs
  · intro h xs r after t hm hs
    exact h xs (r, after) t hm hs

theorem ensures_pure_iff :
    (pure a : Step I α).Ensures answers ctx s post ↔ post [] (.ok a) ctx s :=
  ensures_iff.trans Program.ensures_done_iff

theorem ensures_tryLift_iff {p : Program I (Except Failure α)} :
    (Step.tryLift p).Ensures answers ctx s post ↔
      p.Ensures answers s fun xs r t => post xs r ctx t :=
  ensures_iff.trans Program.ensures_map_iff

theorem ensures_lift_iff {p : Program I α} :
    (Step.lift p).Ensures answers ctx s post ↔
      p.Ensures answers s fun xs a t => post xs (.ok a) ctx t :=
  ensures_iff.trans Program.ensures_map_iff

variable {next : List (Exchange I) → Except Failure β → PassContext → σ → Prop}

/-- A step that goes on ends with the failure of its first part, or goes on from where that
left the pass and the world. -/
theorem Ensures.bind (first : m.Ensures answers ctx s post)
    (fails : ∀ xs e after t, post xs (.error e) after t → next xs (.error e) after t)
    (goes : ∀ xs a between t, post xs (.ok a) between t →
      (f a).Ensures answers between t fun ys r after u => next (xs ++ ys) r after u) :
    (m.bind f).Ensures answers ctx s next := by
  intro xs r after u h hs
  rcases transcript_bind_iff.mp h with ⟨e, hm, rfl⟩ | ⟨a, between, ys, zs, rfl, hm, hf⟩
  · exact fails xs e after u (first xs _ after u hm hs)
  · obtain ⟨t, hys, hzs⟩ := Served.append_iff.mp hs
    exact goes ys a between t (first ys _ between t hm hys) zs r after u hf hzs

/-- A step whose first part ends with a value that is known goes on from there. -/
theorem Ensures.bind_ok {a : α} {rest : List (Exchange I) → PassContext → σ → Prop}
    (first : m.Ensures answers ctx s fun xs r after t => r = .ok a ∧ rest xs after t)
    (goes : ∀ xs between t, rest xs between t →
      (f a).Ensures answers between t fun ys r after u => next (xs ++ ys) r after u) :
    (m.bind f).Ensures answers ctx s next := by
  refine first.bind ?_ ?_
  · rintro xs e after t ⟨he, -⟩
    cases he
  · rintro xs b between t ⟨hb, h⟩
    obtain rfl := Except.ok.inj hb
    exact goes xs between t h

/-- A run of a step that goes on is one of a step that goes on in the same way from where its
first part can lead. -/
theorem Transcript.bind_congr {g : α → Step I β} {r : Except Failure β} {after : PassContext}
    {xs : List (Exchange I)} {u : σ} (h : (m.bind f).Transcript ctx xs r after)
    (hs : Served answers s xs u)
    (same : ∀ ys a between t, m.Transcript ctx ys (.ok a) between → Served answers s ys t →
      ∀ zs, (f a).Transcript between zs r after → Served answers t zs u →
        (g a).Transcript between zs r after) :
    (m.bind g).Transcript ctx xs r after := by
  rcases transcript_bind_iff.mp h with ⟨e, hm, rfl⟩ | ⟨a, between, ys, zs, rfl, hm, hf⟩
  · exact transcript_bind_iff.mpr (.inl ⟨e, hm, rfl⟩)
  · obtain ⟨t, hys, hzs⟩ := Served.append_iff.mp hs
    exact transcript_bind_iff.mpr
      (.inr ⟨a, between, ys, zs, rfl, hm, same ys a between t hm hys zs hf hzs⟩)

/-- A step that begins with a program whose value is known goes on from there. -/
theorem ensures_tryLift_bind_ok {p : Program I (Except Failure α)} {a : α}
    {rest : List (Exchange I) → σ → Prop}
    (first : p.Ensures answers s fun xs r t => r = .ok a ∧ rest xs t)
    (goes : ∀ xs t, rest xs t →
      (f a).Ensures answers ctx t fun ys r after u => next (xs ++ ys) r after u) :
    ((Step.tryLift p).bind f).Ensures answers ctx s next := by
  have hlift : (Step.tryLift p).Ensures answers ctx s
      fun xs r after t => r = .ok a ∧ after = ctx ∧ rest xs t :=
    ensures_tryLift_iff.mpr (first.mono fun _ _ _ h => ⟨h.1, rfl, h.2⟩)
  refine hlift.bind_ok ?_
  rintro xs between t ⟨rfl, h⟩
  exact goes xs t h

theorem ensures_context_bind_iff {f : PassContext → Step I β} :
    ((Step.context : Step I PassContext).bind f).Ensures answers ctx s next ↔
      (f ctx).Ensures answers ctx s next :=
  Iff.rfl

theorem ensures_modify_bind_iff {g : PassContext → PassContext} {f : Unit → Step I β} :
    ((Step.modify g : Step I Unit).bind f).Ensures answers ctx s next ↔
      (f ()).Ensures answers (g ctx) s next :=
  Iff.rfl

theorem ensures_cancel_bind_iff {reason : String} {f : Unit → Step I β} :
    ((Step.cancel reason : Step I Unit).bind f).Ensures answers ctx s next ↔
      (f ()).Ensures answers (ctx.cancel reason) s next :=
  Iff.rfl

/-- A step that begins with a request goes on with whatever is replied. -/
theorem ensures_ask_bind_iff {q : I.Request} {g : I.Reply q → Step I β} :
    ((Step.lift (Program.call q)).bind g).Ensures answers ctx s next ↔
      ∀ reply t, answers s ⟨q, reply⟩ t →
        (g reply).Ensures answers ctx t fun xs r after u => next (⟨q, reply⟩ :: xs) r after u := by
  constructor
  · intro h reply t hreply xs r after u hg hxs
    exact h _ r after u (transcript_ask_bind_iff.mpr ⟨reply, xs, rfl, hg⟩) (.cons hreply hxs)
  · intro h xs r after u hm hs
    obtain ⟨reply, ys, rfl, hg⟩ := transcript_ask_bind_iff.mp hm
    obtain ⟨t, hreply, hys⟩ := Served.cons_iff.mp hs
    exact h reply t hreply ys r after u hg hys

/-- A step that begins with a requirement that is met goes on. -/
theorem ensures_require_bind_iff {name : String} {fields : List ContextField}
    {f : Unit → Step I β} (valid : ctx.validate name fields = .ok ()) :
    ((Step.require name fields : Step I Unit).bind f).Ensures answers ctx s next ↔
      (f ()).Ensures answers ctx s next := by
  have hstep : ((Step.require name fields : Step I Unit).bind f) ctx = f () ctx := by
    simp only [Step.bind, Step.require, Program.bind, valid]
  rw [ensures_iff, ensures_iff, hstep]

end Step

end ClusterOperator
