import ClusterOperator.Pass.Context
import ClusterOperator.Program

/-!
# Steps of a pass

A step takes the context, asks what it needs to ask, and leaves a context together
with a value or a failure.  What a failing step did to the context stays done.
-/

namespace ClusterOperator

/-- A step of a pass over an interface. -/
def Step (I : Interface) (α : Type) : Type :=
  PassContext → Program I (Except Failure α × PassContext)

namespace Step

variable {I : Interface} {α β : Type}

/-- Goes on with the value of a step, unless it failed. -/
def bind (m : Step I α) (f : α → Step I β) : Step I β := fun ctx =>
  (m ctx).bind fun r =>
    match r.1 with
    | .ok a => f a r.2
    | .error e => .done (.error e, r.2)

instance : Monad (Step I) where
  pure a := fun ctx => .done (.ok a, ctx)
  bind := Step.bind

/-- Fails. -/
def fail (e : Failure) : Step I α := fun ctx => .done (.error e, ctx)

/-- A value or a failure that is known already. -/
def ofExcept (r : Except Failure α) : Step I α := fun ctx => .done (r, ctx)

/-- A program that has nothing to do with the context. -/
def lift (p : Program I α) : Step I α := fun ctx => p.bind fun a => .done (.ok a, ctx)

/-- A program that may fail and has nothing to do with the context. -/
def tryLift (p : Program I (Except Failure α)) : Step I α := fun ctx =>
  p.bind fun r => .done (r, ctx)

/-- The context as it is. -/
def context : Step I PassContext := fun ctx => .done (.ok ctx, ctx)

/-- Changes the context. -/
def modify (f : PassContext → PassContext) : Step I Unit := fun ctx => .done (.ok (), f ctx)

/-- Cancels the rest of the pass. -/
def cancel (reason : String) : Step I Unit := modify fun ctx => ctx.cancel reason

/-- Whether the pass is canceled by now. -/
def isCanceled : Step I Bool := fun ctx => .done (.ok ctx.isCanceled, ctx)

/-- Fails unless the required fields of the context are set. -/
def require (resource : String) (fields : List ContextField) : Step I Unit := fun ctx =>
  .done (ctx.validate resource fields, ctx)

end Step

end ClusterOperator
