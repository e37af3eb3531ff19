/-!
# Programs that ask

What the operator does to the world is kept apart from what it decides.  An
interface names the requests that can be made and the type of the reply to each.  A
program over an interface either is done with a value, or makes one request and goes
on in a way that depends on the reply.  Nothing is assumed about the replies, so a
statement about a program holds of every world it may run in; a run needs someone
who serves the requests, with a state of its own.
-/

namespace ClusterOperator

/-- The requests that can be made, and the type of the reply to each. -/
structure Interface where
  Request : Type
  Reply : Request → Type

/-- A program that ends with a value after finitely many requests. -/
inductive Program (I : Interface) (α : Type) where
  | done (value : α)
  | ask (request : I.Request) (next : I.Reply request → Program I α)

namespace Program

variable {I : Interface} {α β γ σ : Type}

/-- Goes on with the value of a program. -/
def bind : Program I α → (α → Program I β) → Program I β
  | .done a, f => f a
  | .ask q next, f => .ask q fun r => (next r).bind f

instance : Monad (Program I) where
  pure := .done
  bind := Program.bind

/-- The program of a single request. -/
def call (q : I.Request) : Program I (I.Reply q) := .ask q .done

/-- The value of a program whose requests are served, and the state in which the
server is left. -/
def run (serve : (q : I.Request) → σ → I.Reply q × σ) : Program I α → σ → α × σ
  | .done a, s => (a, s)
  | .ask q next, s =>
    let (r, s) := serve q s
    (next r).run serve s

theorem bind_done (p : Program I α) : p.bind .done = p := by
  induction p with
  | done a => rfl
  | ask q next ih => exact congrArg (Program.ask q) (funext ih)

theorem bind_assoc (p : Program I α) (f : α → Program I β) (g : β → Program I γ) :
    (p.bind f).bind g = p.bind fun a => (f a).bind g := by
  induction p with
  | done a => rfl
  | ask q next ih => exact congrArg (Program.ask q) (funext ih)

/-- Running a program that goes on is running the first part and then the rest. -/
theorem run_bind (serve : (q : I.Request) → σ → I.Reply q × σ) (p : Program I α)
    (f : α → Program I β) (s : σ) :
    (p.bind f).run serve s = (f (p.run serve s).1).run serve (p.run serve s).2 := by
  induction p generalizing s with
  | done a => rfl
  | ask q next ih => exact ih _ _

end Program

end ClusterOperator
