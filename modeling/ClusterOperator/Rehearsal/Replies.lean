import ClusterOperator.Cluster.Api
import ClusterOperator.Retry

/-!
# Scripted replies

Where the order of the requests is all that matters, a script of replies is enough:
the cluster API gives its replies one after another, and so does an operation that is
repeated.
-/

namespace ClusterOperator.Rehearsal

/-- The replies of the cluster API that are still to come, and the requests so far. -/
structure ApiScene where
  replies : List (Except String ApiReply) := []
  requests : List ApiRequest := []
  /-- The time that readings of the status are given. -/
  present : Instant

namespace ApiScene

/-- Answers a request. -/
def serve (q : ClusterApi.Request) (s : ApiScene) : ClusterApi.interface.Reply q × ApiScene :=
  match q with
  | .send request =>
    (s.replies.head?.getD (.error "no reply"),
      { s with replies := s.replies.drop 1, requests := s.requests ++ [request] })
  | .clock => (s.present, s)
  | .draw => (default, s)
  | .pause _ => ((), s)

/-- Runs a program that uses the cluster API. -/
def perform {α : Type} (s : ApiScene) (p : Program ClusterApi.interface α) : α × ApiScene :=
  p.run serve s

end ApiScene

/-- The results of an operation that are still to come, and how often it was
attempted. -/
structure AttemptScene (ε α : Type) where
  results : List (Except ε α)
  attempts : Nat := 0

namespace AttemptScene

variable {ε α : Type}

/-- Answers a request; after the last result the operation succeeds with `last`. -/
def serve (last : α) (q : (Retry.interface ε α).Request) (s : AttemptScene ε α) :
    (Retry.interface ε α).Reply q × AttemptScene ε α :=
  match q with
  | .attempt =>
    (s.results.head?.getD (.ok last), { results := s.results.drop 1, attempts := s.attempts + 1 })
  | .draw => (default, s)
  | .pause _ => ((), s)

end AttemptScene

end ClusterOperator.Rehearsal
