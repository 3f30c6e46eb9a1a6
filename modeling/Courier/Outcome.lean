import Courier.Failure
/-!
What became of a batch after one attempt to send it.
-/
namespace Courier

/-- An event of a batch that the collector refused. -/
structure EventFailure where
  /-- Its position in the batch. -/
  index : Nat
  errors : List String
  deriving DecidableEq, Repr, Inhabited

/-- What one attempt came to. -/
inductive Outcome where
  /-- Every event was accepted. -/
  | success
  /-- Some events were refused; every event has its final verdict. -/
  | partialFailure (failed : List EventFailure) (total : Nat)
  /-- The whole batch was refused; `retryable` when no event got a verdict. -/
  | totalFailure (status : Nat) (message : String) (retryable : Bool)
  /-- The exchange itself failed. -/
  | transportFailure (cause : TransportFailure)
  deriving DecidableEq, Repr, Inhabited

namespace Outcome

/-- The same batch may be sent again. -/
def retryable : Outcome → Bool
  | .success | .partialFailure _ _ => false
  | .totalFailure _ _ retryable => retryable
  | .transportFailure _ => true

def isSuccess : Outcome → Bool
  | .success => true
  | _ => false

/-- The word for the outcome in logs and metrics. -/
def label : Outcome → String
  | .success => "success"
  | .partialFailure _ _ => "partial_failure"
  | .totalFailure _ _ _ => "total_failure"
  | .transportFailure _ => "transport_error"

end Outcome

end Courier
