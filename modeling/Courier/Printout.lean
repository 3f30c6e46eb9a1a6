import Courier.Event
/-!
Events printed as lines of text instead of being sent.
-/
namespace Courier

/-- Prints events and counts them.  It always succeeds. -/
structure Printout where
  /-- Each event takes several lines. -/
  pretty : Bool := false
  emitted : Nat := 0
  deriving DecidableEq, Repr, Inhabited

namespace Printout

def name : String := "stdout"

def text (p : Printout) (event : Event) : String :=
  if p.pretty then event.toJson.pretty else event.line

/-- What is printed for a batch, and the printout after it. -/
def send (p : Printout) (batch : List Event) : String × Printout :=
  (String.join (batch.map fun event => p.text event ++ "\n"),
    { p with emitted := p.emitted + batch.length })

end Printout

end Courier
