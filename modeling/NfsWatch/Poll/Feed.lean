import NfsWatch.Endpoint

/-!
# Feed — a displayed view and its freshness

A feed is stale once so many requests in a row have failed; a threshold of zero turns that off.
The count stops at the largest 32-bit word. A success clears the count, the last error and the
stale flag.
-/

namespace NfsWatch

structure FeedHealth where
  /-- Requests that failed since the last success. -/
  failures : Nat
  stale : Bool
  /-- The tick of the response applied last. -/
  acceptedTick : Option Nat
  succeeded : Bool
  /-- The text of the last failure since the last success. -/
  lastError : Option String
deriving DecidableEq, Inhabited

namespace FeedHealth

def start : FeedHealth := ⟨0, false, none, false, none⟩

def mostFailures : Nat := IntegerText.largest32

/-- After a response was applied; tells whether the stale flag flipped. -/
def recordSuccess (health : FeedHealth) (tick : Nat) : FeedHealth × Bool :=
  ({ failures := 0, stale := false, acceptedTick := some tick, succeeded := true,
     lastError := none }, health.stale)

/-- After a failure; tells whether the stale flag flipped. -/
def recordFailure (health : FeedHealth) (error : FetchError) (staleAfter : Nat) :
    FeedHealth × Bool :=
  let failures := min mostFailures (health.failures + 1)
  let stale := decide (0 < staleAfter ∧ staleAfter ≤ failures)
  ({ health with failures, stale, lastError := some error.message }, stale != health.stale)

end FeedHealth

structure Feed (V : Type) where
  view : V
  health : FeedHealth
deriving Inhabited

end NfsWatch
