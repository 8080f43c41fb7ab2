import NfsWatch.Endpoint
import NfsWatch.Poll.Sequencer
import NfsWatch.Reconcile.Section

/-!
# Monitor — the rules of one feed

A monitor says what one feed requests and how responses and operator input change its view. It is
pure: the poll loop that runs it decides which response reaches it and when.
-/

namespace NfsWatch

/-- The result of folding one response into a view. -/
structure Applied (V : Type) where
  view : V
  changed : Bool
  /-- A new batch of requests, which supersedes every batch before it even when it is empty. -/
  followUps : Option (List Endpoint)
deriving Inhabited

/-- The rules of one feed: `P` is what a response decodes to, `V` the view and `C` what the
operator may send. -/
structure Monitor (P V C : Type) where
  name : String
  endpoint : Endpoint
  initial : V
  decode : Json → Decoded P
  apply : V → P → Applied V
  /-- Folds operator input into the view, and tells whether it changed. -/
  command : V → C → V × Bool
  /-- Folds a response of the current batch into the view, and tells whether to announce it. -/
  applyFollowUp : V → Endpoint → Json → Fetched (V × Bool)

def noFollowUp {V : Type} (view : V) (_endpoint : Endpoint) (_response : Json) :
    Fetched (V × Bool) :=
  .ok (view, false)

def noCommand {V : Type} (_view : V) (command : Empty) : V × Bool := nomatch command

structure PollSettings where
  intervalMs : Nat
  sequencing : Sequencing
  /-- Failures in a row after which a feed is stale; zero turns that off. -/
  staleAfter : Nat
  /-- What becomes of a hidden panel when entries return. -/
  hiddenSections : HiddenPolicy
deriving DecidableEq

/-- One tick a second, in order, stale after three failures, hidden panels shown again. -/
def PollSettings.standard : PollSettings := ⟨1000, .ordered, 3, .reshow⟩

instance : Inhabited PollSettings := ⟨.standard⟩

end NfsWatch
