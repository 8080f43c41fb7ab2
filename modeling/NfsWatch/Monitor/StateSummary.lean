import NfsWatch.Poll.Monitor
import NfsWatch.Server.State

/-!
# State summary — the detail of one state

Nothing is shown until the first response.
-/

namespace NfsWatch.StateSummary

structure View where
  clientId : String
  stateId : String
  detail : Option StateDetail
deriving DecidableEq, Inhabited

def apply (view : View) (detail : StateDetail) : Applied View :=
  { view := { view with detail := some detail }
    changed := view.detail != some detail
    followUps := none }

def monitor (clientId stateId : String) : Monitor StateDetail View Empty where
  name := "state_summary"
  endpoint := .state clientId stateId
  initial := ⟨clientId, stateId, none⟩
  decode := StateDetail.decode
  apply := apply
  command := noCommand
  applyFollowUp := noFollowUp

end NfsWatch.StateSummary
