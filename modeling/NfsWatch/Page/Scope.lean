import NfsWatch.Poll.Live

/-!
# Scope — a poll loop that follows a changing target

A scope holds a loop exactly while it has a target. Moving it to another target discards the
running loop with all that was on its way and starts a new one from a fresh view; moving it to
the target it has does nothing.
-/

namespace NfsWatch

/-- A target and the loop that follows it, or neither. -/
structure Scope (K P V C : Type) where
  current : Option (K × LiveLoop P V C)

namespace Scope

variable {K P V C : Type}

def empty : Scope K P V C := ⟨none⟩

def target (scope : Scope K P V C) : Option K := scope.current.map Prod.fst

def live (scope : Scope K P V C) : Option (LiveLoop P V C) := scope.current.map Prod.snd

def update (scope : Scope K P V C) (change : LiveLoop P V C → LiveLoop P V C) : Scope K P V C :=
  ⟨scope.current.map (fun entry => (entry.1, change entry.2))⟩

/-- Moves the scope, and tells whether it moved. -/
def retarget [DecidableEq K] (scope : Scope K P V C) (target : Option K)
    (spawn : K → LiveLoop P V C) : Scope K P V C × Bool :=
  if scope.target = target then (scope, false)
  else (⟨target.map (fun key => (key, spawn key))⟩, true)

def hasUnseen (scope : Scope K P V C) : Bool := scope.live.any LiveLoop.hasUnseen

def acknowledge (scope : Scope K P V C) : Scope K P V C := scope.update LiveLoop.acknowledge

/-- Sends operator input to the loop; refused without one. -/
def send (scope : Scope K P V C) (command : C) : Scope K P V C × Bool :=
  match scope.current with
  | none => (scope, false)
  | some (key, live) =>
      let (live, queued) := live.send command
      (⟨some (key, live)⟩, queued)

end Scope

end NfsWatch
