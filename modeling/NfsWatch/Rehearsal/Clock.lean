/-!
# Clock — virtual time that jumps from one due instant to the next

Time stands still while anything is to be done and then moves to the next instant at which
something is due, so no instant is missed. `Clock.advance` runs a world in this way until it is
done or the time is up.
-/

namespace NfsWatch.Clock

/-- Moves from `now` to at most `stop`, running the world at each instant at which something is
due. `due` gives the next such instant; a world whose next instant is not in the future has
nothing more to do. Gives the time reached and the world then. -/
def advance {W : Type} (due : W → Option Nat) (run : Nat → W → W) (done : W → Bool)
    (stop now : Nat) (world : W) : Nat × W :=
  if done world then (now, world)
  else
    match due world with
    | none => (stop, world)
    | some next =>
        if now < next ∧ next ≤ stop then advance due run done stop next (run next world)
        else (stop, world)
termination_by stop - now

def earliest : Option Nat → Option Nat → Option Nat
  | none, b => b
  | a, none => a
  | some a, some b => some (min a b)

end NfsWatch.Clock
