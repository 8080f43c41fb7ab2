/-!
# Flags — what the operator may set for one run

Every setting but the choice of pages is optional here: what is left out comes from the
environment or has a default.
-/

namespace NfsWatch

inductive PageChoice
  | all
  | stats
  | clients
deriving DecidableEq, Repr, Inhabited

namespace PageChoice

def name : PageChoice → String
  | .all => "all"
  | .stats => "stats"
  | .clients => "clients"

def showsStats (choice : PageChoice) : Bool := choice != .clients

def showsClients (choice : PageChoice) : Bool := choice != .stats

/-- The choice of a name. The name is taken as it is, blanks included. -/
def ofName? (name : String) : Option PageChoice :=
  [all, stats, clients].find? (·.name == name)

/-- The choice of a name in which the case of ASCII letters does not count. -/
def ofAnyCase? (name : String) : Option PageChoice :=
  ofName? (String.ofList (name.toList.map Char.toLower))

end PageChoice

structure Flags where
  url : Option String
  pollMs : Option UInt64
  /-- Failures in a row after which a feed is stale; zero turns that off. -/
  staleAfter : Option UInt32
  sequencing : Option String
  hiddenSections : Option String
  page : PageChoice
deriving DecidableEq, Inhabited

def Flags.none : Flags := ⟨.none, .none, .none, .none, .none, .all⟩

end NfsWatch
