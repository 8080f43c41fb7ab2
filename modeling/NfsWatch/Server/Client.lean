import NfsWatch.Decode

/-!
# Client — what the server tells about one client

A client has sessions and three kinds of states: opens, delegations and layouts. All fields have
defaults; a client that does not say so is unconfirmed.
-/

namespace NfsWatch

inductive StateKind
  | opens
  | delegations
  | layouts
deriving DecidableEq, Repr, Inhabited

namespace StateKind

/-- All kinds, in the order in which they are shown. -/
def all : List StateKind := [.opens, .delegations, .layouts]

def name : StateKind → String
  | .opens => "opens"
  | .delegations => "delegations"
  | .layouts => "layouts"

end StateKind

structure ClientDetail where
  confirmed : Bool
  sessions : List String
  opens : List String
  delegations : List String
  layouts : List String
deriving DecidableEq, Inhabited

namespace ClientDetail

def states (client : ClientDetail) : StateKind → List String
  | .opens => client.opens
  | .delegations => client.delegations
  | .layouts => client.layouts

def ids : Option Json → Decoded (List String) := Decode.orDefault [] (Decode.list Decode.text)

/-- A client from an object or from the array of its fields. -/
def decode : Json → Decoded ClientDetail :=
  Decode.record "ClientDetail" 5
    (fun entries => do
      let confirmed ← Decode.orDefault false Decode.boolean (Entries.find? "confirmed" entries)
      let delegations ← ids (Entries.find? "delegations" entries)
      let layouts ← ids (Entries.find? "layouts" entries)
      let opens ← ids (Entries.find? "opens" entries)
      let sessions ← ids (Entries.find? "sessions" entries)
      return { confirmed, sessions, opens, delegations, layouts })
    (fun items => do
      let confirmed ← Decode.orDefault false Decode.boolean items[0]?
      let sessions ← ids items[1]?
      let opens ← ids items[2]?
      let delegations ← ids items[3]?
      let layouts ← ids items[4]?
      return { confirmed, sessions, opens, delegations, layouts })

def encode (client : ClientDetail) : Json :=
  .obj [("confirmed", .bool client.confirmed), ("delegations", .strings client.delegations),
    ("layouts", .strings client.layouts), ("opens", .strings client.opens),
    ("sessions", .strings client.sessions)]

end ClientDetail

end NfsWatch
