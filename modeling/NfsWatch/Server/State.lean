import NfsWatch.Decode

/-!
# State — what the server tells about one state of a client

Share access and share deny are masks of which two bits count: the lowest grants reading, the
next one writing. Expiry is kept as the text that is shown.
-/

namespace NfsWatch

structure AccessMask where
  bits : UInt32
deriving DecidableEq, Inhabited

structure AccessBits where
  read : Bool
  write : Bool
deriving DecidableEq, Inhabited

/-- The rights as a short label, `-` for none. -/
def AccessBits.label : AccessBits → String
  | ⟨true, true⟩ => "rw"
  | ⟨true, false⟩ => "r"
  | ⟨false, true⟩ => "w"
  | ⟨false, false⟩ => "-"

namespace AccessMask

/-- The rights that the two lowest bits grant. -/
def rights (mask : AccessMask) : AccessBits :=
  ⟨mask.bits &&& 1 != 0, mask.bits &&& 2 != 0⟩

def none : AccessMask := ⟨0⟩

def decode (v : Json) : Decoded AccessMask := (Decode.word32 v).map AccessMask.mk

def encode (mask : AccessMask) : Json := .nat mask.bits.toNat

end AccessMask

structure StateDetail where
  expiry : String
  fh : String
  revoked : Bool
  /-- The access that the state grants to its holder. -/
  access : AccessMask
  /-- The access that the state denies to others. -/
  deny : AccessMask
deriving DecidableEq, Inhabited

namespace StateDetail

/-- The expiry: a text, a number as text, or nothing. -/
def expiryText : Json → Decoded String
  | .null => .ok ""
  | v => Decode.textual .notTextual v

def decode : Json → Decoded StateDetail :=
  Decode.record "StateDetail" 5
    (fun entries => do
      let access ← Decode.orDefault .none AccessMask.decode (Entries.find? "access" entries)
      let deny ← Decode.orDefault .none AccessMask.decode (Entries.find? "deny" entries)
      let expiry ← Decode.orDefault "" expiryText (Entries.find? "expiry" entries)
      let fh ← Decode.orDefault "" Decode.text (Entries.find? "fh" entries)
      let revoked ← Decode.orDefault false Decode.boolean (Entries.find? "revoked" entries)
      return { expiry, fh, revoked, access, deny })
    (fun items => do
      let expiry ← Decode.orDefault "" expiryText items[0]?
      let fh ← Decode.orDefault "" Decode.text items[1]?
      let revoked ← Decode.orDefault false Decode.boolean items[2]?
      let access ← Decode.orDefault .none AccessMask.decode items[3]?
      let deny ← Decode.orDefault .none AccessMask.decode items[4]?
      return { expiry, fh, revoked, access, deny })

def encode (state : StateDetail) : Json :=
  .obj [("access", state.access.encode), ("deny", state.deny.encode),
    ("expiry", .str state.expiry), ("fh", .str state.fh), ("revoked", .bool state.revoked)]

end StateDetail

end NfsWatch
