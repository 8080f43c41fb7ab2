import NfsWatch.Decode

/-!
# Channel — one transport connection of a session

A channel is written as an object with a host and a port, and may also be read from the joined
text `host:port`, which is split at its last colon so that hosts may hold colons themselves.
`Channel.addresses` lists the joined texts of channels, each once, in order of first occurrence.
-/

namespace NfsWatch

structure Channel where
  host : String
  port : UInt16
deriving DecidableEq, Inhabited

namespace Channel

def address (channel : Channel) : String :=
  channel.host ++ ":" ++ IntegerText.write channel.port.toNat

/-- The characters before and after the last colon. -/
def splitAtLastColon (cs : List Char) : Option (List Char × List Char) :=
  match cs.reverse.dropWhile (· != ':') with
  | [] => none
  | _ :: host => some (host.reverse, (cs.reverse.takeWhile (· != ':')).reverse)

def ofText (text : String) : Decoded Channel :=
  match splitAtLastColon text.toList with
  | none => .error (.channelWithoutPort text)
  | some (host, port) =>
      match IntegerText.readChars 65535 port with
      | .error fault => .error (.channelPort text fault)
      | .ok n => .ok ⟨String.ofList host, UInt16.ofNat n⟩

/-- A channel from either of its two forms. -/
def decode : Json → Decoded Channel
  | .str text => ofText text
  | .obj entries =>
      match Entries.find? "host" entries, Entries.find? "port" entries with
      | some (.str host), some (.int port) =>
          if 0 ≤ port ∧ port < 65536 then .ok ⟨host, UInt16.ofNat port.toNat⟩
          else .error .noChannelForm
      | _, _ => .error .noChannelForm
  | _ => .error .noChannelForm

def encode (channel : Channel) : Json :=
  .obj [("host", .str channel.host), ("port", .nat channel.port.toNat)]

/-- The addresses of channels, each once, in order of first occurrence. -/
def addresses (channels : List Channel) : List String := (channels.map address).eraseDups

end Channel

structure SessionDetail where
  channels : List Channel
deriving DecidableEq, Inhabited

namespace SessionDetail

/-- A session; without channels when none are given. -/
def decode : Json → Decoded SessionDetail :=
  Decode.record "SessionDetail" 1
    (fun entries => do
      return ⟨← Decode.orDefault [] (Decode.list Channel.decode)
        (Entries.find? "channels" entries)⟩)
    (fun items => do
      return ⟨← Decode.orDefault [] (Decode.list Channel.decode) items[0]?⟩)

def encode (session : SessionDetail) : Json :=
  .obj [("channels", .arr (session.channels.map Channel.encode))]

def addresses (sessions : List SessionDetail) : List String :=
  Channel.addresses (sessions.flatMap SessionDetail.channels)

end SessionDetail

end NfsWatch
