import NfsWatch.Number.IntegerText
import NfsWatch.Url.Domain
import NfsWatch.Url.Percent

/-!
# Host — the machine that a URL names

A host in brackets is an IPv6 address, a host whose last label is a number is an IPv4 address, and
any other host of a special URL is a domain, by its name in ASCII. A URL that is not special keeps
its host as it is.
-/

namespace NfsWatch.Url

inductive Fault
  /-- The text has no scheme. -/
  | relative
  | emptyHost
  | invalidPort
  /-- The host ends in a number and is no IPv4 address. -/
  | invalidIpv4
  | invalidIpv6
  | invalidDomain
  | invalidHost
deriving DecidableEq, Repr, Inhabited

def Fault.message : Fault → String
  | .relative => "relative URL without a base"
  | .emptyHost => "empty host"
  | .invalidPort => "invalid port number"
  | .invalidIpv4 => "invalid IPv4 address"
  | .invalidIpv6 => "invalid IPv6 address"
  | .invalidDomain => "invalid international domain name"
  | .invalidHost => "invalid domain character"

inductive Host
  /-- A name, also the empty one. -/
  | name (text : String)
  | ipv4 (address : Nat)
  | ipv6 (groups : List Nat)
deriving DecidableEq, Repr, Inhabited

def valueInBase? (base : Nat) (cs : List Char) : Option Nat :=
  cs.foldl
    (fun value c =>
      match value, hexValue? c with
      | some n, some d => if d < base then some (base * n + d) else none
      | _, _ => none)
    (some 0)

/-! ## IPv4 -/

/-- A part of an IPv4 address: hexadecimal after `0x`, octal after `0`, otherwise decimal. -/
def ipv4Number? : List Char → Option Nat
  | [] => none
  | '0' :: 'x' :: digits => valueInBase? 16 digits
  | '0' :: 'X' :: digits => valueInBase? 16 digits
  | '0' :: c :: digits => valueInBase? 8 (c :: digits)
  | digits => valueInBase? 10 digits

/-- The parts of a host, without an empty one at its end. -/
def labels (host : List Char) : List (List Char) :=
  let all := parts (· == '.') host
  if 1 < all.length ∧ all.getLast? = some [] then all.dropLast else all

def endsInNumber (host : List Char) : Bool :=
  match (labels host).getLast? with
  | none => false
  | some last => (!last.isEmpty && last.all Char.isDigit) || (ipv4Number? last).isSome

/-- An IPv4 address of up to four parts, of which the last fills the bytes that the others
leave. -/
def ipv4? (host : List Char) : Option Nat := do
  let numbers ← (labels host).mapM ipv4Number?
  let last ← numbers.getLast?
  let others := numbers.dropLast
  let room := Nat.pow 256 (4 - others.length)
  if 3 < others.length ∨ room ≤ last ∨ others.any (255 < ·) then none
  else
    return (others.foldl (fun n part => 256 * n + part) 0) * room + last

def ipv4Text (address : Nat) : String :=
  ".".intercalate ([16777216, 65536, 256, 1].map
    (fun unit => IntegerText.write (address / unit % 256)))

/-! ## IPv6 -/

def ipv6Group? (cs : List Char) : Option Nat :=
  if cs.isEmpty || 4 < cs.length then none else valueInBase? 16 cs

/-- A byte of an IPv4 address inside an IPv6 address: decimal, without needless zeros. -/
def decimalByte? (cs : List Char) : Option Nat :=
  match cs with
  | [] => none
  | '0' :: _ :: _ => none
  | _ => (valueInBase? 10 cs).bind (fun n => if n < 256 then some n else none)

/-- The groups of one side of an IPv6 address; the last two may be written as an IPv4 address. -/
def ipv6Groups? (cs : List Char) : Option (List Nat) :=
  if cs.isEmpty then some []
  else
    let groups := parts (· == ':') cs
    match groups.getLast? with
    | none => none
    | some last =>
        if '.' ∈ last then do
          let bytes ← (parts (· == '.') last).mapM decimalByte?
          let others ← groups.dropLast.mapM ipv6Group?
          match bytes with
          | [a, b, c, d] => return others ++ [256 * a + b, 256 * c + d]
          | _ => none
        else groups.mapM ipv6Group?

def splitAtDoubleColon : List Char → Option (List Char × List Char)
  | [] => none
  | ':' :: ':' :: rest => some ([], rest)
  | c :: rest => (splitAtDoubleColon rest).map (fun (before, after) => (c :: before, after))

/-- An IPv6 address: eight groups, of which a double colon may stand for one or more zeros. -/
def ipv6? (cs : List Char) : Option (List Nat) :=
  match splitAtDoubleColon cs with
  | none => (ipv6Groups? cs).bind (fun groups => if groups.length = 8 then some groups else none)
  | some (before, after) => do
      if '.' ∈ before then none
      let left ← ipv6Groups? before
      let right ← ipv6Groups? after
      if left.length + right.length < 8 then
        return left ++ List.replicate (8 - left.length - right.length) 0 ++ right
      else none

def zeroRun (groups : List Nat) : Nat := (groups.takeWhile (· == 0)).length

/-- The start and the length of the longest run of two or more zeros, the first of equals. -/
def longestZeroRun (groups : List Nat) : Option (Nat × Nat) :=
  (List.range groups.length).foldl
    (fun best start =>
      let length := zeroRun (groups.drop start)
      if length < 2 then best
      else
        match best with
        | some (_, longest) => if longest < length then some (start, length) else best
        | none => some (start, length))
    none

def groupsText (groups : List Nat) : String :=
  ":".intercalate (groups.map (fun group => String.ofList (Nat.toDigits 16 group)))

def ipv6Text (groups : List Nat) : String :=
  match longestZeroRun groups with
  | none => groupsText groups
  | some (start, length) =>
      groupsText (groups.take start) ++ "::" ++ groupsText (groups.drop (start + length))

/-! ## Hosts -/

def forbiddenInHost (c : Char) : Bool :=
  c ∈ ['\x00', '\t', '\n', '\r', ' ', '#', '/', ':', '<', '>', '?', '@', '[', '\\', ']', '^', '|']

def decodeText? (cs : List Char) : Option String :=
  String.fromUTF8? (ByteArray.mk (decode cs).toArray)

def specialHost (cs : List Char) : Except Fault Host :=
  match (decodeText? cs).bind (fun text => Domain.ascii? text.toList) with
  | none => .error .invalidDomain
  | some [] => .error .emptyHost
  | some domain =>
      if endsInNumber domain then
        match ipv4? domain with
        | none => .error .invalidIpv4
        | some address => .ok (.ipv4 address)
      else .ok (.name (String.ofList domain))

def plainHost (cs : List Char) : Except Fault Host :=
  if cs.any forbiddenInHost then .error .invalidHost
  else .ok (.name (String.ofList (encode isControl cs)))

def parseHost (special : Bool) (cs : List Char) : Except Fault Host :=
  match cs with
  | '[' :: rest =>
      if rest.getLast? = some ']' then
        match ipv6? rest.dropLast with
        | none => .error .invalidIpv6
        | some groups => .ok (.ipv6 groups)
      else .error .invalidIpv6
  | _ => if special then specialHost cs else plainHost cs

def Host.text : Host → String
  | .name text => text
  | .ipv4 address => ipv4Text address
  | .ipv6 groups => "[" ++ ipv6Text groups ++ "]"

end NfsWatch.Url
