/-!
# Percent encoding

A character that may not stand in a part of a URL is written as its UTF-8 bytes, each as `%` and
two hexadecimal digits. Every byte above ASCII is encoded everywhere; which ASCII characters are,
depends on the part. `decode` reads the bytes back, and leaves a `%` that no two digits follow as
it is.
-/

namespace NfsWatch.Url

def hexDigit (n : Nat) : Char := "0123456789ABCDEF".toList.getD n '0'

def percentByte (byte : UInt8) : List Char :=
  ['%', hexDigit (byte.toNat / 16), hexDigit (byte.toNat % 16)]

/-- A character of a part in which `forbidden` says which ASCII characters are encoded. -/
def encodeChar (forbidden : Char → Bool) (c : Char) : List Char :=
  if c.toNat < 0x80 && !forbidden c then [c] else (String.utf8EncodeChar c).flatMap percentByte

def encode (forbidden : Char → Bool) (cs : List Char) : List Char :=
  cs.flatMap (encodeChar forbidden)

/-- Controls, which are encoded everywhere. -/
def isControl (c : Char) : Bool := c.toNat < 0x20 || c.toNat == 0x7F

def inFragment (c : Char) : Bool := isControl c || c ∈ [' ', '"', '<', '>', '`']

def inQuery (c : Char) : Bool := isControl c || c ∈ [' ', '"', '#', '<', '>']

def inSpecialQuery (c : Char) : Bool := inQuery c || c == '\''

/-- What is encoded in a path that is given as a whole. -/
def inPath (c : Char) : Bool := inFragment c || c ∈ ['#', '?', '\x7b', '\x7d']

/-- What is encoded in a path segment that is given by itself. -/
def inSegment (c : Char) : Bool := inPath c || c ∈ ['/', '%']

def inSpecialSegment (c : Char) : Bool := inSegment c || c == '\\'

def inUserinfo (c : Char) : Bool :=
  inPath c || c ∈ ['/', ':', ';', '=', '@', '[', '\\', ']', '^', '|']

def hexValue? (c : Char) : Option Nat :=
  if c.isDigit then some (c.toNat - '0'.toNat)
  else if 'a' ≤ c ∧ c ≤ 'f' then some (c.toNat - 'a'.toNat + 10)
  else if 'A' ≤ c ∧ c ≤ 'F' then some (c.toNat - 'A'.toNat + 10)
  else none

def decode : List Char → List UInt8
  | [] => []
  | '%' :: high :: low :: rest =>
      match hexValue? high, hexValue? low with
      | some h, some l => UInt8.ofNat (16 * h + l) :: decode rest
      | _, _ => 0x25 :: decode (high :: low :: rest)
  | c :: rest => String.utf8EncodeChar c ++ decode rest
termination_by cs => cs.length

end NfsWatch.Url
