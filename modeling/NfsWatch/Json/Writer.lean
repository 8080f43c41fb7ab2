import NfsWatch.Json.Basic
import NfsWatch.Number.Shortest
import NfsWatch.Number.IntegerText

/-!
# Writing values as text

The compact form: no blanks, entries in the order in which they are kept, and in texts only the
quote, the backslash and the controls escaped. Each function writes in front of the text that
follows, so writing is linear in the size of the result.
-/

namespace NfsWatch.Json

def hexDigit (n : Nat) : Char := (Nat.toDigits 16 n).getD 0 '0'

def escapedChar (c : Char) : List Char :=
  match c with
  | '"' => ['\\', '"']
  | '\\' => ['\\', '\\']
  | '\x08' => ['\\', 'b']
  | '\x0c' => ['\\', 'f']
  | '\n' => ['\\', 'n']
  | '\r' => ['\\', 'r']
  | '\t' => ['\\', 't']
  | c =>
      if c.toNat < 0x20 then ['\\', 'u', '0', '0', hexDigit (c.toNat / 16), hexDigit (c.toNat % 16)]
      else [c]

def writeText (s : String) (rest : List Char) : List Char :=
  '"' :: s.toList.foldr (fun c tail => escapedChar c ++ tail) ('"' :: rest)

def integerText (n : Int) : String :=
  if n < 0 then "-" ++ IntegerText.write n.natAbs else IntegerText.write n.natAbs

mutual

/-- Writes a value in front of `rest`. -/
def writeValue : Json → List Char → List Char
  | .null, rest => "null".toList ++ rest
  | .bool true, rest => "true".toList ++ rest
  | .bool false, rest => "false".toList ++ rest
  | .int n, rest => (integerText n).toList ++ rest
  | .float x, rest => x.text.toList ++ rest
  | .str s, rest => writeText s rest
  | .arr [], rest => '[' :: ']' :: rest
  | .arr (item :: items), rest => '[' :: writeValue item (writeItems items (']' :: rest))
  | .obj [], rest => '\x7b' :: '\x7d' :: rest
  | .obj ((key, value) :: entries), rest =>
      '\x7b' :: writeText key (':' :: writeValue value (writeEntries entries ('\x7d' :: rest)))

def writeItems : List Json → List Char → List Char
  | [], rest => rest
  | item :: items, rest => ',' :: writeValue item (writeItems items rest)

def writeEntries : List (String × Json) → List Char → List Char
  | [], rest => rest
  | (key, value) :: entries, rest =>
      ',' :: writeText key (':' :: writeValue value (writeEntries entries rest))

end

def write (value : Json) : String := String.ofList (writeValue value [])

end NfsWatch.Json
