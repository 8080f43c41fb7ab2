import NfsWatch.Text.Printable

/-!
# Quoted — a text between double quotes

The form in which messages show a text: quotes and backslashes after a backslash, the common
controls by their letters, any other character without a glyph by its number in braces.
-/

namespace NfsWatch.Text

def hexNumber (c : Char) : List Char := Nat.toDigits 16 c.toNat

/-- One character as it stands in a quoted text. -/
def quotedChar (c : Char) : List Char :=
  match c with
  | '"' => ['\\', '"']
  | '\\' => ['\\', '\\']
  | '\n' => ['\\', 'n']
  | '\r' => ['\\', 'r']
  | '\t' => ['\\', 't']
  | '\x00' => ['\\', '0']
  | c => if isPrintable c then [c] else ['\\', 'u', '\x7b'] ++ hexNumber c ++ ['\x7d']

def quoted (s : String) : String :=
  String.ofList ('"' :: s.toList.flatMap quotedChar ++ ['"'])

end NfsWatch.Text
