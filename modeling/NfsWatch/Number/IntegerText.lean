/-!
# IntegerText — naturals written in decimal

`IntegerText.read` reads an optional `+` and one or more ASCII digits as a natural below a bound.
It reads from left to right, so of a digit that is none and a number that grows too large, the
fault that comes first in the text is the one reported. Any number of leading zeros is fine.
-/

namespace NfsWatch.IntegerText

abbrev largest32 : Nat := 4294967295

abbrev largest64 : Nat := 18446744073709551615

inductive Fault
  | empty
  /-- A character that is not an ASCII digit, a sign without digits included. -/
  | invalidDigit
  /-- The digits read so far already exceed the largest number allowed. -/
  | tooLarge
deriving DecidableEq, Repr

def Fault.message : Fault → String
  | .empty => "cannot parse integer from empty string"
  | .invalidDigit => "invalid digit found in string"
  | .tooLarge => "number too large to fit in target type"

def digit? (c : Char) : Option Nat :=
  if c.isDigit then some (c.toNat - '0'.toNat) else none

/-- Continues a number with further digits; `largest` is the greatest number allowed. -/
def readDigits (largest : Nat) (value : Nat) : List Char → Except Fault Nat
  | [] => .ok value
  | c :: rest =>
      match digit? c with
      | none => .error .invalidDigit
      | some d =>
          if largest < 10 * value + d then .error .tooLarge
          else readDigits largest (10 * value + d) rest

def readChars (largest : Nat) : List Char → Except Fault Nat
  | [] => .error .empty
  | ['+'] => .error .invalidDigit
  | '+' :: digits => readDigits largest 0 digits
  | digits => readDigits largest 0 digits

def read (largest : Nat) (s : String) : Except Fault Nat := readChars largest s.toList

def write (n : Nat) : String := String.ofList (Nat.toDigits 10 n)

end NfsWatch.IntegerText
