import NfsWatch.Unicode.Direction
import NfsWatch.Unicode.Joining
import NfsWatch.Url.Domain.Mapping
import NfsWatch.Url.Punycode

/-!
# Label — one part of a domain

A label beyond ASCII goes by an ASCII name, `xn--` and an encoding of its characters. Whether it
may stand in a domain is decided on its characters: it does not begin with a mark, joiners stand
only where they change the shape of a letter, and in a domain with letters written from right to
left each label has one direction.
-/

namespace NfsWatch.Url.Domain

open Unicode

def nameMark : List Char := ['x', 'n', '-', '-']

def isAscii (label : List Char) : Bool := label.all (fun c => c.toNat < 0x80)

/-- The characters of a label. An ASCII name stands for those that it encodes, which have to be in
the spelling of domains and not all in ASCII. -/
def characters? (label : List Char) : Option (List Char) :=
  if nameMark.isPrefixOf label then
    let code := label.drop nameMark.length
    if label.getLast? = some '-' ∨ 2000 < code.length then none
    else (Punycode.decode? code).filter settled
  else some label

def name (label : List Char) : List Char :=
  if isAscii label then label else nameMark ++ Punycode.encode label

/-! ## Joiners -/

/-- Joins two letters that would stand apart. -/
def joiner : Char := '\u200d'

/-- Keeps two letters apart that would join. -/
def nonJoiner : Char := '\u200c'

/-- Whether a joiner may stand between texts, of which `before` begins with the nearest
character: after a virama, and to keep letters apart also between two that connect. -/
def joinerFits (c : Char) (before after : List Char) : Bool :=
  before.head?.any isVirama ||
    (c == nonJoiner && (before.dropWhile isNonspacing).head?.any joinsNext &&
      (after.dropWhile isNonspacing).head?.any joinsPrevious)

def joinersFit (before : List Char) : List Char → Bool
  | [] => true
  | c :: after =>
      ((c != joiner && c != nonJoiner) || joinerFits c before after) &&
        joinersFit (c :: before) after

/-! ## Directions -/

def isRightToLeft (label : List Char) : Bool :=
  label.any (fun c => direction c == .rightToLeft || direction c == .arabicNumber)

/-- Whether a label has one direction. It has that of its first letter, ends in a letter of that
direction or a digit, marks apart, and does not mix the two kinds of digits. -/
def hasOneDirection (label : List Char) : Bool :=
  let directions := label.map direction
  let last := (directions.reverse.dropWhile (· == .mark)).head?
  match directions with
  | [] => true
  | .leftToRight :: rest =>
      rest.all (fun d => d != .rightToLeft && d != .arabicNumber) &&
        (last == some .leftToRight || last == some .europeanNumber)
  | .rightToLeft :: rest =>
      rest.all (· != .leftToRight) && last != some .neutral &&
        !(rest.contains .europeanNumber && rest.contains .arabicNumber)
  | _ => false

/-! ## Validity -/

def isValid (label : List Char) : Bool :=
  isAscii label ||
    (!nameMark.isPrefixOf label && label.length ≤ 1000 && !label.head?.any isMark &&
      joinersFit [] label)

end NfsWatch.Url.Domain
