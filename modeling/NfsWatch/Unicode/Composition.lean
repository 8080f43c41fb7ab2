import NfsWatch.Unicode.Decomposition

/-!
# Composition — a character and its marks as one

A text is composed if every base has taken up the marks that it can. `compose` takes it apart
first, so that equivalent texts are composed to the same one.
-/

namespace NfsWatch.Unicode

/-- The code point that a base and what follows it make up, if they do. -/
def composite? (base next : Nat) : Option Nat :=
  if 0x1100 ≤ base ∧ base < 0x1113 ∧ 0x1161 ≤ next ∧ next < 0x1176 then
    some (0xAC00 + ((base - 0x1100) * 21 + (next - 0x1161)) * 28)
  else if 0xAC00 ≤ base ∧ base ≤ 0xD7A3 ∧ (base - 0xAC00) % 28 = 0 ∧ 0x11A7 < next ∧
      next < 0x11C3 then
    some (base + (next - 0x11A7))
  else
    (composites.flatten.find? (fun entry => entry.2.1 == base && entry.2.2 == next)).map
      (fun entry => entry.1)

/-- Composes what follows onto a base. `marks` are those since the base that it did not take up,
the last one first; only a mark of a greater class reaches past them. -/
def composeFrom (base : Nat) (marks : List Nat) : List Nat → List Nat
  | [] => base :: marks.reverse
  | n :: rest =>
      let reaches := marks.all (fun mark => combiningClass mark < combiningClass n)
      match if reaches then composite? base n else none with
      | some composite => composeFrom composite marks rest
      | none =>
          if combiningClass n = 0 then base :: (marks.reverse ++ composeFrom n [] rest)
          else composeFrom base (n :: marks) rest

/-- Composes code points in canonical order; marks before the first base stay. -/
def composeOrdered : List Nat → List Nat
  | [] => []
  | n :: rest => if combiningClass n = 0 then composeFrom n [] rest else n :: composeOrdered rest

def compose (cs : List Char) : List Char :=
  (composeOrdered (decompose (cs.map Char.toNat))).map Char.ofNat

end NfsWatch.Unicode
