/-! # Unsigned numbers in text

Reading a decimal number that has to fit below a bound: an optional `+`, then ASCII
digits and nothing else.
-/

namespace ModuleDepot.Text

/-- The largest number of 32 bits. -/
def max32 : Nat := 0xFFFFFFFF

/-- The largest number of 64 bits. -/
def max64 : Nat := 0xFFFFFFFFFFFFFFFF

/-- Why a sequence of digits is not a number within the bound. -/
inductive DigitsError where
  | empty
  | invalid
  | overflow
  deriving DecidableEq, Repr

/-- The value of a digit in a base up to sixteen, in either case. -/
def digitValue? (base : Nat) (c : Char) : Option Nat :=
  let value :=
    if '0' ≤ c ∧ c ≤ '9' then c.toNat - '0'.toNat
    else if 'a' ≤ c ∧ c ≤ 'f' then c.toNat - 'a'.toNat + 10
    else if 'A' ≤ c ∧ c ≤ 'F' then c.toNat - 'A'.toNat + 10
    else base
  if value < base then some value else none

/-- Reads on from `acc`; the first digit that is wrong, or that leads over the bound, decides. -/
def readDigitsFrom (base bound acc : Nat) : List Char → Except DigitsError Nat
  | [] => .ok acc
  | c :: rest =>
    match digitValue? base c with
    | none => .error .invalid
    | some d =>
      if acc * base + d ≤ bound then readDigitsFrom base bound (acc * base + d) rest
      else .error .overflow

/-- The number that the digits spell in the base, if it is at most the bound. -/
def readDigits (base bound : Nat) (cs : List Char) : Except DigitsError Nat :=
  if cs.isEmpty then .error .empty else readDigitsFrom base bound 0 cs

/-- An unsigned decimal number of at most `bound`, with an optional `+` before it. -/
def readUnsigned? (bound : Nat) (s : String) : Option Nat :=
  let digits := match s.toList with
    | '+' :: rest => rest
    | cs => cs
  (readDigits 10 bound digits).toOption

end ModuleDepot.Text
