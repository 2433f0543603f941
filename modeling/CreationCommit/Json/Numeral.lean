import CreationCommit.Decimal

/-!
# Numerals

A numeral is a number as it is written: its sign, its whole digits, and
perhaps the digits of a fraction and an exponent.  A numeral without fraction
and exponent stands for an integer, except that a negative zero does not.

A numeral is storable if it fits a double in the following sense.  Leading
digits make up a significand of sixty-four bits and the rest only scale it by
a power of ten; the double nearest to the significand times the double nearest
to that power has to stay finite.
-/

namespace CreationCommit.Json

/-- The exponent of a numeral. -/
structure Exponent where
  negative : Bool
  digits : List Char
deriving DecidableEq, Repr

/-- A number as it is written. -/
structure Numeral where
  negative : Bool
  whole : List Char
  fraction : Option (List Char)
  exponent : Option Exponent
deriving DecidableEq, Repr

def digitsValue (digits : List Char) : Nat :=
  digits.foldl (fun value c => 10 * value + Decimal.digitValue c) 0

namespace Numeral

def ofInt (value : Int) : Numeral where
  negative := value < 0
  whole := Nat.toDigits 10 value.natAbs
  fraction := none
  exponent := none

def natural? (numeral : Numeral) : Option Nat :=
  if numeral.negative ∨ numeral.fraction.isSome ∨ numeral.exponent.isSome then
    none
  else
    some (digitsValue numeral.whole)

def integer? (numeral : Numeral) : Option Int :=
  if numeral.fraction.isSome ∨ numeral.exponent.isSome then
    none
  else if numeral.negative then
    if digitsValue numeral.whole = 0 then none
    else some (- digitsValue numeral.whole)
  else
    some (digitsValue numeral.whole)

/-- A significand and the power of ten that scales it. -/
structure Scaled where
  significand : Nat
  scale : Int
deriving DecidableEq, Repr

/-- Absorb whole digits while the significand fits sixty-four bits; every
digit after the first that does not fit scales by ten. -/
def absorbWhole : Nat → List Char → Scaled
  | significand, [] => ⟨significand, 0⟩
  | significand, c :: rest =>
      let next := 10 * significand + Decimal.digitValue c
      if next < UInt64.size then absorbWhole next rest
      else ⟨significand, (c :: rest).length⟩

/-- Absorb digits of a fraction while the significand fits sixty-four bits;
the digits after the first that does not fit are dropped. -/
def absorbFraction : Scaled → List Char → Scaled
  | scaled, [] => scaled
  | scaled, c :: rest =>
      let next := 10 * scaled.significand + Decimal.digitValue c
      if next < UInt64.size then absorbFraction ⟨next, scaled.scale - 1⟩ rest
      else scaled

def exponentValue (numeral : Numeral) : Int :=
  match numeral.exponent with
  | none => 0
  | some exponent =>
      if exponent.negative then - digitsValue exponent.digits
      else digitsValue exponent.digits

def scaled (numeral : Numeral) : Scaled :=
  let absorbed :=
    absorbFraction (absorbWhole 0 numeral.whole) (numeral.fraction.getD [])
  ⟨absorbed.significand, absorbed.scale + numeral.exponentValue⟩

/-- The integer of fifty-three significant bits nearest to a number, where a
tie goes to the even one. -/
def roundToDouble (value : Nat) : Nat :=
  let excess := value.log2 + 1 - 53
  let unit := Nat.pow 2 excess
  let quotient := value / unit
  let rest := value % unit
  let roundsUp := unit < 2 * rest || (2 * rest == unit && quotient % 2 == 1)
  (if roundsUp then quotient + 1 else quotient) * unit

/-- Whether a numeral can be stored as an integer or a double. -/
def isStorable (numeral : Numeral) : Bool :=
  let ⟨significand, scale⟩ := numeral.scaled
  if significand = 0 then true
  else if 308 < scale then false
  else
    roundToDouble (roundToDouble significand *
      roundToDouble (Nat.pow 10 scale.toNat)) < Nat.pow 2 1024

end Numeral

end CreationCommit.Json
