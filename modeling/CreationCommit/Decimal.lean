/-!
# Decimal numbers in texts

A number is one or more digits, perhaps after one plus sign.  It is read from
left to right, and what is wrong first is reported: a text may be empty, hold
something else than a digit, or grow too large for its type.
-/

namespace CreationCommit

/-- Why a text is no number of its type. -/
inductive DecimalError
  | empty
  | invalidDigit
  | tooLarge
deriving DecidableEq, Repr

def DecimalError.message : DecimalError → String
  | empty => "cannot parse integer from empty string"
  | invalidDigit => "invalid digit found in string"
  | tooLarge => "number too large to fit in target type"

namespace Decimal

def digitValue (c : Char) : Nat :=
  c.toNat - '0'.toNat

/-- Read digits on top of a value, which has to stay below `bound`. -/
def readDigits (bound : Nat) : Nat → List Char → Except DecimalError Nat
  | value, [] => .ok value
  | value, c :: rest =>
      if c.isDigit then
        let value := 10 * value + digitValue c
        if value < bound then readDigits bound value rest
        else .error .tooLarge
      else
        .error .invalidDigit

def read (bound : Nat) (text : List Char) : Except DecimalError Nat :=
  match text with
  | [] => .error .empty
  | ['+'] => .error .invalidDigit
  | '+' :: digits => readDigits bound 0 digits
  | digits => readDigits bound 0 digits

def readWord (text : List Char) : Except DecimalError UInt64 :=
  (read UInt64.size text).map UInt64.ofNat

end Decimal

end CreationCommit
