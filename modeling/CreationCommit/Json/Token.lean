import CreationCommit.Json.Numeral
import CreationCommit.Json.Quoted

/-!
# Tokens of JSON

A text of JSON is a sequence of tokens with blanks between them.  A string
token holds the text it stands for, or nothing if no text has that form.
-/

namespace CreationCommit.Json

/-- A token of JSON. -/
inductive Token
  | openArray
  | closeArray
  | openObject
  | closeObject
  | colon
  | comma
  | null
  | bool (value : Bool)
  | number (numeral : Numeral)
  | string (text : Option String)
deriving DecidableEq, Repr

def isBlank (c : Char) : Bool :=
  c == ' ' || c == '\t' || c == '\n' || c == '\r'

/-- Read what a literal begins with, and answer what follows. -/
def dropLiteral? : List Char → List Char → Option (List Char)
  | [], rest => some rest
  | c :: literal, d :: rest => if c = d then dropLiteral? literal rest else none
  | _ :: _, [] => none

def spanDigits : List Char → List Char × List Char
  | [] => ([], [])
  | c :: rest =>
      if c.isDigit then
        let (digits, rest) := spanDigits rest
        (c :: digits, rest)
      else
        ([], c :: rest)

def scanDigits? (text : List Char) : Option (List Char × List Char) :=
  match spanDigits text with
  | ([], _) => none
  | (digits, rest) => some (digits, rest)

/-- Read the whole digits of a number: a leading zero stands alone. -/
def scanWhole? : List Char → Option (List Char × List Char)
  | '0' :: rest => some (['0'], rest)
  | text => scanDigits? text

def scanFraction? : List Char → Option (Option (List Char) × List Char)
  | '.' :: rest => do
      let (digits, rest) ← scanDigits? rest
      return (some digits, rest)
  | text => some (none, text)

def scanExponentDigits? (negative : Bool) (text : List Char) :
    Option (Option Exponent × List Char) := do
  let (digits, rest) ← scanDigits? text
  return (some { negative, digits }, rest)

def scanMarkedExponent? : List Char → Option (Option Exponent × List Char)
  | '-' :: rest => scanExponentDigits? true rest
  | '+' :: rest => scanExponentDigits? false rest
  | text => scanExponentDigits? false text

def scanExponent? : List Char → Option (Option Exponent × List Char)
  | 'e' :: rest => scanMarkedExponent? rest
  | 'E' :: rest => scanMarkedExponent? rest
  | text => some (none, text)

def scanNumeral? (negative : Bool) (text : List Char) :
    Option (Numeral × List Char) := do
  let (whole, rest) ← scanWhole? text
  let (fraction, rest) ← scanFraction? rest
  let (exponent, rest) ← scanExponent? rest
  return ({ negative, whole, fraction, exponent }, rest)

def scanString? (text : List Char) : Option (Token × List Char) := do
  let (pieces, rest) ← scanPieces? text
  return (.string ((joinPieces? pieces).map String.ofList), rest)

namespace Token

def scan? : Char → List Char → Option (Token × List Char)
  | '[', rest => some (openArray, rest)
  | ']', rest => some (closeArray, rest)
  | '\x7b', rest => some (openObject, rest)
  | '\x7d', rest => some (closeObject, rest)
  | ':', rest => some (colon, rest)
  | ',', rest => some (comma, rest)
  | '"', rest => scanString? rest
  | 'n', rest => (dropLiteral? ['u', 'l', 'l'] rest).map (null, ·)
  | 't', rest => (dropLiteral? ['r', 'u', 'e'] rest).map (bool true, ·)
  | 'f', rest => (dropLiteral? ['a', 'l', 's', 'e'] rest).map (bool false, ·)
  | '-', rest => (scanNumeral? true rest).map fun (numeral, rest) =>
      (number numeral, rest)
  | c, rest => (scanNumeral? false (c :: rest)).map fun (numeral, rest) =>
      (number numeral, rest)

/-- Read all tokens after those read before, newest first, in at most as many
steps as given. -/
def scanAll? : Nat → List Token → List Char → Option (List Token)
  | _, earlier, [] => some earlier.reverse
  | 0, _, _ :: _ => none
  | steps + 1, earlier, c :: rest =>
      if isBlank c then
        scanAll? steps earlier rest
      else
        match scan? c rest with
        | some (token, rest) => scanAll? steps (token :: earlier) rest
        | none => none

/-- The tokens of a text; each takes a character at least, so the text has as
many steps as it needs. -/
def ofText? (text : List Char) : Option (List Token) :=
  scanAll? text.length [] text

end Token

end CreationCommit.Json
