/-!
# Quoted texts of JSON

A quoted text is a list of pieces, each a character or a UTF-16 code unit that
an escape names.  Two units that form a surrogate pair stand for one
character; a text with a surrogate outside such a pair stands for nothing.

Writing escapes the quote, the backslash and the control characters only.
-/

namespace CreationCommit.Json

/-- A piece of a quoted text. -/
inductive Piece
  | char (c : Char)
  | unit (code : Nat)
deriving DecidableEq, Repr

def hexValue? (c : Char) : Option Nat :=
  if '0' ≤ c ∧ c ≤ '9' then some (c.toNat - '0'.toNat)
  else if 'a' ≤ c ∧ c ≤ 'f' then some (c.toNat - 'a'.toNat + 10)
  else if 'A' ≤ c ∧ c ≤ 'F' then some (c.toNat - 'A'.toNat + 10)
  else none

/-- The code unit of four hexadecimal digits. -/
def codeUnit? (first second third fourth : Char) : Option Nat := do
  return 4096 * (← hexValue? first) + 256 * (← hexValue? second) +
    16 * (← hexValue? third) + (← hexValue? fourth)

/-- The character that a backslash and another character stand for. -/
def unescape? : Char → Option Char
  | '"' => some '"'
  | '\\' => some '\\'
  | '/' => some '/'
  | 'b' => some '\x08'
  | 'f' => some '\x0c'
  | 'n' => some '\n'
  | 'r' => some '\r'
  | 't' => some '\t'
  | _ => none

/-- Read the pieces up to the closing quote, and what follows it. -/
def scanPieces? : List Char → Option (List Piece × List Char)
  | [] => none
  | '"' :: rest => some ([], rest)
  | '\\' :: 'u' :: first :: second :: third :: fourth :: rest => do
      let code ← codeUnit? first second third fourth
      let (pieces, rest) ← scanPieces? rest
      return (.unit code :: pieces, rest)
  | '\\' :: c :: rest => do
      let c ← unescape? c
      let (pieces, rest) ← scanPieces? rest
      return (.char c :: pieces, rest)
  | c :: rest =>
      if c.toNat < 0x20 then
        none
      else do
        let (pieces, rest) ← scanPieces? rest
        return (.char c :: pieces, rest)

/-- Whether a code unit begins a surrogate pair. -/
def isHighSurrogate (code : Nat) : Bool :=
  0xD800 ≤ code && code < 0xDC00

/-- Whether a code unit ends a surrogate pair. -/
def isLowSurrogate (code : Nat) : Bool :=
  0xDC00 ≤ code && code < 0xE000

/-- The character of a surrogate pair. -/
def pairedChar (high low : Nat) : Char :=
  Char.ofNat (0x10000 + 0x400 * (high - 0xD800) + (low - 0xDC00))

def joinPieces? : List Piece → Option (List Char)
  | [] => some []
  | .char c :: rest => (joinPieces? rest).map (c :: ·)
  | .unit high :: .unit low :: rest =>
      if isHighSurrogate high then
        if isLowSurrogate low then
          (joinPieces? rest).map (pairedChar high low :: ·)
        else
          none
      else if isLowSurrogate high then
        none
      else
        (joinPieces? (.unit low :: rest)).map (Char.ofNat high :: ·)
  | .unit code :: rest =>
      if isHighSurrogate code || isLowSurrogate code then
        none
      else
        (joinPieces? rest).map (Char.ofNat code :: ·)

/-- The two last hexadecimal digits of a control character's escape. -/
def controlDigits (code : Nat) : List Char :=
  [Nat.digitChar (code / 16), Nat.digitChar (code % 16)]

def escapeChar (c : Char) : List Char :=
  if c = '"' then ['\\', '"']
  else if c = '\\' then ['\\', '\\']
  else if c = '\x08' then ['\\', 'b']
  else if c = '\t' then ['\\', 't']
  else if c = '\n' then ['\\', 'n']
  else if c = '\x0c' then ['\\', 'f']
  else if c = '\r' then ['\\', 'r']
  else if c.toNat < 0x20 then ['\\', 'u', '0', '0'] ++ controlDigits c.toNat
  else [c]

def quoteText (text : List Char) : List Char :=
  '"' :: text.flatMap escapeChar ++ ['"']

end CreationCommit.Json
