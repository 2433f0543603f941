import CreationCommit.Json.Token
import Mathlib.Data.List.Chain

/-!
# How tokens of JSON are spelled

A token has several spellings: a character between quotes may be escaped, an
exponent may be marked by a small or a capital letter, and so on.  A text spells
a list of tokens if it consists of spellings of the tokens in their order, with
any blanks before, between and after them.

Whoever scans such a text finds the tokens again, whatever the spellings and the
blanks are, unless a number follows another at once: their digits could not be
told apart without a blank.
-/

namespace CreationCommit.Json

/-- A spelling of a piece between quotes. -/
inductive Piece.Spelled : Piece → List Char → Prop
  | plain (c : Char) (noControl : 0x20 ≤ c.toNat) (noQuote : c ≠ '"')
      (noBackslash : c ≠ '\\') : Spelled (.char c) [c]
  | escaped (c meant : Char) (stands : unescape? c = some meant) :
      Spelled (.char meant) ['\\', c]
  | codeUnit (first second third fourth : Char) (code : Nat)
      (names : codeUnit? first second third fourth = some code) :
      Spelled (.unit code) ['\\', 'u', first, second, third, fourth]

/-- A spelling of pieces between quotes, one after the other. -/
inductive PiecesSpelled : List Piece → List Char → Prop
  | nil : PiecesSpelled [] []
  | cons {piece : Piece} {pieces : List Piece} {spelling text : List Char}
      (first : piece.Spelled spelling) (others : PiecesSpelled pieces text) :
      PiecesSpelled (piece :: pieces) (spelling ++ text)

theorem scanPieces?_cons_of_spelled {piece : Piece} {spelling : List Char}
    (spelled : piece.Spelled spelling) (text : List Char) :
    scanPieces? (spelling ++ text) =
      (scanPieces? text).map fun (pieces, rest) => (piece :: pieces, rest) := by
  cases spelled with
  | plain c noControl noQuote noBackslash =>
      have control : ¬ c.toNat < 0x20 := Nat.not_lt.2 noControl
      rw [List.singleton_append, scanPieces?, if_neg control]
      · cases scanPieces? text <;> rfl
      all_goals simp [noQuote, noBackslash]
  | escaped c meant stands =>
      have notUnit : c ≠ 'u' := by
        rintro rfl
        simp [unescape?] at stands
      rw [List.cons_append, List.singleton_append, scanPieces?, stands]
      · cases scanPieces? text <;> rfl
      · simp [notUnit]
  | codeUnit first second third fourth code names =>
      simp only [List.cons_append, List.nil_append, scanPieces?, names]
      cases scanPieces? text <;> rfl

/-- Whoever scans spelled pieces up to the closing quote finds them again. -/
theorem scanPieces?_of_spelled {pieces : List Piece} {text : List Char}
    (spelled : PiecesSpelled pieces text) (rest : List Char) :
    scanPieces? (text ++ '"' :: rest) = some (pieces, rest) := by
  induction spelled with
  | nil => simp [scanPieces?]
  | cons first others ih =>
      rw [List.append_assoc, scanPieces?_cons_of_spelled first, ih]
      rfl

/-- One digit or more. -/
def AreDigits (digits : List Char) : Prop :=
  digits ≠ [] ∧ ∀ c ∈ digits, c.isDigit = true

/-- The digits of a whole number: a leading zero stands alone. -/
def AreWhole (digits : List Char) : Prop :=
  AreDigits digits ∧ (digits.head? = some '0' → digits = ['0'])

/-- The text does not go on with a digit. -/
def EndsDigits (text : List Char) : Prop :=
  ∀ c ∈ text.head?, c.isDigit = false

/-- The text does not go on with anything that a numeral may go on with. -/
def EndsNumeral (text : List Char) : Prop :=
  ∀ c ∈ text.head?, c.isDigit = false ∧ c ≠ '.' ∧ c ≠ 'e' ∧ c ≠ 'E'

theorem EndsNumeral.endsDigits {text : List Char} (ends : EndsNumeral text) :
    EndsDigits text :=
  fun c isNext => (ends c isNext).1

/-- A spelling of what follows the whole digits as a fraction. -/
inductive FractionSpelled : Option (List Char) → List Char → Prop
  | absent : FractionSpelled none []
  | given (digits : List Char) (areDigits : AreDigits digits) :
      FractionSpelled (some digits) ('.' :: digits)

/-- A spelling of an exponent or its absence. -/
inductive ExponentSpelled : Option Exponent → List Char → Prop
  | absent : ExponentSpelled none []
  | unsigned (mark : Char) (isMark : mark = 'e' ∨ mark = 'E')
      (digits : List Char) (areDigits : AreDigits digits) :
      ExponentSpelled (some ⟨false, digits⟩) (mark :: digits)
  | positive (mark : Char) (isMark : mark = 'e' ∨ mark = 'E')
      (digits : List Char) (areDigits : AreDigits digits) :
      ExponentSpelled (some ⟨false, digits⟩) (mark :: '+' :: digits)
  | negative (mark : Char) (isMark : mark = 'e' ∨ mark = 'E')
      (digits : List Char) (areDigits : AreDigits digits) :
      ExponentSpelled (some ⟨true, digits⟩) (mark :: '-' :: digits)

/-- A spelling of a numeral after its sign. -/
inductive UnsignedSpelled (numeral : Numeral) : List Char → Prop
  | parts (fraction exponent : List Char) (areWhole : AreWhole numeral.whole)
      (spelledFraction : FractionSpelled numeral.fraction fraction)
      (spelledExponent : ExponentSpelled numeral.exponent exponent) :
      UnsignedSpelled numeral (numeral.whole ++ (fraction ++ exponent))

theorem spanDigits_append {digits rest : List Char}
    (areDigits : ∀ c ∈ digits, c.isDigit = true) (ends : EndsDigits rest) :
    spanDigits (digits ++ rest) = (digits, rest) := by
  induction digits with
  | nil =>
      cases rest with
      | nil => rfl
      | cons c rest => simp [spanDigits, ends c rfl]
  | cons c digits ih =>
      obtain ⟨isDigit, others⟩ := List.forall_mem_cons.1 areDigits
      simp [spanDigits, isDigit, ih others]

theorem scanDigits?_append {digits rest : List Char}
    (areDigits : AreDigits digits) (ends : EndsDigits rest) :
    scanDigits? (digits ++ rest) = some (digits, rest) := by
  have span := spanDigits_append areDigits.2 ends
  cases digits with
  | nil => exact absurd rfl areDigits.1
  | cons c digits => simp only [scanDigits?, span]

theorem scanWhole?_append {digits rest : List Char} (areWhole : AreWhole digits)
    (ends : EndsDigits rest) :
    scanWhole? (digits ++ rest) = some (digits, rest) := by
  have scanned := scanDigits?_append areWhole.1 ends
  cases digits with
  | nil => exact absurd rfl areWhole.1.1
  | cons c digits =>
      by_cases zero : c = '0'
      · subst zero
        obtain rfl : digits = [] := by simpa using areWhole.2 rfl
        rfl
      · rw [List.cons_append] at scanned ⊢
        rw [← scanned]
        simp [scanWhole?, zero]

theorem ExponentSpelled.endsDigits {exponent : Option Exponent}
    {text rest : List Char} (spelled : ExponentSpelled exponent text)
    (ends : EndsNumeral rest) : EndsDigits (text ++ rest) := by
  cases spelled with
  | absent => exact ends.endsDigits
  | unsigned mark isMark | positive mark isMark | negative mark isMark =>
      rintro c ⟨⟩
      rcases isMark with rfl | rfl <;> rfl

theorem FractionSpelled.endsDigits {fraction : Option (List Char)}
    {text rest : List Char} (spelled : FractionSpelled fraction text)
    (ends : EndsDigits rest) : EndsDigits (text ++ rest) := by
  cases spelled with
  | absent => exact ends
  | given digits =>
      rintro c ⟨⟩
      rfl

theorem scanExponent?_append {exponent : Option Exponent}
    {text rest : List Char} (spelled : ExponentSpelled exponent text)
    (ends : EndsNumeral rest) :
    scanExponent? (text ++ rest) = some (exponent, rest) := by
  have marked (mark : Char) (isMark : mark = 'e' ∨ mark = 'E')
      (text : List Char) :
      scanExponent? (mark :: text) = scanMarkedExponent? text := by
    rcases isMark with rfl | rfl <;> rfl
  have digitsRead {digits : List Char} (areDigits : AreDigits digits)
      (negative : Bool) :
      scanExponentDigits? negative (digits ++ rest) =
        some (some ⟨negative, digits⟩, rest) := by
    simp [scanExponentDigits?, scanDigits?_append areDigits ends.endsDigits]
  cases spelled with
  | absent =>
      cases rest with
      | nil => rfl
      | cons c rest =>
          obtain ⟨-, -, notSmall, notCapital⟩ := ends c rfl
          simp [scanExponent?, notSmall, notCapital]
  | unsigned mark isMark digits areDigits =>
      rw [List.cons_append, marked mark isMark, ← digitsRead areDigits false]
      cases digits with
      | nil => exact absurd rfl areDigits.1
      | cons c digits =>
          have isDigit : c.isDigit = true := areDigits.2 c List.mem_cons_self
          have notMinus : c ≠ '-' := by
            rintro rfl
            simp at isDigit
          have notPlus : c ≠ '+' := by
            rintro rfl
            simp at isDigit
          simp [scanMarkedExponent?, notMinus, notPlus]
  | positive mark isMark digits areDigits =>
      rw [List.cons_append, marked mark isMark]
      exact digitsRead areDigits false
  | negative mark isMark digits areDigits =>
      rw [List.cons_append, marked mark isMark]
      exact digitsRead areDigits true

theorem scanFraction?_append {fraction : Option (List Char)}
    {exponent : Option Exponent} {text exponentText rest : List Char}
    (spelled : FractionSpelled fraction text)
    (spelledExponent : ExponentSpelled exponent exponentText)
    (ends : EndsNumeral rest) :
    scanFraction? (text ++ (exponentText ++ rest)) =
      some (fraction, exponentText ++ rest) := by
  cases spelled with
  | absent =>
      cases spelledExponent with
      | absent =>
          cases rest with
          | nil => rfl
          | cons c rest =>
              obtain ⟨-, notPoint, -⟩ := ends c rfl
              simp [scanFraction?, notPoint]
      | unsigned mark isMark | positive mark isMark | negative mark isMark =>
          rcases isMark with rfl | rfl <;> rfl
  | given digits areDigits =>
      simp [scanFraction?,
        scanDigits?_append areDigits (spelledExponent.endsDigits ends)]

/-- Whoever scans a spelled numeral finds it again, if the text behind it could
not belong to it. -/
theorem scanNumeral?_of_spelled {numeral : Numeral} {text rest : List Char}
    (spelled : UnsignedSpelled numeral text) (ends : EndsNumeral rest) :
    scanNumeral? numeral.negative (text ++ rest) = some (numeral, rest) := by
  obtain ⟨fraction, exponent, areWhole, spelledFraction, spelledExponent⟩ :=
    spelled
  have endsWhole := spelledFraction.endsDigits (spelledExponent.endsDigits ends)
  simp only [scanNumeral?, List.append_assoc,
    scanWhole?_append areWhole endsWhole,
    scanFraction?_append spelledFraction spelledExponent ends,
    scanExponent?_append spelledExponent ends, Option.bind_eq_bind,
    Option.bind_some]
  rfl

namespace Token

/-- A spelling of a token. -/
inductive Spelled : Token → List Char → Prop
  | openArray : Spelled openArray ['[']
  | closeArray : Spelled closeArray [']']
  | openObject : Spelled openObject ['\x7b']
  | closeObject : Spelled closeObject ['\x7d']
  | colon : Spelled colon [':']
  | comma : Spelled comma [',']
  | null : Spelled null ['n', 'u', 'l', 'l']
  | boolTrue : Spelled (bool true) ['t', 'r', 'u', 'e']
  | boolFalse : Spelled (bool false) ['f', 'a', 'l', 's', 'e']
  | negative (numeral : Numeral) (isNegative : numeral.negative = true)
      (text : List Char) (spelled : UnsignedSpelled numeral text) :
      Spelled (number numeral) ('-' :: text)
  | natural (numeral : Numeral) (isNatural : numeral.negative = false)
      (text : List Char) (spelled : UnsignedSpelled numeral text) :
      Spelled (number numeral) text
  | string (pieces : List Piece) (text : List Char)
      (spelled : PiecesSpelled pieces text) :
      Spelled (string ((joinPieces? pieces).map String.ofList))
        ('"' :: (text ++ ['"']))

/-- Whether a token is a number. -/
def isNumber : Token → Bool
  | number _ => true
  | _ => false

/-- No number follows another at once. -/
def Separated (tokens : List Token) : Prop :=
  tokens.IsChain fun earlier later =>
    earlier.isNumber = false ∨ later.isNumber = false

/-- A text that spells tokens, with any blanks around them. -/
inductive Spell : List Token → List Char → Prop
  | nil : Spell [] []
  | blank {tokens : List Token} {text : List Char} (c : Char)
      (isBlank : isBlank c = true) (others : Spell tokens text) :
      Spell tokens (c :: text)
  | cons {token : Token} {tokens : List Token} {spelling text : List Char}
      (first : token.Spelled spelling) (others : Spell tokens text) :
      Spell (token :: tokens) (spelling ++ text)

variable {token : Token} {tokens : List Token} {spelling text rest : List Char}

theorem isBlank_of_isDigit {c : Char} (isDigit : c.isDigit = true) :
    isBlank c = false := by
  rw [← Bool.not_eq_true]
  intro blank
  simp only [isBlank, Bool.or_eq_true, beq_iff_eq] at blank
  rcases blank with ((rfl | rfl) | rfl) | rfl <;> simp at isDigit

theorem scan?_of_isDigit {c : Char} (isDigit : c.isDigit = true)
    (rest : List Char) :
    scan? c rest = (scanNumeral? false (c :: rest)).map fun (numeral, rest) =>
      (number numeral, rest) := by
  unfold scan?
  split
  case h_12 => rfl
  all_goals simp at isDigit

/-- Whoever scans a spelled token finds it again; what follows a number must not
be able to belong to it. -/
theorem scan?_of_spelled (spelled : token.Spelled spelling)
    (ends : token.isNumber = true → EndsNumeral rest) :
    ∃ c tail, spelling = c :: tail ∧ isBlank c = false ∧
      scan? c (tail ++ rest) = some (token, rest) := by
  cases spelled with
  | openArray | closeArray | openObject | closeObject | colon | comma | null
  | boolTrue | boolFalse => exact ⟨_, _, rfl, rfl, rfl⟩
  | negative numeral isNegative text spelledDigits =>
      have scanned := scanNumeral?_of_spelled spelledDigits (ends rfl)
      rw [isNegative] at scanned
      exact ⟨_, _, rfl, rfl, by simp [scan?, scanned]⟩
  | natural numeral isNatural text spelledDigits =>
      have scanned := scanNumeral?_of_spelled spelledDigits (ends rfl)
      obtain ⟨fraction, exponent, areWhole, -, -⟩ := spelledDigits
      obtain ⟨c, digits, whole⟩ := List.exists_cons_of_ne_nil areWhole.1.1
      rw [whole, isNatural, List.cons_append, List.cons_append] at scanned
      rw [whole] at areWhole ⊢
      have isDigit : c.isDigit = true := areWhole.1.2 c List.mem_cons_self
      refine ⟨c, digits ++ (fraction ++ exponent), rfl,
        isBlank_of_isDigit isDigit, ?_⟩
      rw [scan?_of_isDigit isDigit, scanned]
      rfl
  | string pieces text spelledPieces =>
      have scanned := scanPieces?_of_spelled spelledPieces rest
      refine ⟨_, _, rfl, rfl, ?_⟩
      simp [scan?, scanString?, scanned]

theorem Spelled.endsNumeral (spelled : token.Spelled spelling)
    (notNumber : token.isNumber = false) (rest : List Char) :
    EndsNumeral (spelling ++ rest) := by
  cases spelled with
  | negative | natural => cases notNumber
  | openArray | closeArray | openObject | closeObject | colon | comma | null
  | boolTrue | boolFalse | string =>
      rintro c ⟨⟩
      decide

theorem Spell.endsNumeral (spell : Spell tokens text)
    (notNumber : ∀ token ∈ tokens.head?, token.isNumber = false) :
    EndsNumeral text := by
  induction spell with
  | nil => simp [EndsNumeral]
  | blank c blank others ih =>
      rintro c ⟨⟩
      simp only [isBlank, Bool.or_eq_true, beq_iff_eq] at blank
      rcases blank with ((rfl | rfl) | rfl) | rfl <;> decide
  | cons first others => exact first.endsNumeral (notNumber _ rfl) _

/-- With as many steps as the text has characters all its tokens are scanned. -/
theorem scanAll?_of_spell (spell : Spell tokens text)
    (separated : Separated tokens) {steps : Nat} (enough : text.length ≤ steps)
    (earlier : List Token) :
    scanAll? steps earlier text = some (earlier.reverse ++ tokens) := by
  induction spell generalizing steps earlier with
  | nil => cases steps <;> simp [scanAll?]
  | blank c blank others ih =>
      cases steps with
      | zero => simp at enough
      | succ steps =>
          rw [scanAll?, if_pos blank]
          exact ih separated (by simpa using enough) earlier
  | @cons token tokens spelling text first others ih =>
      obtain ⟨apart, separatedOthers⟩ := List.isChain_cons.1 separated
      have ends : token.isNumber = true → EndsNumeral text := fun isNumber =>
        others.endsNumeral fun next isNext =>
          (apart next isNext).resolve_left (by simp [isNumber])
      obtain ⟨c, tail, rfl, notBlank, scanned⟩ := scan?_of_spelled first ends
      cases steps with
      | zero => simp at enough
      | succ steps =>
          simp only [List.cons_append, List.length_cons,
            List.length_append] at enough ⊢
          rw [scanAll?, if_neg (by simp [notBlank]), scanned]
          dsimp only
          rw [ih separatedOthers (by omega) (token :: earlier)]
          simp

/-- The tokens of a text that spells them. -/
theorem ofText?_of_spell (spell : Spell tokens text)
    (separated : Separated tokens) : ofText? text = some tokens :=
  scanAll?_of_spell spell separated (Nat.le_refl _) []

end Token

end CreationCommit.Json
