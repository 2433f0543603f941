import CreationCommit.Json.Printer
import CreationCommit.Proofs.JsonValues

/-!
# What is written stands for the value

Each token has one spelling that is written, and a value is written compactly by
writing its tokens one after the other.  So the compact text of a value stands
for it, as long as its numerals are ones that can be read at all.

An integer is written by its digits, without a leading zero.  It is read again,
and it fits if it needs no more than sixty-four bits.
-/

namespace CreationCommit.Json

/-- A piece that stands for one character by itself. -/
inductive Piece.Means : Piece → Char → Prop
  | char (c : Char) : Means (.char c) c
  | control (c : Char) (isControl : c.toNat < 0x20) : Means (.unit c.toNat) c

theorem joinPieces?_cons_of_means {piece : Piece} {c : Char}
    (means : piece.Means c) (pieces : List Piece) :
    joinPieces? (piece :: pieces) = (joinPieces? pieces).map (c :: ·) := by
  cases means with
  | char => simp [joinPieces?]
  | control _ isControl =>
      have notHigh : isHighSurrogate c.toNat = false := by
        simp only [isHighSurrogate, Bool.and_eq_false_iff, decide_eq_false_iff_not]
        omega
      have notLow : isLowSurrogate c.toNat = false := by
        simp only [isLowSurrogate, Bool.and_eq_false_iff, decide_eq_false_iff_not]
        omega
      rcases pieces with _ | ⟨_ | _, pieces⟩ <;>
        simp [joinPieces?, notHigh, notLow, Char.ofNat_toNat]

theorem codeUnit?_controlDigits {code : Nat} (isControl : code < 0x20) :
    codeUnit? '0' '0' (Nat.digitChar (code / 16)) (Nat.digitChar (code % 16)) =
      some code := by
  have forAll : ∀ code : Fin 32,
      codeUnit? '0' '0' (Nat.digitChar (code / 16)) (Nat.digitChar (code % 16)) =
        some code.val := by
    decide
  exact forAll ⟨code, isControl⟩

theorem exists_piece_escapeChar (c : Char) :
    ∃ piece : Piece, piece.Spelled (escapeChar c) ∧ piece.Means c := by
  unfold escapeChar
  split_ifs with quote backslash backspace tab newLine formFeed carriageReturn
    control
  case pos => exact ⟨_, .escaped '"' c (by rw [quote]; rfl), .char c⟩
  case pos => exact ⟨_, .escaped '\\' c (by rw [backslash]; rfl), .char c⟩
  case pos => exact ⟨_, .escaped 'b' c (by rw [backspace]; rfl), .char c⟩
  case pos => exact ⟨_, .escaped 't' c (by rw [tab]; rfl), .char c⟩
  case pos => exact ⟨_, .escaped 'n' c (by rw [newLine]; rfl), .char c⟩
  case pos => exact ⟨_, .escaped 'f' c (by rw [formFeed]; rfl), .char c⟩
  case pos => exact ⟨_, .escaped 'r' c (by rw [carriageReturn]; rfl), .char c⟩
  case pos =>
    exact ⟨_, .codeUnit _ _ _ _ _ (codeUnit?_controlDigits control),
      .control c control⟩
  case neg => exact ⟨_, .plain c (Nat.not_lt.1 control) quote backslash, .char c⟩

theorem exists_pieces_escaped (text : List Char) :
    ∃ pieces, PiecesSpelled pieces (text.flatMap escapeChar) ∧
      joinPieces? pieces = some text := by
  induction text with
  | nil => exact ⟨[], .nil, rfl⟩
  | cons c text ih =>
      obtain ⟨pieces, spelled, joined⟩ := ih
      obtain ⟨piece, spelledFirst, means⟩ := exists_piece_escapeChar c
      refine ⟨piece :: pieces, .cons spelledFirst spelled, ?_⟩
      rw [joinPieces?_cons_of_means means, joined, Option.map_some]

theorem spelled_writeText (text : Option String) :
    Token.Spelled (.string text) (writeText text) := by
  cases text with
  | none =>
      have spelled : PiecesSpelled [.unit 0xd800] ['\\', 'u', 'd', '8', '0', '0'] :=
        .cons (.codeUnit 'd' '8' '0' '0' _ rfl) .nil
      exact .string _ _ spelled
  | some text =>
      obtain ⟨pieces, spelled, joined⟩ := exists_pieces_escaped text.toList
      have token := Token.Spelled.string pieces _ spelled
      rwa [joined, Option.map_some, String.ofList_toList] at token

/-- The parts of a numeral are digits, so that it can be read. -/
structure Numeral.IsProper (numeral : Numeral) : Prop where
  whole : AreWhole numeral.whole
  fraction : ∀ digits ∈ numeral.fraction, AreDigits digits
  exponent : ∀ exponent ∈ numeral.exponent, AreDigits exponent.digits

theorem fractionSpelled_written {fraction : Option (List Char)}
    (proper : ∀ digits ∈ fraction, AreDigits digits) :
    FractionSpelled fraction (fraction.elim [] ('.' :: ·)) := by
  cases fraction with
  | none => exact .absent
  | some digits => exact .given digits (proper digits rfl)

theorem exponentSpelled_written {scale : Option Exponent}
    (proper : ∀ exponent ∈ scale, AreDigits exponent.digits) :
    ExponentSpelled scale (scale.elim [] Exponent.write) := by
  cases scale with
  | none => exact .absent
  | some exponent =>
      have areDigits : AreDigits exponent.digits := proper exponent rfl
      obtain ⟨_ | _, digits⟩ := exponent
      · exact .unsigned 'e' (.inl rfl) digits areDigits
      · exact .negative 'e' (.inl rfl) digits areDigits

theorem Numeral.write_eq (numeral : Numeral) :
    numeral.write = (if numeral.negative then ['-'] else []) ++
      (numeral.whole ++ (numeral.fraction.elim [] ('.' :: ·) ++
        numeral.exponent.elim [] Exponent.write)) := by
  obtain ⟨negative, whole, _ | fraction, _ | exponent⟩ := numeral <;>
    simp [Numeral.write]

theorem Numeral.IsProper.spelled_write {numeral : Numeral}
    (proper : numeral.IsProper) :
    Token.Spelled (.number numeral) numeral.write := by
  have spelled : UnsignedSpelled numeral _ :=
    .parts _ _ proper.whole (fractionSpelled_written proper.fraction)
      (exponentSpelled_written proper.exponent)
  rw [Numeral.write_eq]
  cases negative : numeral.negative with
  | false => exact .natural _ negative _ spelled
  | true => exact .negative _ negative _ spelled

namespace Token

/-- The spelling of a token that is written. -/
def write : Token → List Char
  | openArray => ['[']
  | closeArray => [']']
  | openObject => ['\x7b']
  | closeObject => ['\x7d']
  | colon => [':']
  | comma => [',']
  | null => Value.null.writeLeaf
  | bool value => (Value.bool value).writeLeaf
  | number numeral => numeral.write
  | string text => writeText text

/-- If the token is a number, it can be read. -/
def IsProper : Token → Prop
  | number numeral => numeral.IsProper
  | _ => True

theorem isProper_of_isMark (token : Token) (isMark : token.isMark = true) :
    token.IsProper := by
  cases token <;> trivial

theorem IsProper.spelled_write {token : Token} (proper : token.IsProper) :
    token.Spelled token.write := by
  cases token with
  | bool value => cases value <;> constructor
  | number numeral => exact Numeral.IsProper.spelled_write proper
  | string text => exact spelled_writeText text
  | openArray | closeArray | openObject | closeObject | colon | comma | null =>
      constructor

theorem spell_write {tokens : List Token}
    (proper : ∀ token ∈ tokens, token.IsProper) :
    Spell tokens (tokens.flatMap write) := by
  induction tokens with
  | nil => exact .nil
  | cons token tokens ih =>
      obtain ⟨first, others⟩ := List.forall_mem_cons.1 proper
      exact .cons first.spelled_write (ih others)

end Token

namespace Value

theorem compactItems_eq {items : List Value}
    (written : ∀ item ∈ items, item.compact = item.tokens.flatMap Token.write) :
    compactItems items = (laterItems items).flatMap Token.write := by
  induction items with
  | nil => rfl
  | cons item items ih =>
      obtain ⟨first, others⟩ := List.forall_mem_cons.1 written
      simp [compactItems, laterItems, Token.write, first, ih others]

theorem compactMembers_eq {members : List Member}
    (written : ∀ member ∈ members,
      member.2.compact = member.2.tokens.flatMap Token.write) :
    compactMembers members = (laterMembers members).flatMap Token.write := by
  induction members with
  | nil => rfl
  | cons member members ih =>
      obtain ⟨first, others⟩ := List.forall_mem_cons.1 written
      simp [compactMembers, laterMembers, Token.write, first, ih others]

/-- A value is written compactly by writing its tokens. -/
theorem compact_eq (value : Value) :
    value.compact = value.tokens.flatMap Token.write := by
  induction value using induction with
  | null | bool | number | string =>
      simp [compact, tokens, Token.write, writeLeaf]
  | array items written =>
      cases items with
      | nil => rfl
      | cons item items =>
          obtain ⟨first, others⟩ := List.forall_mem_cons.1 written
          simp [compact, tokens, Token.write, first, compactItems_eq others]
  | object members written =>
      cases members with
      | nil => rfl
      | cons member members =>
          obtain ⟨first, others⟩ := List.forall_mem_cons.1 written
          simp [compact, tokens, Token.write, first, compactMembers_eq others]

/-- The compact text of a value stands for it. -/
theorem spelledBy_toCompactText {value : Value}
    (proper : ∀ token ∈ value.tokens, token.IsProper) :
    value.SpelledBy value.toCompactText := by
  rw [SpelledBy, toCompactText, String.toList_ofList, compact_eq]
  exact Token.spell_write proper

end Value

theorem eq_zero_of_head?_toDigits {number : Nat}
    (leading : (Nat.toDigits 10 number).head? = some '0') : number = 0 := by
  induction number using Nat.strong_induction_on with
  | h number ih =>
      by_cases small : number < 10
      · rw [Nat.toDigits_of_lt_base small] at leading
        have digit := Option.some.inj leading
        match number with
        | 0 => rfl
        | 1 | 2 | 3 | 4 | 5 | 6 | 7 | 8 | 9 => cases digit
      · have fewer : number / 10 < number := by omega
        rw [Nat.toDigits_of_base_le (by decide) (by omega),
          List.head?_append_of_ne_nil _ Nat.toDigits_ne_nil] at leading
        have none := ih (number / 10) fewer leading
        omega

theorem areWhole_toDigits (number : Nat) :
    AreWhole (Nat.toDigits 10 number) := by
  refine ⟨⟨Nat.toDigits_ne_nil, fun c isDigit =>
    Nat.isDigit_of_mem_toDigits (by decide) (by decide) isDigit⟩, ?_⟩
  intro leading
  rw [eq_zero_of_head?_toDigits leading]
  rfl

theorem digitsValue_toDigits (number : Nat) :
    digitsValue (Nat.toDigits 10 number) = number :=
  Nat.ofDigitChars_ten_toDigits

namespace Numeral

theorem isProper_ofInt (value : Int) : (ofInt value).IsProper where
  whole := areWhole_toDigits _
  fraction := by simp [ofInt]
  exponent := by simp [ofInt]

theorem integer?_ofInt (value : Int) : (ofInt value).integer? = some value := by
  simp only [integer?, ofInt, digitsValue_toDigits, Option.isSome_none,
    Bool.false_eq_true, or_self, if_false, decide_eq_true_eq]
  split_ifs with negative zero
  · omega
  · exact congrArg some (by omega)
  · exact congrArg some (by omega)

theorem natural?_ofInt (value : Nat) : (ofInt value).natural? = some value := by
  have notNegative : ¬ (value : Int) < 0 := by omega
  simp [natural?, ofInt, digitsValue_toDigits, notNegative]

theorem le_foldl_digits (value : Nat) (digits : List Char) :
    value ≤ digits.foldl
      (fun value c => 10 * value + Decimal.digitValue c) value := by
  induction digits generalizing value with
  | nil => exact Nat.le_refl value
  | cons c digits ih =>
      have next := ih (10 * value + Decimal.digitValue c)
      rw [List.foldl_cons]
      omega

theorem absorbWhole_of_small {value : Nat} {digits : List Char}
    (small : digits.foldl
      (fun value c => 10 * value + Decimal.digitValue c) value < UInt64.size) :
    absorbWhole value digits = ⟨digits.foldl
      (fun value c => 10 * value + Decimal.digitValue c) value, 0⟩ := by
  induction digits generalizing value with
  | nil => rfl
  | cons c digits ih =>
      have next := le_foldl_digits (10 * value + Decimal.digitValue c) digits
      rw [List.foldl_cons] at small ⊢
      simp only [absorbWhole, Nat.lt_of_le_of_lt next small, if_true]
      exact ih small

theorem roundToDouble_le (value : Nat) :
    roundToDouble value ≤ 2 * value := by
  by_cases zero : value = 0
  · subst zero
    decide
  · have fits : Nat.pow 2 (value.log2 + 1 - 53) ≤ value :=
      Nat.le_trans (Nat.pow_le_pow_right (by decide) (by omega))
        (Nat.log2_self_le zero)
    have whole := Nat.div_mul_le_self value (Nat.pow 2 (value.log2 + 1 - 53))
    simp only [roundToDouble]
    split
    · rw [Nat.add_mul]
      omega
    · omega

/-- An integer of sixty-four bits fits. -/
theorem isStorable_ofInt {value : Int} (small : value.natAbs < UInt64.size) :
    (ofInt value).isStorable = true := by
  have folded : (Nat.toDigits 10 value.natAbs).foldl
      (fun value c => 10 * value + Decimal.digitValue c) 0 = value.natAbs :=
    digitsValue_toDigits _
  have scaled : (ofInt value).scaled = ⟨value.natAbs, 0⟩ := by
    simp [Numeral.scaled, ofInt, absorbWhole_of_small (folded ▸ small), folded,
      absorbFraction, exponentValue]
  have one : roundToDouble (Nat.pow 10 (0 : Int).toNat) = 1 := by decide
  simp only [isStorable, scaled]
  split_ifs with zero large
  · rfl
  · omega
  · have once := roundToDouble_le value.natAbs
    have twice := roundToDouble_le (roundToDouble value.natAbs)
    have bound : UInt64.size = 2 ^ 64 := rfl
    have below : roundToDouble (roundToDouble value.natAbs) < 2 ^ 66 := by
      omega
    rw [one, Nat.mul_one, decide_eq_true_eq]
    generalize enough : 1024 = exponent
    exact Nat.lt_of_lt_of_le below
      (Nat.pow_le_pow_right (by decide) (by omega))

end Numeral

end CreationCommit.Json
