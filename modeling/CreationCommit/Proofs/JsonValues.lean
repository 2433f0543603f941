import CreationCommit.Json.Storable
import CreationCommit.Proofs.JsonSpellings

/-!
# Texts that stand for a value of JSON

A value is a sequence of tokens, so a text stands for it if it spells these
tokens.  Whoever reads such a text finds the value, however it is nested.  If
memory shall hold the value, its numbers have to fit, its strings and names have
to be texts, and its nesting must not pass the limit; this shows in the value as
well as in its tokens.
-/

namespace CreationCommit.Json

/-- Whether a token is a bracket, a colon or a comma. -/
def Token.isMark : Token → Bool
  | openArray | closeArray | openObject | closeObject | colon | comma => true
  | _ => false

theorem Token.isStorable_of_isMark (token : Token) (isMark : token.isMark = true) :
    token.isStorable = true := by
  cases token <;> first | rfl | cases isMark

namespace Value

/-- What holds of a value if it holds of its parts holds of every value. -/
theorem induction {motive : Value → Prop} (null : motive null)
    (bool : ∀ value, motive (bool value))
    (number : ∀ numeral, motive (number numeral))
    (string : ∀ text, motive (string text))
    (array : ∀ items, (∀ item ∈ items, motive item) → motive (array items))
    (object : ∀ members, (∀ member ∈ members, motive member.2) →
      motive (object members)) (value : Value) : motive value :=
  Value.rec (motive_2 := fun items => ∀ item ∈ items, motive item)
    (motive_3 := fun members => ∀ member ∈ members, motive member.2)
    (motive_4 := fun member => motive member.2) null bool number string array
    object (by simp) (fun _ _ first others => List.forall_mem_cons.2 ⟨first, others⟩)
    (by simp) (fun _ _ first others => List.forall_mem_cons.2 ⟨first, others⟩)
    (fun _ _ holds => holds) value

mutual

/-- The tokens that make up a value. -/
def tokens : Value → List Token
  | null => [.null]
  | bool value => [.bool value]
  | number numeral => [.number numeral]
  | string text => [.string text]
  | array [] => [.openArray, .closeArray]
  | array (item :: items) => .openArray :: (item.tokens ++ laterItems items)
  | object [] => [.openObject, .closeObject]
  | object ((name, value) :: members) =>
      .openObject :: .string name :: .colon ::
        (value.tokens ++ laterMembers members)

/-- The tokens of the items after the first, and of the end of the array. -/
def laterItems : List Value → List Token
  | [] => [.closeArray]
  | item :: items => .comma :: (item.tokens ++ laterItems items)

/-- The tokens of the members after the first, and of the end of the object. -/
def laterMembers : List Member → List Token
  | [] => [.closeObject]
  | (name, value) :: members =>
      .comma :: .string name :: .colon ::
        (value.tokens ++ laterMembers members)

end

/-- The text stands for the value. -/
def SpelledBy (value : Value) (text : String) : Prop :=
  Token.Spell value.tokens text.toList

section EveryToken

variable {holds : Token → Prop}
  (marks : ∀ token : Token, token.isMark = true → holds token)

include marks

theorem forall_laterItems {items : List Value}
    (all : ∀ item ∈ items, ∀ token ∈ item.tokens, holds token) :
    ∀ token ∈ laterItems items, holds token := by
  induction items with
  | nil => exact List.forall_mem_singleton.2 (marks _ rfl)
  | cons item items ih =>
      obtain ⟨first, others⟩ := List.forall_mem_cons.1 all
      simp only [laterItems, List.forall_mem_cons, List.forall_mem_append]
      exact ⟨marks _ rfl, first, ih others⟩

theorem forall_laterMembers {members : List Member}
    (names : ∀ member ∈ members, holds (.string member.1))
    (all : ∀ member ∈ members, ∀ token ∈ member.2.tokens, holds token) :
    ∀ token ∈ laterMembers members, holds token := by
  induction members with
  | nil => exact List.forall_mem_singleton.2 (marks _ rfl)
  | cons member members ih =>
      obtain ⟨name, otherNames⟩ := List.forall_mem_cons.1 names
      obtain ⟨first, others⟩ := List.forall_mem_cons.1 all
      simp only [laterMembers, List.forall_mem_cons, List.forall_mem_append]
      exact ⟨marks _ rfl, name, marks _ rfl, first, ih otherNames others⟩

theorem forall_tokens_array {items : List Value}
    (all : ∀ item ∈ items, ∀ token ∈ item.tokens, holds token) :
    ∀ token ∈ (array items).tokens, holds token := by
  cases items with
  | nil => simp [tokens, marks _ (show Token.openArray.isMark = true from rfl),
      marks _ (show Token.closeArray.isMark = true from rfl)]
  | cons item items =>
      obtain ⟨first, others⟩ := List.forall_mem_cons.1 all
      simp only [tokens, List.forall_mem_cons, List.forall_mem_append]
      exact ⟨marks _ rfl, first, forall_laterItems marks others⟩

theorem forall_tokens_object {members : List Member}
    (names : ∀ member ∈ members, holds (.string member.1))
    (all : ∀ member ∈ members, ∀ token ∈ member.2.tokens, holds token) :
    ∀ token ∈ (object members).tokens, holds token := by
  cases members with
  | nil => simp [tokens, marks _ (show Token.openObject.isMark = true from rfl),
      marks _ (show Token.closeObject.isMark = true from rfl)]
  | cons member members =>
      obtain ⟨name, otherNames⟩ := List.forall_mem_cons.1 names
      obtain ⟨first, others⟩ := List.forall_mem_cons.1 all
      simp only [tokens, List.forall_mem_cons, List.forall_mem_append]
      exact ⟨marks _ rfl, name, marks _ rfl, first,
        forall_laterMembers marks otherNames others⟩

end EveryToken

theorem separated_between {earlier later : List Token}
    (separatedEarlier : Token.Separated earlier)
    (separatedLater : Token.Separated later)
    (apart : ∀ token ∈ later.head?, token.isNumber = false) :
    Token.Separated (earlier ++ later) :=
  List.isChain_append.2 ⟨separatedEarlier, separatedLater,
    fun _ _ next isNext => .inr (apart next isNext)⟩

theorem separated_cons {token : Token} {later : List Token}
    (apart : token.isNumber = false) (separated : Token.Separated later) :
    Token.Separated (token :: later) :=
  List.isChain_cons.2 ⟨fun _ _ => .inl apart, separated⟩

theorem separated_laterItems {items : List Value}
    (separated : ∀ item ∈ items, Token.Separated item.tokens) :
    Token.Separated (laterItems items) ∧
      ∀ token ∈ (laterItems items).head?, token.isNumber = false := by
  induction items with
  | nil => simp [laterItems, Token.Separated, Token.isNumber]
  | cons item items ih =>
      obtain ⟨first, others⟩ := List.forall_mem_cons.1 separated
      obtain ⟨separatedLater, apart⟩ := ih others
      rw [laterItems]
      refine ⟨separated_cons rfl (separated_between first separatedLater apart), ?_⟩
      simp [Token.isNumber]

theorem separated_laterMembers {members : List Member}
    (separated : ∀ member ∈ members, Token.Separated member.2.tokens) :
    Token.Separated (laterMembers members) ∧
      ∀ token ∈ (laterMembers members).head?, token.isNumber = false := by
  induction members with
  | nil => simp [laterMembers, Token.Separated, Token.isNumber]
  | cons member members ih =>
      obtain ⟨first, others⟩ := List.forall_mem_cons.1 separated
      obtain ⟨separatedLater, apart⟩ := ih others
      rw [laterMembers]
      have between := separated_between first separatedLater apart
      refine ⟨separated_cons rfl (separated_cons rfl
        (separated_cons rfl between)), ?_⟩
      simp [Token.isNumber]

theorem separated_tokens (value : Value) : Token.Separated value.tokens := by
  induction value using induction with
  | null | bool | number | string => exact .singleton _
  | array items separated =>
      cases items with
      | nil => simp [tokens, Token.Separated, Token.isNumber]
      | cons item items =>
          obtain ⟨first, others⟩ := List.forall_mem_cons.1 separated
          obtain ⟨separatedLater, apart⟩ := separated_laterItems others
          rw [tokens]
          exact separated_cons rfl (separated_between first separatedLater apart)
  | object members separated =>
      cases members with
      | nil => simp [tokens, Token.Separated, Token.isNumber]
      | cons member members =>
          obtain ⟨first, others⟩ := List.forall_mem_cons.1 separated
          obtain ⟨separatedLater, apart⟩ := separated_laterMembers others
          rw [tokens]
          have between := separated_between first separatedLater apart
          exact separated_cons rfl (separated_cons rfl
            (separated_cons rfl between))

end Value

namespace Building

/-- The tokens of the value build it wherever a value may come. -/
def Builds (value : Value) : Prop :=
  ∀ frames, value.tokens.foldlM take? (.value frames) =
    some (place value frames)

/-- A value may come first in an array. -/
theorem foldlM_firstItem (value : Value) (frames : List Frame) :
    value.tokens.foldlM take? (firstItem frames) =
      value.tokens.foldlM take? (.value (.array [] :: frames)) := by
  cases value with
  | null | bool | number | string => rfl
  | array items => cases items <;> rfl
  | object members => cases members <;> rfl

theorem foldlM_laterItems {items : List Value}
    (build : ∀ item ∈ items, Builds item) (done : List Value)
    (frames : List Frame) :
    (Value.laterItems items).foldlM take? (afterItem done frames) =
      some (place (.array (done.reverse ++ items)) frames) := by
  induction items generalizing done with
  | nil => simp [Value.laterItems, take?]
  | cons item items ih =>
      obtain ⟨first, others⟩ := List.forall_mem_cons.1 build
      simp only [Value.laterItems, List.foldlM_cons, List.foldlM_append, take?,
        Option.bind_eq_bind, Option.bind_some, first _, place, ih others]
      simp

theorem foldlM_laterMembers {members : List Member}
    (build : ∀ member ∈ members, Builds member.2) (done : List Member)
    (frames : List Frame) :
    (Value.laterMembers members).foldlM take? (afterMember done frames) =
      some (place (.object (done.reverse ++ members)) frames) := by
  induction members generalizing done with
  | nil => simp [Value.laterMembers, take?]
  | cons member members ih =>
      obtain ⟨first, others⟩ := List.forall_mem_cons.1 build
      simp only [Value.laterMembers, List.foldlM_cons, List.foldlM_append, take?,
        Option.bind_eq_bind, Option.bind_some, first _, place, ih others]
      simp

/-- Whoever takes the tokens of a value where a value may come builds it. -/
theorem builds (value : Value) : Builds value := by
  induction value using Value.induction with
  | null | bool | number | string => exact fun frames => rfl
  | array items build =>
      intro frames
      cases items with
      | nil => rfl
      | cons item items =>
          obtain ⟨first, others⟩ := List.forall_mem_cons.1 build
          simp only [Value.tokens, List.foldlM_cons, List.foldlM_append, take?,
            begin?, Option.bind_eq_bind, Option.bind_some, foldlM_firstItem,
            first _, place, foldlM_laterItems others]
          rfl
  | object members build =>
      intro frames
      cases members with
      | nil => rfl
      | cons member members =>
          obtain ⟨first, others⟩ := List.forall_mem_cons.1 build
          simp only [Value.tokens, List.foldlM_cons, List.foldlM_append, take?,
            begin?, Option.bind_eq_bind, Option.bind_some, first _, place,
            foldlM_laterMembers others]
          rfl

end Building

namespace Value

theorem ofTokens?_tokens (value : Value) : ofTokens? value.tokens = some value := by
  simp only [ofTokens?, Building.builds value [], Option.bind_eq_bind,
    Option.bind_some]
  rfl

theorem ofText?_of_spelledBy {value : Value} {text : String}
    (spelled : value.SpelledBy text) :
    Token.ofText? text.toList = some value.tokens :=
  Token.ofText?_of_spell spelled value.separated_tokens

/-- Whoever reads a text that stands for a value finds the value. -/
theorem read?_of_spelledBy {value : Value} {text : String}
    (spelled : value.SpelledBy text) : read? text = some value := by
  simp only [read?, ofText?_of_spelledBy spelled, Option.bind_eq_bind,
    Option.bind_some, ofTokens?_tokens]

/-- The value can be stored with so many levels of nesting: its numbers fit and
its strings and names are texts. -/
inductive Fits : Nat → Value → Prop
  | null (levels : Nat) : Fits levels null
  | bool (levels : Nat) (value : Bool) : Fits levels (bool value)
  | number (levels : Nat) (numeral : Numeral)
      (storable : numeral.isStorable = true) : Fits levels (number numeral)
  | string (levels : Nat) (text : String) : Fits levels (string (some text))
  | array (levels : Nat) (items : List Value)
      (all : ∀ item ∈ items, Fits levels item) :
      Fits (levels + 1) (array items)
  | object (levels : Nat) (members : List Member)
      (named : ∀ member ∈ members, member.1.isSome = true)
      (all : ∀ member ∈ members, Fits levels member.2) :
      Fits (levels + 1) (object members)

theorem Fits.isStorable {levels : Nat} {value : Value}
    (fits : value.Fits levels) :
    ∀ token ∈ value.tokens, token.isStorable = true := by
  induction fits with
  | null | bool | string => simp [tokens, Token.isStorable]
  | number levels numeral storable => simpa [tokens, Token.isStorable]
  | array levels items all ih =>
      exact forall_tokens_array Token.isStorable_of_isMark ih
  | object levels members named all ih =>
      exact forall_tokens_object Token.isStorable_of_isMark named ih

variable {limit nesting : Nat} {rest : List Token}

/-- The value does not pass the limit inside so many levels, nor does what
follows it. -/
def StaysInside (limit nesting : Nat) (value : Value) : Prop :=
  ∀ rest, staysWithin limit nesting rest = true →
    staysWithin limit nesting (value.tokens ++ rest) = true

theorem staysWithin_cons {token : Token} (within : nesting ≤ limit)
    (later : staysWithin limit (token.nestingAfter nesting) rest = true) :
    staysWithin limit nesting (token :: rest) = true := by
  simp [staysWithin, within, later]

theorem le_of_staysWithin (within : staysWithin limit nesting rest = true) :
    nesting ≤ limit := by
  cases rest <;> simp_all [staysWithin]

theorem staysWithin_laterItems {items : List Value} (deeper : nesting < limit)
    (all : ∀ item ∈ items, item.StaysInside limit (nesting + 1))
    (later : staysWithin limit nesting rest = true) :
    staysWithin limit (nesting + 1) (laterItems items ++ rest) = true := by
  induction items with
  | nil => exact staysWithin_cons deeper later
  | cons item items ih =>
      obtain ⟨first, others⟩ := List.forall_mem_cons.1 all
      simp only [laterItems, List.cons_append, List.append_assoc]
      exact staysWithin_cons deeper (first _ (ih others))

theorem staysWithin_laterMembers {members : List Member}
    (deeper : nesting < limit)
    (all : ∀ member ∈ members, member.2.StaysInside limit (nesting + 1))
    (later : staysWithin limit nesting rest = true) :
    staysWithin limit (nesting + 1) (laterMembers members ++ rest) = true := by
  induction members with
  | nil => exact staysWithin_cons deeper later
  | cons member members ih =>
      obtain ⟨first, others⟩ := List.forall_mem_cons.1 all
      simp only [laterMembers, List.cons_append, List.append_assoc]
      exact staysWithin_cons deeper (staysWithin_cons deeper
        (staysWithin_cons deeper (first _ (ih others))))

theorem Fits.staysInside {levels : Nat} {value : Value}
    (fits : value.Fits levels) (room : nesting + levels ≤ limit) :
    value.StaysInside limit nesting := by
  induction fits generalizing nesting with
  | null | bool | number | string =>
      intro rest later
      exact staysWithin_cons (le_of_staysWithin later) later
  | array levels items all ih =>
      intro rest later
      have deeper : nesting < limit := by omega
      have inside (item : Value) (isItem : item ∈ items) :
          item.StaysInside limit (nesting + 1) := ih item isItem (by omega)
      cases items with
      | nil =>
          exact staysWithin_cons (Nat.le_of_lt deeper)
            (staysWithin_cons deeper later)
      | cons item items =>
          obtain ⟨first, others⟩ := List.forall_mem_cons.1 inside
          simp only [tokens, List.cons_append, List.append_assoc]
          exact staysWithin_cons (Nat.le_of_lt deeper)
            (first _ (staysWithin_laterItems deeper others later))
  | object levels members named all ih =>
      intro rest later
      have deeper : nesting < limit := by omega
      have inside (member : Member) (isMember : member ∈ members) :
          member.2.StaysInside limit (nesting + 1) :=
        ih member isMember (by omega)
      cases members with
      | nil =>
          exact staysWithin_cons (Nat.le_of_lt deeper)
            (staysWithin_cons deeper later)
      | cons member members =>
          obtain ⟨first, others⟩ := List.forall_mem_cons.1 inside
          simp only [tokens, List.cons_append, List.append_assoc]
          exact staysWithin_cons (Nat.le_of_lt deeper) (staysWithin_cons deeper
            (staysWithin_cons deeper (first _
              (staysWithin_laterMembers deeper others later))))

theorem Fits.areStorable {value : Value} (fits : value.Fits nestingLimit) :
    areStorable value.tokens = true := by
  have inside : value.StaysInside nestingLimit 0 :=
    fits.staysInside (Nat.le_of_eq (Nat.zero_add _))
  have within := inside [] rfl
  rw [List.append_nil] at within
  rw [Json.areStorable, within, Bool.and_true]
  exact List.all_eq_true.2 fits.isStorable

/-- Whoever reads a text that stands for a value into memory finds the value, or
finds that it does not fit. -/
theorem readStorable?_of_spelledBy {value : Value} {text : String}
    (spelled : value.SpelledBy text) :
    readStorable? text =
      if areStorable value.tokens then some value else none := by
  simp only [readStorable?, ofText?_of_spelledBy spelled, Option.bind_eq_bind,
    Option.bind_some, ofTokens?_tokens]

end Value

end CreationCommit.Json
