import CreationCommit.Proofs.JsonRecords

/-!
# A layout stands for the value

A value that is laid out over lines is written by the tokens that write it
compactly, only with blanks between them.  So the layout stands for the value at
whatever level it begins, as long as its numerals are ones that can be read.
-/

namespace CreationCommit.Json

namespace Token

/-- The text writes the tokens one after the other, with any blanks around
them. -/
inductive Padded : List Token → List Char → Prop
  | nil : Padded [] []
  | blank {tokens : List Token} {text : List Char} (c : Char)
      (isBlank : isBlank c = true) (others : Padded tokens text) :
      Padded tokens (c :: text)
  | cons {tokens : List Token} {text : List Char} (token : Token)
      (others : Padded tokens text) :
      Padded (token :: tokens) (token.write ++ text)

namespace Padded

variable {token : Token} {tokens later : List Token} {text rest : List Char}

theorem single (token : Token) : Padded [token] token.write := by
  have padded := cons token nil
  rwa [List.append_nil] at padded

theorem append (first : Padded tokens text) (second : Padded later rest) :
    Padded (tokens ++ later) (text ++ rest) := by
  induction first with
  | nil => exact second
  | blank c isBlank others ih => exact .blank c isBlank ih
  | cons token others ih =>
      rw [List.append_assoc]
      exact .cons token ih

theorem newLine (level : Nat) (others : Padded tokens text) :
    Padded tokens (Value.newLine level ++ text) := by
  refine .blank '\n' rfl ?_
  induction 2 * level with
  | zero => exact others
  | succ count ih => exact .blank ' ' rfl ih

theorem spell (padded : Padded tokens text)
    (proper : ∀ token ∈ tokens, token.IsProper) : Spell tokens text := by
  induction padded with
  | nil => exact .nil
  | blank c isBlank others ih => exact .blank c isBlank (ih proper)
  | cons token others ih =>
      obtain ⟨first, later⟩ := List.forall_mem_cons.1 proper
      exact .cons first.spelled_write (ih later)

end Padded

end Token

namespace Value

open Token (Padded)

theorem padded_layOutItems {items : List Value}
    (padded : ∀ item ∈ items, ∀ level, Padded item.tokens (item.layOut level))
    (level : Nat) : Padded (laterItems items) (layOutItems level items) := by
  induction items with
  | nil => exact .newLine level (.single .closeArray)
  | cons item items ih =>
      obtain ⟨first, others⟩ := List.forall_mem_cons.1 padded
      simp only [layOutItems, List.cons_append, List.append_assoc]
      exact .cons .comma (.newLine _ ((first _).append (ih others)))

theorem padded_layOutMembers {members : List Member}
    (padded : ∀ member ∈ members,
      ∀ level, Padded member.2.tokens (member.2.layOut level)) (level : Nat) :
    Padded (laterMembers members) (layOutMembers level members) := by
  induction members with
  | nil => exact .newLine level (.single .closeObject)
  | cons member members ih =>
      obtain ⟨first, others⟩ := List.forall_mem_cons.1 padded
      simp only [layOutMembers, List.cons_append, List.append_assoc]
      exact .cons .comma (.newLine _ (.cons (.string member.1) (.cons .colon
        (.blank ' ' rfl ((first _).append (ih others))))))

/-- A value is laid out by writing its tokens with blanks between them. -/
theorem padded_layOut (value : Value) (level : Nat) :
    Padded value.tokens (value.layOut level) := by
  induction value using induction generalizing level with
  | null => exact .single .null
  | bool value => exact .single (.bool value)
  | number numeral => exact .single (.number numeral)
  | string text => exact .single (.string text)
  | array items padded =>
      cases items with
      | nil => exact .cons .openArray (.single .closeArray)
      | cons item items =>
          obtain ⟨first, others⟩ := List.forall_mem_cons.1 padded
          simp only [layOut, tokens, List.cons_append, List.append_assoc]
          exact .cons .openArray (.newLine _
            ((first _).append (padded_layOutItems others level)))
  | object members padded =>
      cases members with
      | nil => exact .cons .openObject (.single .closeObject)
      | cons member members =>
          obtain ⟨first, others⟩ := List.forall_mem_cons.1 padded
          simp only [layOut, tokens, List.cons_append, List.append_assoc]
          exact .cons .openObject (.newLine _ (.cons (.string member.1)
            (.cons .colon (.blank ' ' rfl
              ((first _).append (padded_layOutMembers others level))))))

/-- The pretty text of a value stands for it. -/
theorem spelledBy_toPrettyText {value : Value} (proper : value.IsProper) :
    value.SpelledBy value.toPrettyText := by
  rw [SpelledBy, toPrettyText, String.toList_ofList]
  exact (padded_layOut value 0).spell proper

/-- Whoever reads the pretty text of a value finds the value. -/
theorem read?_toPrettyText {value : Value} (proper : value.IsProper) :
    read? value.toPrettyText = some value :=
  read?_of_spelledBy (spelledBy_toPrettyText proper)

end Value

end CreationCommit.Json
