import CreationCommit.Json.Value

/-!
# Storable texts of JSON

A text can be stored as a value in memory if its numbers fit integers or
doubles, its strings and names are texts, and its nesting does not pass a
limit.  All of this shows in the tokens.
-/

namespace CreationCommit.Json

/-- The greatest number of arrays and objects that may be open at a time. -/
def nestingLimit : Nat :=
  127

/-- Whether a token by itself can be stored. -/
def Token.isStorable : Token → Bool
  | number numeral => numeral.isStorable
  | string text => text.isSome
  | _ => true

def Token.nestingAfter (nesting : Nat) : Token → Nat
  | openArray => nesting + 1
  | openObject => nesting + 1
  | closeArray => nesting - 1
  | closeObject => nesting - 1
  | _ => nesting

/-- Whether tokens stay within the nesting limit when some arrays and objects
are open already. -/
def staysWithin (limit : Nat) : Nat → List Token → Bool
  | nesting, [] => nesting ≤ limit
  | nesting, token :: rest =>
      nesting ≤ limit && staysWithin limit (token.nestingAfter nesting) rest

def areStorable (tokens : List Token) : Bool :=
  tokens.all Token.isStorable && staysWithin nestingLimit 0 tokens

def Value.readStorable? (text : String) : Option Value := do
  let tokens ← Token.ofText? text.toList
  if areStorable tokens then ofTokens? tokens else none

end CreationCommit.Json
