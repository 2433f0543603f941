import CreationCommit.Json.Token

/-!
# Values of JSON

A value is built from tokens, one after the other.  What is open around the
place that the next token fills is kept as a stack of frames, so that nesting
has no limit.  A member's name is a text like any string, and an object may
repeat a name.
-/

namespace CreationCommit.Json

/-- A value of JSON; a string holds its text, or nothing if it has none. -/
inductive Value
  | null
  | bool (value : Bool)
  | number (numeral : Numeral)
  | string (text : Option String)
  | array (items : List Value)
  | object (members : List (Option String × Value))

/-- A member of an object. -/
abbrev Member :=
  Option String × Value

/-- An open array with its items, or an open object with its members and the
name of the next one, the newest first. -/
inductive Frame
  | array (items : List Value)
  | member (members : List Member) (name : Option String)

/-- What has been built and what may come next. -/
inductive Building
  | value (frames : List Frame)
  | firstItem (frames : List Frame)
  | afterItem (items : List Value) (frames : List Frame)
  | firstName (frames : List Frame)
  | nextName (members : List Member) (frames : List Frame)
  | afterName (members : List Member) (name : Option String)
      (frames : List Frame)
  | afterMember (members : List Member) (frames : List Frame)
  | complete (value : Value)

namespace Building

/-- Put a complete value where the innermost frame wants it. -/
def place (value : Value) : List Frame → Building
  | [] => complete value
  | .array items :: frames => afterItem (value :: items) frames
  | .member members name :: frames => afterMember ((name, value) :: members) frames

def begin? (frames : List Frame) : Token → Option Building
  | .null => some (place .null frames)
  | .bool flag => some (place (.bool flag) frames)
  | .number numeral => some (place (.number numeral) frames)
  | .string text => some (place (.string text) frames)
  | .openArray => some (firstItem frames)
  | .openObject => some (firstName frames)
  | _ => none

def take? : Building → Token → Option Building
  | value frames, token => begin? frames token
  | firstItem frames, .closeArray => some (place (.array []) frames)
  | firstItem frames, token => begin? (.array [] :: frames) token
  | afterItem items frames, .comma => some (value (.array items :: frames))
  | afterItem items frames, .closeArray =>
      some (place (.array items.reverse) frames)
  | firstName frames, .closeObject => some (place (.object []) frames)
  | firstName frames, .string name => some (afterName [] name frames)
  | nextName members frames, .string name =>
      some (afterName members name frames)
  | afterName members name frames, .colon =>
      some (value (.member members name :: frames))
  | afterMember members frames, .comma => some (nextName members frames)
  | afterMember members frames, .closeObject =>
      some (place (.object members.reverse) frames)
  | _, _ => none

def value? : Building → Option Value
  | .complete result => some result
  | _ => none

end Building

namespace Value

def ofTokens? (tokens : List Token) : Option Value := do
  let building ← tokens.foldlM Building.take? (.value [])
  building.value?

def read? (text : String) : Option Value := do
  ofTokens? (← Token.ofText? text.toList)

end Value

end CreationCommit.Json
