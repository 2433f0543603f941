import CreationCommit.Json.Value

/-!
# Written values of JSON

A value is written compactly, without any blank, or laid out with one item or
member a line, each level indented by two more blanks.  An empty array or
object stays on its line in both forms.  A string without text is written as a
lone surrogate.
-/

namespace CreationCommit.Json

def Exponent.write (exponent : Exponent) : List Char :=
  'e' :: (if exponent.negative then ['-'] else []) ++ exponent.digits

def Numeral.write (numeral : Numeral) : List Char :=
  (if numeral.negative then ['-'] else []) ++ numeral.whole ++
    (match numeral.fraction with
    | none => []
    | some digits => '.' :: digits) ++
    (match numeral.exponent with
    | none => []
    | some exponent => exponent.write)

def writeText : Option String → List Char
  | some text => quoteText text.toList
  | none => ['"', '\\', 'u', 'd', '8', '0', '0', '"']

namespace Value

def writeLeaf : Value → List Char
  | null => ['n', 'u', 'l', 'l']
  | bool true => ['t', 'r', 'u', 'e']
  | bool false => ['f', 'a', 'l', 's', 'e']
  | number numeral => numeral.write
  | string text => writeText text
  | array _ => ['[', ']']
  | object _ => ['\x7b', '\x7d']

mutual

/-- A value without any blank. -/
def compact : Value → List Char
  | array (item :: items) =>
      '[' :: item.compact ++ compactItems items
  | object ((name, value) :: members) =>
      '\x7b' :: writeText name ++ ':' :: value.compact ++ compactMembers members
  | leaf => leaf.writeLeaf

def compactItems : List Value → List Char
  | [] => [']']
  | item :: items => ',' :: item.compact ++ compactItems items

/-- The members after the first, and the end of the object. -/
def compactMembers : List (Option String × Value) → List Char
  | [] => ['\x7d']
  | (name, value) :: members =>
      ',' :: writeText name ++ ':' :: value.compact ++ compactMembers members

end

def newLine (level : Nat) : List Char :=
  '\n' :: List.replicate (2 * level) ' '

mutual

/-- A value laid out over lines, inside the given number of levels. -/
def layOut (level : Nat) : Value → List Char
  | array (item :: items) =>
      '[' :: newLine (level + 1) ++ item.layOut (level + 1) ++
        layOutItems level items
  | object ((name, value) :: members) =>
      '\x7b' :: newLine (level + 1) ++ writeText name ++
        ':' :: ' ' :: value.layOut (level + 1) ++ layOutMembers level members
  | leaf => leaf.writeLeaf

def layOutItems (level : Nat) : List Value → List Char
  | [] => newLine level ++ [']']
  | item :: items =>
      ',' :: newLine (level + 1) ++ item.layOut (level + 1) ++
        layOutItems level items

/-- The members after the first, and the end of the object. -/
def layOutMembers (level : Nat) : List (Option String × Value) → List Char
  | [] => newLine level ++ ['\x7d']
  | (name, value) :: members =>
      ',' :: newLine (level + 1) ++ writeText name ++
        ':' :: ' ' :: value.layOut (level + 1) ++ layOutMembers level members

end

def toCompactText (value : Value) : String :=
  String.ofList value.compact

def toPrettyText (value : Value) : String :=
  String.ofList (value.layOut 0)

end Value

end CreationCommit.Json
