import CreationCommit.Json.Value

/-!
# Records in JSON

A record has named fields in an order.  It is written either as an object,
where fields stand in any order, each at most once, and other members do not
matter as long as their names are texts, or as an array that gives the fields
in their order and may stop early.

A field is read by a reader for its type; an optional field has a value for
when it is not given.
-/

namespace CreationCommit.Json.Value

/-- Whether a value has the form of a record with the given fields. -/
def isRecord (fields : List String) : Value → Bool
  | array items => items.length ≤ fields.length
  | object members =>
      members.all (fun member => member.1.isSome) &&
        fields.all fun field =>
          members.countP (fun member => member.1 = some field) ≤ 1
  | _ => false

def given? (fields : List String) (field : String) : Value → Option Value
  | array items => items[fields.idxOf field]?
  | object members =>
      (members.find? fun member => member.1 = some field).map (·.2)
  | _ => none

def required? {α : Type} (fields : List String) (field : String)
    (reader : Value → Option α) (record : Value) : Option α :=
  (record.given? fields field).bind reader

/-- Read a field that stands for `default` when it is not given. -/
def optional? {α : Type} (fields : List String) (field : String)
    (reader : Value → Option α) (default : α) (record : Value) : Option α :=
  match record.given? fields field with
  | none => some default
  | some value => reader value

def toBool? : Value → Option Bool
  | bool value => some value
  | _ => none

def toText? : Value → Option String
  | string text => text
  | _ => none

/-- Read a text or its absence, which may be written as null. -/
def toOptionalText? : Value → Option (Option String)
  | null => some none
  | value => value.toText?.map some

def toWord? : Value → Option UInt64
  | number numeral => do
      let value ← numeral.natural?
      if value < UInt64.size then some (UInt64.ofNat value) else none
  | _ => none

def toInt64? : Value → Option Int64
  | number numeral => do
      let value ← numeral.integer?
      if Int64.minValue.toInt ≤ value ∧ value ≤ Int64.maxValue.toInt then
        some (Int64.ofInt value)
      else
        none
  | _ => none

def toByte? : Value → Option UInt8
  | number numeral => do
      let value ← numeral.natural?
      if value < UInt8.size then some (UInt8.ofNat value) else none
  | _ => none

/-- Read bytes, which are written as an array or as the text they encode. -/
def toBytes? : Value → Option (List UInt8)
  | array items => items.mapM toByte?
  | string text => text.map (·.toUTF8.toList)
  | _ => none

def ofText (text : String) : Value :=
  string (some text)

def ofInt (value : Int) : Value :=
  number (.ofInt value)

def ofBytes (bytes : List UInt8) : Value :=
  array (bytes.map fun byte => ofInt byte.toNat)

def ofFields (fields : List (String × Value)) : Value :=
  object (fields.map fun field => (some field.1, field.2))

end CreationCommit.Json.Value
