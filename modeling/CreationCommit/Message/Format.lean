import CreationCommit.Json.Printer
import CreationCommit.Json.Record
import CreationCommit.Json.Storable
import CreationCommit.Message.Basic

/-!
# Messages as JSON

A message is written as an object whose first member is its type, followed by
the fields of that type; the cause of a refusal is left out of a yes vote.  It
is read from any record with a type and these fields, provided that the text
can be stored.
-/

namespace CreationCommit

namespace MessageKind

def typeField : String :=
  "type"

/-- The fields of a message of a kind, its type first. -/
def fields : MessageKind → List String
  | request => [typeField, "sender", "object_id", "payload"]
  | vote => [typeField, "from", "object_id", "sequence", "failure_cause"]
  | notice _ => [typeField, "object_id"]

end MessageKind

namespace Message

open Json (Value)

/-- The fields of a message in the order in which they are written. -/
def toFields : Message → List (String × Value)
  | .request ask =>
      [("sender", .ofText ask.sender.name),
        ("object_id", .ofText ask.objectId.name),
        ("payload", .ofBytes ask.payload)]
  | .vote ballot =>
      [("from", .ofText ballot.voter.name),
        ("object_id", .ofText ballot.objectId.name),
        ("sequence", .ofInt ballot.sequence.toInt)] ++
        (match ballot.refusal with
        | none => []
        | some cause => [("failure_cause", .ofText cause)])
  | .notice _ objectId => [("object_id", .ofText objectId.name)]

def toValue (message : Message) : Value :=
  .ofFields
    ((MessageKind.typeField, .ofText message.kind.name) :: message.toFields)

def toText (message : Message) : String :=
  message.toValue.toCompactText

def ofRecord? (kind : MessageKind) (record : Value) : Option Message := do
  let fields := kind.fields
  let objectId ← record.required? fields "object_id" Value.toText?
  match kind with
  | .request =>
      let sender ← record.required? fields "sender" Value.toText?
      let payload ← record.required? fields "payload" Value.toBytes?
      return .request { sender := ⟨sender⟩, objectId := ⟨objectId⟩, payload }
  | .vote =>
      let voter ← record.required? fields "from" Value.toText?
      let sequence ← record.required? fields "sequence" Value.toInt64?
      let refusal ←
        record.optional? fields "failure_cause" Value.toOptionalText? none
      return .vote
        { voter := ⟨voter⟩, objectId := ⟨objectId⟩, sequence, refusal }
  | .notice decision => return .notice decision ⟨objectId⟩

/-- The kind of message that a record names as its type. -/
def kindOf? (record : Value) : Option MessageKind := do
  let name ←
    record.required? [MessageKind.typeField] MessageKind.typeField Value.toText?
  MessageKind.ofName? name

def ofValue? (value : Value) : Option Message := do
  let kind ← kindOf? value
  if value.isRecord kind.fields then ofRecord? kind value else none

def ofText? (text : String) : Option Message := do
  ofValue? (← Value.readStorable? text)

end Message

end CreationCommit
