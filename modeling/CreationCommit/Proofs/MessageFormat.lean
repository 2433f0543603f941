import CreationCommit.Message.Format
import CreationCommit.Proofs.JsonRecords

/-!
# Messages survive being written

A message is written as an object of its type and its fields, which is no record
with a doubled field and fits well within the limits.  Whoever reads the text
finds the message again, so different messages are written differently, and a
vote without a cause is not one with an empty cause.

Other texts present a message too.  The members of the object may stand in any
order and among members that the kind of message does not know, or the fields
may stand in an array without their names.  All of these are read as the message.
But if its type or a mandatory field is taken away, or if its type or a field is
repeated, nothing is read.
-/

namespace CreationCommit

namespace MessageKind

/-- The fields that a message of a kind cannot do without, its type first. -/
def mandatory : MessageKind → List String
  | request => request.fields
  | vote => [typeField, "from", "object_id", "sequence"]
  | notice decision => (notice decision).fields

end MessageKind

namespace Message

open Json (Member Value nestingLimit)
open Json.Value (bearing)

/-- The fields that are written of a message, its type first. -/
def writtenFields : Message → List String
  | .vote ballot => if ballot.isYes then MessageKind.vote.mandatory
      else MessageKind.vote.fields
  | message => message.kind.fields

/-- The members of the object as which a message is written. -/
def members (message : Message) : List Member :=
  ((MessageKind.typeField, .ofText message.kind.name) :: message.toFields).map
    fun field => (some field.1, field.2)

theorem toValue_eq (message : Message) : message.toValue = .object message.members :=
  rfl

theorem names_members (message : Message) :
    message.members.map (·.1) = message.writtenFields.map some := by
  rcases message with _ | ⟨_, _, _, _ | _⟩ | _ <;> rfl

theorem nodup_names (message : Message) :
    (message.members.map (·.1)).Nodup := by
  rcases message with _ | ⟨_, _, _, _ | _⟩ | _ <;>
    simp [members, toFields, MessageKind.typeField]

theorem isProper_toValue (message : Message) : message.toValue.IsProper := by
  apply Json.Value.isProper_object
  rcases message with _ | ⟨_, _, _, _ | _⟩ | _ <;>
    simp [toFields, Json.Value.isProper_ofText, Json.Value.isProper_ofInt,
      Json.Value.isProper_ofBytes]

theorem fits_members (message : Message) :
    ∀ member ∈ message.members,
      member.1.isSome = true ∧ member.2.Fits (nestingLimit - 1) := by
  have room : 0 < nestingLimit - 1 := by decide
  rcases message with _ | ⟨_, _, _, _ | _⟩ | _ <;>
    simp [members, toFields, Json.Value.fits_ofText, Json.Value.fits_ofInt64,
      Json.Value.fits_ofBytes room]

/-- Whether a record is a message of a kind depends on its fields only. -/
theorem ofRecord?_congr {kind : MessageKind} {record other : Value}
    (same : ∀ field ∈ kind.fields,
      record.given? kind.fields field = other.given? kind.fields field) :
    ofRecord? kind record = ofRecord? kind other := by
  cases kind <;>
    simp_all [ofRecord?, MessageKind.fields, Value.required?, Value.optional?]

theorem ofRecord?_of_absent {kind : MessageKind} {record : Value} {field : String}
    (isMandatory : field ∈ kind.mandatory)
    (noType : field ≠ MessageKind.typeField)
    (absent : record.given? kind.fields field = none) :
    ofRecord? kind record = none := by
  cases kind with
  | request =>
      simp only [MessageKind.mandatory, MessageKind.fields, List.mem_cons, noType,
        false_or, List.not_mem_nil, or_false] at isMandatory
      rcases isMandatory with rfl | rfl | rfl <;>
        simp [ofRecord?, Value.required?, absent]
  | vote =>
      simp only [MessageKind.mandatory, List.mem_cons, noType, false_or,
        List.not_mem_nil, or_false] at isMandatory
      rcases isMandatory with rfl | rfl | rfl <;>
        simp [ofRecord?, Value.required?, absent]
  | notice decision =>
      simp only [MessageKind.mandatory, MessageKind.fields, List.mem_cons, noType,
        false_or, List.not_mem_nil, or_false] at isMandatory
      subst isMandatory
      simp [ofRecord?, Value.required?, absent]

theorem kindOf?_toValue (message : Message) :
    kindOf? message.toValue = some message.kind := by
  simp [kindOf?, toValue_eq, members, Value.required?, Value.given?,
    Json.Value.toText?_ofText, MessageKind.ofName?_name]

theorem ofRecord?_toValue (message : Message) :
    ofRecord? message.kind message.toValue = some message := by
  rcases message with _ | ⟨_, _, _, _ | _⟩ | _ <;>
    simp [ofRecord?, toValue_eq, members, toFields, kind, MessageKind.typeField,
      Value.required?, Value.optional?, Value.given?,
      Json.Value.toText?_ofText, Json.Value.toBytes?_ofBytes,
      Json.Value.toInt64?_ofInt, Json.Value.toOptionalText?_ofText]

theorem isRecord_toValue (message : Message) :
    message.toValue.isRecord message.kind.fields = true := by
  rw [toValue_eq, Json.Value.isRecord_object]
  exact ⟨fun member isMember => (message.fits_members member isMember).1,
    fun field _ => Json.Value.length_bearing_le_one message.nodup_names⟩

theorem ofValue?_of_kind {kind : MessageKind} {record : Value}
    (isKind : kindOf? record = some kind) :
    ofValue? record =
      if record.isRecord kind.fields then ofRecord? kind record else none := by
  simp only [ofValue?, isKind, Option.bind_eq_bind, Option.bind_some]

/-- Nothing is read when the kind of message that is named refuses the record. -/
theorem ofValue?_eq_none {record : Value}
    (refused : ∀ kind, kindOf? record = some kind →
      record.isRecord kind.fields = true → ofRecord? kind record = none) :
    ofValue? record = none := by
  cases isKind : kindOf? record with
  | none => simp only [ofValue?, isKind, Option.bind_eq_bind, Option.bind_none]
  | some kind =>
      rw [ofValue?_of_kind isKind]
      split
      · rename_i isRecord
        exact refused kind isKind isRecord
      · rfl

theorem ofValue?_toValue (message : Message) :
    ofValue? message.toValue = some message := by
  rw [ofValue?_of_kind message.kindOf?_toValue, message.isRecord_toValue,
    message.ofRecord?_toValue, if_pos rfl]

/-- Whoever reads a text that stands for a value that fits reads the value. -/
theorem ofText?_of_fits {value : Value} {text : String}
    (spelled : value.SpelledBy text) (fits : value.Fits nestingLimit) :
    ofText? text = ofValue? value := by
  simp only [ofText?, Json.Value.readStorable?_of_spelledBy spelled,
    fits.areStorable, if_true, Option.bind_eq_bind, Option.bind_some]

theorem ofText?_eq_none {value : Value} {text : String}
    (spelled : value.SpelledBy text) (unreadable : ofValue? value = none) :
    ofText? text = none := by
  rw [ofText?, Json.Value.readStorable?_of_spelledBy spelled]
  split <;> simp [unreadable]

theorem fits_toValue (message : Message) : message.toValue.Fits nestingLimit :=
  .object _ message.members
    (fun member isMember => (message.fits_members member isMember).1)
    (fun member isMember => (message.fits_members member isMember).2)

theorem ofText?_toText (message : Message) :
    ofText? message.toText = some message := by
  have spelled : message.toValue.SpelledBy message.toText :=
    Json.Value.spelledBy_toCompactText message.isProper_toValue
  rw [ofText?_of_fits spelled message.fits_toValue, ofValue?_toValue]

/-- The text of a message is compact and stands for an object of its type and its
fields, where the cause of a refusal is left out of a yes vote and the payload is
an array of numbers.  It is read as the message.  So different messages have
different texts, a vote without a cause and one with an empty cause among them. -/
theorem read_as_written :
    (∀ message : Message,
      message.toText = (Value.object message.members).toCompactText ∧
        message.members.map (·.1) = message.writtenFields.map some ∧
        message.members.head? =
          some (some MessageKind.typeField, .ofText message.kind.name) ∧
        ofText? message.toText = some message) ∧
      (∀ ask : CreationRequest,
        (some "payload", Value.array (ask.payload.map fun byte =>
          .number (.ofInt byte.toNat))) ∈ (request ask).members) ∧
      Function.Injective toText ∧
      ∀ ballot : Vote,
        (vote { ballot with refusal := none }).toText ≠
          (vote { ballot with refusal := some "" }).toText := by
  have injective : Function.Injective toText := by
    intro message other same
    have read := message.ofText?_toText
    rw [same, other.ofText?_toText] at read
    exact (Option.some.inj read).symm
  refine ⟨fun message =>
    ⟨rfl, message.names_members, rfl, message.ofText?_toText⟩, ?_, injective, ?_⟩
  · intro ask
    simp [members, toFields, Value.ofBytes, Value.ofInt]
  · intro ballot same
    have votes := injective same
    simp at votes

example :
    toText (.vote
      { voter := ⟨"p"⟩, objectId := ⟨"\n"⟩, sequence := -1, refusal := some "" }) =
      "\x7b\"type\":\"create_response\",\"from\":\"p\",\"object_id\":\"\\n\"," ++
        "\"sequence\":-1,\"failure_cause\":\"\"\x7d" := by
  decide

/-- The items of the array that lists the written fields without their names. -/
def items (message : Message) : List Value :=
  message.members.map (·.2)

/-- The value presents the message: it is an object of its members and others
whose names its kind does not know, in any order, or the array of its fields in
their order, where a yes vote may list null for its cause. -/
inductive Presents (message : Message) : Value → Prop
  | object (members extras : List Member)
      (arranged : members.Perm (message.members ++ extras))
      (unknown : ∀ extra ∈ extras,
        ∃ name, extra.1 = some name ∧ name ∉ message.kind.fields)
      (fit : ∀ extra ∈ extras, extra.2.Fits (nestingLimit - 1)) :
      Presents message (.object members)
  | listed : Presents message (.array message.items)
  | listedYes (ballot : Vote) (isVote : message = vote ballot)
      (isYes : ballot.isYes = true) :
      Presents message (.array (message.items ++ [.null]))

/-- The value is no presentation of the message any more: a mandatory field is
taken away from one, or a field that is given there is given again. -/
inductive Spoiled (message : Message) : Value → Prop
  | bereft (members : List Member) (presents : message.Presents (.object members))
      (field : String) (isMandatory : field ∈ message.kind.mandatory) :
      Spoiled message
        (.object (members.filter fun member => member.1 ≠ some field))
  | doubled (members : List Member)
      (presents : message.Presents (.object members)) (field : String)
      (known : field ∈ message.kind.fields) (once again : Value)
      (given : (some field, once) ∈ members) (others : List Member)
      (arranged : others.Perm ((some field, again) :: members)) :
      Spoiled message (.object others)
  | listedBereft (items : List Value) (presents : message.Presents (.array items))
      (index : Nat) (isMandatory : index < message.kind.mandatory.length) :
      Spoiled message (.array (items.eraseIdx index))
  | listedDoubled (items : List Value) (presents : message.Presents (.array items))
      (index : Nat) (inside : index < items.length) :
      Spoiled message (.array (items.take (index + 1) ++ items.drop index))

theorem type_mem_fields (kind : MessageKind) :
    MessageKind.typeField ∈ kind.fields := by
  cases kind <;> exact List.mem_cons_self

section Objects

variable {message : Message} {members others : List Member}

theorem Presents.bearing_eq (presents : message.Presents (.object members))
    {field : String} (known : field ∈ message.kind.fields) :
    bearing field members = bearing field message.members := by
  cases presents with
  | object members extras arranged unknown fit =>
      apply Json.Value.bearing_of_perm arranged
      · intro extra isExtra bears
        obtain ⟨name, named, notKnown⟩ := unknown extra isExtra
        rw [named, Option.some.injEq] at bears
        exact notKnown (bears ▸ known)
      · exact Json.Value.length_bearing_le_one message.nodup_names

theorem Presents.fits_members (presents : message.Presents (.object members)) :
    ∀ member ∈ members,
      member.1.isSome = true ∧ member.2.Fits (nestingLimit - 1) := by
  cases presents with
  | object members extras arranged unknown fit =>
      intro member isMember
      rcases List.mem_append.1 (arranged.subset isMember) with isOwn | isExtra
      · exact message.fits_members member isOwn
      · obtain ⟨name, named, -⟩ := unknown member isExtra
        rw [named]
        exact ⟨rfl, fit member isExtra⟩

/-- The type of an object is that of its members that bear the name. -/
theorem kindOf?_congr (same : bearing MessageKind.typeField members =
      bearing MessageKind.typeField others) :
    kindOf? (.object members) = kindOf? (.object others) := by
  rw [kindOf?, kindOf?, Value.required?, Value.required?,
    Json.Value.given?_object_congr same]

theorem Presents.kindOf? (presents : message.Presents (.object members)) :
    kindOf? (.object members) = some message.kind := by
  rw [kindOf?_congr (presents.bearing_eq (type_mem_fields _)), ← toValue_eq,
    kindOf?_toValue]

theorem Presents.ofValue?_object (presents : message.Presents (.object members)) :
    ofValue? (.object members) = some message := by
  have isRecord : (Value.object members).isRecord message.kind.fields = true := by
    refine Json.Value.isRecord_object.2
      ⟨fun member isMember => (presents.fits_members member isMember).1, ?_⟩
    intro field known
    rw [presents.bearing_eq known]
    exact Json.Value.length_bearing_le_one message.nodup_names
  rw [ofValue?_of_kind presents.kindOf?, if_pos isRecord,
    ← message.ofRecord?_toValue]
  exact ofRecord?_congr fun field known =>
    Json.Value.given?_object_congr (presents.bearing_eq known)

theorem Presents.ofValue?_bereft (presents : message.Presents (.object members))
    {field : String} (isMandatory : field ∈ message.kind.mandatory) :
    ofValue? (.object (members.filter fun member => member.1 ≠ some field)) =
      none := by
  have absent (fields : List String) :
      (Value.object (members.filter fun member =>
        member.1 ≠ some field)).given? fields field = none := by
    rw [Json.Value.given?_object, Json.Value.bearing_filter_self]
    rfl
  apply ofValue?_eq_none
  intro kind isKind isRecord
  by_cases isType : field = MessageKind.typeField
  · subst isType
    rw [Message.kindOf?, Value.required?, absent] at isKind
    cases isKind
  · rw [kindOf?_congr (Json.Value.bearing_filter_ne (Ne.symm isType)),
      presents.kindOf?] at isKind
    obtain rfl : message.kind = kind := Option.some.inj isKind
    exact ofRecord?_of_absent isMandatory isType (absent _)

/-- An object in which a known field is given twice is no message. -/
theorem Presents.ofValue?_doubled (presents : message.Presents (.object members))
    {field : String} (known : field ∈ message.kind.fields) {once again : Value}
    (given : (some field, once) ∈ members)
    (arranged : others.Perm ((some field, again) :: members)) :
    ofValue? (.object others) = none := by
  have twice : 2 ≤ (bearing field others).length := by
    have filtered := arranged.filter fun member => decide (member.1 = some field)
    have first : (some field, once) ∈ bearing field members := by
      simpa [bearing] using given
    rw [bearing, filtered.length_eq, List.filter_cons_of_pos (by simp)]
    exact Nat.succ_le_succ (List.length_pos_of_mem first)
  apply ofValue?_eq_none
  intro kind isKind isRecord
  have among : field ∈ kind.fields := by
    by_cases isType : field = MessageKind.typeField
    · exact isType ▸ type_mem_fields kind
    · have noExtra : ∀ extra ∈ [((some field : Option String), again)],
          extra.1 ≠ some MessageKind.typeField := by
        simpa using isType
      have once : (bearing MessageKind.typeField members).length ≤ 1 := by
        rw [presents.bearing_eq (type_mem_fields _)]
        exact Json.Value.length_bearing_le_one message.nodup_names
      rw [kindOf?_congr (Json.Value.bearing_of_perm
        (arranged.trans (List.perm_append_singleton _ _).symm) noExtra once),
        presents.kindOf?] at isKind
      exact Option.some.inj isKind ▸ known
  have atMostOnce := (Json.Value.isRecord_object.1 isRecord).2 field among
  omega

end Objects

theorem ofValue?_items (message : Message) :
    ofValue? (.array message.items) = some message := by
  rcases message with _ | ⟨_, _, _, _ | _⟩ | _ <;>
    simp [ofValue?, kindOf?, ofRecord?, items, members, toFields, kind,
      MessageKind.typeField, MessageKind.fields, MessageKind.ofName?_name,
      Value.isRecord, Value.required?, Value.optional?, Value.given?,
      Json.Value.toText?_ofText, Json.Value.toBytes?_ofBytes,
      Json.Value.toInt64?_ofInt, Json.Value.toOptionalText?_ofText]

theorem ofValue?_items_null {ballot : Vote} (isYes : ballot.isYes = true) :
    ofValue? (.array ((vote ballot).items ++ [.null])) = some (vote ballot) := by
  obtain ⟨voter, objectId, sequence, refusal⟩ := ballot
  obtain rfl : refusal = none := by simpa [Vote.isYes] using isYes
  simp [ofValue?, kindOf?, ofRecord?, items, members, toFields, kind,
    MessageKind.typeField, MessageKind.fields, MessageKind.ofName?_name,
    Value.isRecord, Value.required?, Value.optional?, Value.given?,
    Json.Value.toText?_ofText, Json.Value.toInt64?_ofInt, Value.toOptionalText?]

/-- An array of one item does not name an object. -/
theorem ofValue?_singleton (item : Value) : ofValue? (.array [item]) = none := by
  apply ofValue?_eq_none
  intro kind isKind isRecord
  have isMandatory : "object_id" ∈ kind.mandatory := by
    cases kind <;> simp [MessageKind.mandatory, MessageKind.fields]
  apply ofRecord?_of_absent isMandatory
  · decide
  · cases kind <;> rfl

/-- No kind of message has a third item that is not a text. -/
theorem ofValue?_of_third {first second third : Value} {others : List Value}
    (noText : third.toText? = none) :
    ofValue? (.array (first :: second :: third :: others)) = none := by
  apply ofValue?_eq_none
  intro kind isKind isRecord
  cases kind with
  | request | vote =>
      simp [ofRecord?, Value.required?, Value.given?, noText,
        MessageKind.fields, MessageKind.typeField]
  | notice decision => simp [Value.isRecord, MessageKind.fields] at isRecord

theorem kindOf?_array (kind : MessageKind) (others : List Value) :
    kindOf? (.array (.ofText kind.name :: others)) = some kind := by
  simp [kindOf?, Value.required?, Value.given?, Json.Value.toText?_ofText,
    MessageKind.ofName?_name]

/-- No message has more items than its kind has fields. -/
theorem ofValue?_of_length {kind : MessageKind} {others : List Value}
    (long : kind.fields.length < others.length + 1) :
    ofValue? (.array (.ofText kind.name :: others)) = none := by
  rw [ofValue?_of_kind (kindOf?_array kind others)]
  simp [Value.isRecord, Nat.not_le.2 long]

/-- If an array lists as many items as its kind has fields, none can be repeated. -/
theorem ofValue?_of_full (kind : MessageKind) {others : List Value} {index : Nat}
    (full : kind.fields.length ≤ others.length + 1)
    (inside : index < others.length + 1) :
    ofValue? (.array ((.ofText kind.name :: others).take (index + 1) ++
      (.ofText kind.name :: others).drop index)) = none := by
  rw [List.take_succ_cons, List.cons_append]
  apply ofValue?_of_length
  simp only [List.length_append, List.length_take, List.length_drop,
    List.length_cons]
  omega

/-- No request does without a payload. -/
theorem ofValue?_request_short (second third : Value) :
    ofValue? (.array [.ofText MessageKind.request.name, second, third]) = none := by
  have isMandatory : "payload" ∈ MessageKind.request.mandatory := by
    simp [MessageKind.mandatory, MessageKind.fields]
  apply ofValue?_eq_none
  intro kind isKind isRecord
  rw [kindOf?_array] at isKind
  obtain rfl : MessageKind.request = kind := Option.some.inj isKind
  exact ofRecord?_of_absent isMandatory (by decide) rfl

/-- A request's array without one of its items is no message. -/
theorem ofValue?_request_eraseIdx (second third : Value) {payload : Value}
    (noText : payload.toText? = none) {index : Nat} (isMandatory : index < 4) :
    ofValue? (.array ([.ofText MessageKind.request.name, second, third,
      payload].eraseIdx index)) = none := by
  match index, isMandatory with
  | 0, _ | 1, _ | 2, _ => exact ofValue?_of_third noText
  | 3, _ => exact ofValue?_request_short second third

/-- A notice's array without one of its items is no message. -/
theorem ofValue?_notice_eraseIdx (first second : Value) {index : Nat}
    (isMandatory : index < 2) :
    ofValue? (.array ([first, second].eraseIdx index)) = none := by
  match index, isMandatory with
  | 0, _ => exact ofValue?_singleton second
  | 1, _ => exact ofValue?_singleton first

/-- No vote has a fourth item that is not an integer. -/
theorem ofValue?_vote_fourth {second third : Value} {others : List Value}
    (noInteger : ∀ fourth ∈ others.head?, fourth.toInt64? = none) :
    ofValue? (.array (.ofText MessageKind.vote.name :: second :: third ::
      others)) = none := by
  rw [ofValue?_of_kind (kindOf?_array .vote (second :: third :: others))]
  cases others with
  | nil => simp [ofRecord?, Value.required?, Value.given?, MessageKind.fields,
      MessageKind.typeField]
  | cons fourth others =>
      simp [ofRecord?, Value.required?, Value.given?, MessageKind.fields,
        MessageKind.typeField, noInteger fourth rfl]

/-- No vote has a fifth item that is a number. -/
theorem ofValue?_vote_fifth (second third fourth : Value) (value : Int) :
    ofValue? (.array [.ofText MessageKind.vote.name, second, third, fourth,
      .ofInt value]) = none := by
  rw [ofValue?_of_kind (kindOf?_array .vote [second, third, fourth, .ofInt value])]
  simp [ofRecord?, Value.required?, Value.optional?, Value.given?,
    MessageKind.fields, MessageKind.typeField, Value.ofInt,
    Value.toOptionalText?, Value.toText?]

/-- A vote's array without one of the items before its cause is no message. -/
theorem ofValue?_vote_eraseIdx {voter objectId : String} {sequence : Int}
    {others : List Value} (noInteger : ∀ item ∈ others, item.toInt64? = none)
    {index : Nat} (isMandatory : index < 4) :
    ofValue? (.array ((.ofText MessageKind.vote.name :: .ofText voter ::
      .ofText objectId :: .ofInt sequence :: others).eraseIdx index)) = none := by
  match index, isMandatory with
  | 0, _ | 1, _ | 2, _ => exact ofValue?_of_third rfl
  | 3, _ =>
      apply ofValue?_vote_fourth
      intro fourth isNext
      exact noInteger fourth (List.mem_of_mem_head? isNext)

variable {message : Message} {items : List Value} {index : Nat}

theorem Presents.ofValue?_eraseIdx (presents : message.Presents (.array items))
    (isMandatory : index < message.kind.mandatory.length) :
    ofValue? (.array (items.eraseIdx index)) = none := by
  cases presents with
  | listed =>
      rcases message with ask | ⟨voter, objectId, sequence, refusal⟩ |
        ⟨decision, objectId⟩
      · exact ofValue?_request_eraseIdx _ _ rfl isMandatory
      · apply ofValue?_vote_eraseIdx _ isMandatory
        cases refusal <;> simp [Value.ofText, Value.toInt64?]
      · exact ofValue?_notice_eraseIdx _ _ isMandatory
  | listedYes ballot isVote isYes =>
      subst isVote
      obtain ⟨voter, objectId, sequence, refusal⟩ := ballot
      obtain rfl : refusal = none := by simpa [Vote.isYes] using isYes
      apply ofValue?_vote_eraseIdx _ isMandatory
      simp [Value.toInt64?]

theorem Presents.ofValue?_repeated (presents : message.Presents (.array items))
    (inside : index < items.length) :
    ofValue? (.array (items.take (index + 1) ++ items.drop index)) = none := by
  cases presents with
  | listed =>
      rcases message with ask | ⟨voter, objectId, sequence, _ | cause⟩ |
        ⟨decision, objectId⟩
      · exact ofValue?_of_full .request (Nat.le_refl _) inside
      · match index, inside with
        | 0, _ | 1, _ | 2, _ =>
            apply ofValue?_vote_fourth
            rintro _ ⟨⟩
            rfl
        | 3, _ => exact ofValue?_vote_fifth _ _ _ _
      · exact ofValue?_of_full .vote (Nat.le_refl _) inside
      · exact ofValue?_of_full (.notice decision) (Nat.le_refl _) inside
  | listedYes ballot isVote isYes =>
      subst isVote
      obtain ⟨voter, objectId, sequence, refusal⟩ := ballot
      obtain rfl : refusal = none := by simpa [Vote.isYes] using isYes
      exact ofValue?_of_full .vote (Nat.le_refl _) inside

theorem Presents.ofValue? {value : Value} (presents : message.Presents value) :
    ofValue? value = some message := by
  cases presents with
  | object members extras arranged unknown fit =>
      exact Presents.ofValue?_object (.object members extras arranged unknown fit)
  | listed => exact message.ofValue?_items
  | listedYes ballot isVote isYes =>
      subst isVote
      exact ofValue?_items_null isYes

theorem Presents.fits {value : Value} (presents : message.Presents value) :
    value.Fits nestingLimit := by
  have own : ∀ item ∈ message.items, item.Fits (nestingLimit - 1) := by
    intro item isItem
    obtain ⟨member, isMember, rfl⟩ := List.mem_map.1 isItem
    exact (message.fits_members member isMember).2
  cases presents with
  | object members extras arranged unknown fit =>
      have fits := Presents.fits_members
        (.object members extras arranged unknown fit)
      exact .object _ members (fun member isMember => (fits member isMember).1)
        (fun member isMember => (fits member isMember).2)
  | listed => exact .array _ _ own
  | listedYes =>
      apply Value.Fits.array
      exact List.forall_mem_append.2 ⟨own, by simpa using .null _⟩

theorem Spoiled.ofValue? {value : Value} (spoiled : message.Spoiled value) :
    ofValue? value = none := by
  cases spoiled with
  | bereft members presents field isMandatory =>
      exact presents.ofValue?_bereft isMandatory
  | doubled members presents field known once again given others arranged =>
      exact presents.ofValue?_doubled known given arranged
  | listedBereft items presents index isMandatory =>
      exact presents.ofValue?_eraseIdx isMandatory
  | listedDoubled items presents index inside =>
      exact presents.ofValue?_repeated inside

/-- Every text that presents a message is read as the message, however its tokens
are spelled and whatever blanks stand between them.  If its type or a mandatory
field is missing, or its type or a field is repeated, it is not read. -/
theorem read_if_complete {value : Value} {text : String}
    (spelled : value.SpelledBy text) (message : Message) :
    (message.Presents value → ofText? text = some message) ∧
      (message.Spoiled value → ofText? text = none) := by
  constructor
  · intro presents
    rw [ofText?_of_fits spelled presents.fits, presents.ofValue?]
  · intro spoiled
    exact ofText?_eq_none spelled spoiled.ofValue?

/-- A notice of a commit whose object stands between its type and a member that
notices do not know. -/
def noticeAmongOthers : List Member :=
  [(some "more", .null), (some "object_id", .ofText "o"),
    (some "type", .ofText "commit_notice")]

/-- The notice is read behind a blank, but not without its object. -/
theorem read_notice_among_others :
    ofText?
        " \x7b\"more\":null,\"object_id\":\"o\",\"type\":\"commit_notice\"\x7d" =
          some (notice .commit ⟨"o"⟩) ∧
      ofText? "\x7b\"more\":null,\"type\":\"commit_notice\"\x7d" = none := by
  have presents :
      (notice .commit ⟨"o"⟩).Presents (.object noticeAmongOthers) := by
    apply Presents.object _ [(some "more", .null)] (List.reverse_perm _)
    · simp [Message.kind, MessageKind.fields, MessageKind.typeField]
    · simpa using .null _
  have proper (members : List Member) (among : members ⊆ noticeAmongOthers) :
      (Value.object members).IsProper := by
    apply Json.Value.isProper_object
    intro member isMember
    have isOne := among isMember
    simp only [noticeAmongOthers, List.mem_cons, List.not_mem_nil, or_false] at isOne
    rcases isOne with rfl | rfl | rfl <;> simp [Value.IsProper, Value.tokens,
      Value.ofText, Json.Token.IsProper]
  constructor
  · refine (read_if_complete ?_ _).1 presents
    rw [Value.SpelledBy]
    exact .blank ' ' rfl (Json.Value.spelledBy_toCompactText
      (proper _ (List.Subset.refl _)))
  · refine (read_if_complete ?_ _).2 (.bereft _ presents "object_id" ?_)
    · exact Json.Value.spelledBy_toCompactText (proper _
        List.filter_sublist.subset)
    · decide

end Message

end CreationCommit
