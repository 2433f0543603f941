import CreationCommit.Proofs.JsonRecords
import Mathlib.Data.List.Nodup
import Mathlib.Data.Option.Basic

/-!
# What a record gives

A record gives values to some of its fields, each once: as members of an object,
in any order and among members that the record does not know, or as the first
items of an array.  Every other value has a flaw, and so has a record that gives
a field a value which the field does not accept.
-/

namespace CreationCommit.Json.Value

variable {fields : List String} {field : String} {value : Value}
  {given : List (String × Value)} {members : List Member} {items : List Value}

/-- The members that give values to fields. -/
def ofGiven (given : List (String × Value)) : List Member :=
  given.map fun entry => (some entry.1, entry.2)

/-- The value gives these values to fields of a record, and to no other field. -/
inductive Gives (fields : List String) : List (String × Value) → Value → Prop
  | object (given : List (String × Value))
      (known : ∀ entry ∈ given, entry.1 ∈ fields)
      (once : (given.map (·.1)).Nodup) (extras : List Member)
      (unknown : ∀ extra ∈ extras,
        ∃ name, extra.1 = some name ∧ name ∉ fields)
      (members : List Member)
      (arranged : members.Perm (ofGiven given ++ extras)) :
      Gives fields given (object members)
  | array (items : List Value) (short : items.length ≤ fields.length) :
      Gives fields (fields.zip items) (array items)

/-- The value has a flaw as a record: it is neither an object nor an array, it has
a name that is no text, it repeats a field, it has too many items, or it gives a
field what the field does not accept. -/
inductive Flawed (fields : List String) (Accepts : String → Value → Prop) :
    Value → Prop
  | noRecord (value : Value) (noObject : ∀ members, value ≠ object members)
      (noArray : ∀ items, value ≠ array items) : Flawed fields Accepts value
  | nameless (members : List Member) (value : Value)
      (isMember : (none, value) ∈ members) :
      Flawed fields Accepts (object members)
  | repeated (members : List Member) (field : String) (known : field ∈ fields)
      (first second : Value)
      (both : [(some field, first), (some field, second)].Sublist members) :
      Flawed fields Accepts (object members)
  | unfit (members : List Member) (field : String) (known : field ∈ fields)
      (value : Value) (isMember : (some field, value) ∈ members)
      (refused : ¬ Accepts field value) : Flawed fields Accepts (object members)
  | overlong (items : List Value) (long : fields.length < items.length) :
      Flawed fields Accepts (array items)
  | unfitItem (items : List Value) (field : String) (value : Value)
      (isItem : (field, value) ∈ fields.zip items)
      (refused : ¬ Accepts field value) : Flawed fields Accepts (array items)

theorem bearing_ofGiven :
    (bearing field (ofGiven given)).head?.map (·.2) = given.lookup field := by
  induction given with
  | nil => rfl
  | cons entry given ih =>
      obtain ⟨name, value⟩ := entry
      rw [bearing, ofGiven] at ih
      by_cases here : name = field
      · simp [bearing, ofGiven, here]
      · have differs : (field == name) = false := by simpa using Ne.symm here
        rw [List.lookup_cons, differs, ← ih]
        simp [bearing, ofGiven, here]

theorem getElem?_idxOf (known : field ∈ fields) (items : List Value) :
    items[fields.idxOf field]? = (fields.zip items).lookup field := by
  induction fields generalizing items with
  | nil => cases known
  | cons name fields ih =>
      cases items with
      | nil => rfl
      | cons item items =>
          by_cases here : field = name
          · simp [here]
          · have differs : (field == name) = false := by simpa using here
            have later := ih ((List.mem_cons.1 known).resolve_left here) items
            rw [List.zip_cons_cons, List.lookup_cons, differs, ← later,
              List.idxOf_cons_ne _ (Ne.symm here), List.getElem?_cons_succ]

theorem length_bearing_ofGiven (given : List (String × Value)) (name : String) :
    (bearing name (ofGiven given)).length = (given.map (·.1)).count name := by
  simp [bearing, ofGiven, List.count, List.countP_eq_length_filter,
    List.filter_map, Function.comp_def, beq_eq_decide]

theorem length_bearing_ofGiven_le (once : (given.map (·.1)).Nodup)
    (name : String) : (bearing name (ofGiven given)).length ≤ 1 := by
  rw [length_bearing_ofGiven]
  exact List.nodup_iff_count_le_one.1 once name

theorem Gives.bearing_eq (gives : Gives fields given (.object members))
    (known : field ∈ fields) :
    bearing field members = bearing field (ofGiven given) := by
  cases gives with
  | object given allKnown once extras unknown members arranged =>
      apply bearing_of_perm arranged _ (length_bearing_ofGiven_le once field)
      intro extra isExtra bears
      obtain ⟨name, named, notKnown⟩ := unknown extra isExtra
      rw [named, Option.some.injEq] at bears
      exact notKnown (bears ▸ known)

/-- What is found for a field is what the record gives it. -/
theorem Gives.given?_eq (gives : Gives fields given value)
    (known : field ∈ fields) :
    value.given? fields field = given.lookup field := by
  cases value with
  | object members =>
      rw [given?_object, gives.bearing_eq known, bearing_ofGiven]
  | array items =>
      cases gives
      exact getElem?_idxOf known _
  | null | bool | number | string => cases gives

theorem Gives.isRecord (gives : Gives fields given value) :
    value.isRecord fields = true := by
  cases value with
  | object members =>
      have same {field : String} (known : field ∈ fields) :=
        gives.bearing_eq known
      cases gives with
      | object given allKnown once extras unknown members arranged =>
          refine isRecord_object.2 ⟨fun member isMember => ?_, fun field known => ?_⟩
          · rcases List.mem_append.1 (arranged.subset isMember) with isOwn | isExtra
            · obtain ⟨entry, -, rfl⟩ := List.mem_map.1 isOwn
              rfl
            · obtain ⟨name, named, -⟩ := unknown member isExtra
              rw [named]
              rfl
          · rw [same known]
            exact length_bearing_ofGiven_le once field
  | array items =>
      cases gives with
      | array items short => simpa [Value.isRecord] using short
  | null | bool | number | string => cases gives

/-- The entries that members of known fields give. -/
def givenBy (fields : List String) (members : List Member) :
    List (String × Value) :=
  members.filterMap fun member =>
    (member.1.filter (· ∈ fields)).map fun name => (name, member.2)

theorem mem_fields_of_mem_givenBy {entry : String × Value}
    (isEntry : entry ∈ givenBy fields members) : entry.1 ∈ fields := by
  obtain ⟨member, -, gives⟩ := List.mem_filterMap.1 isEntry
  obtain ⟨name, isKnown, rfl⟩ := Option.map_eq_some_iff.1 gives
  simpa using (Option.filter_eq_some_iff.1 isKnown).2

theorem ofGiven_givenBy :
    ofGiven (givenBy fields members) =
      members.filter fun member => member.1.any (· ∈ fields) := by
  induction members with
  | nil => rfl
  | cons member members ih =>
      rw [ofGiven, givenBy] at ih ⊢
      obtain ⟨_ | name, value⟩ := member
      · simpa using ih
      · by_cases known : name ∈ fields
        · simpa [known] using ih
        · simpa [known] using ih

theorem exists_gives_of_isRecord (isRecord : value.isRecord fields = true) :
    ∃ given, Gives fields given value := by
  cases value with
  | object members =>
      obtain ⟨named, atMostOnce⟩ := isRecord_object.1 isRecord
      refine ⟨givenBy fields members, .object _ ?known ?once
        (members.filter fun member => !member.1.any (· ∈ fields)) ?unknown
        members ?arranged⟩
      case known => exact fun entry => mem_fields_of_mem_givenBy
      case once =>
        refine List.nodup_iff_count_le_one.2 fun name => ?_
        by_cases known : name ∈ fields
        · rw [← length_bearing_ofGiven, ofGiven_givenBy]
          have fewer := (List.filter_sublist (p := fun member : Member =>
            member.1.any (· ∈ fields)) (l := members)).filter
              fun member => decide (member.1 = some name)
          exact Nat.le_trans fewer.length_le (atMostOnce name known)
        · have absent : name ∉ (givenBy fields members).map (·.1) := by
            rintro isName
            obtain ⟨entry, isEntry, rfl⟩ := List.mem_map.1 isName
            exact known (mem_fields_of_mem_givenBy isEntry)
          rw [List.count_eq_zero.2 absent]
          exact Nat.zero_le 1
      case unknown =>
        intro extra isExtra
        obtain ⟨isMember, notKnown⟩ := List.mem_filter.1 isExtra
        obtain ⟨name, isName⟩ := Option.isSome_iff_exists.1 (named extra isMember)
        rw [isName] at notKnown
        exact ⟨name, isName, by simpa using notKnown⟩
      case arranged =>
        rw [ofGiven_givenBy]
        exact (List.filter_append_perm _ members).symm
  | array items =>
      exact ⟨_, .array items (by simpa [Value.isRecord] using isRecord)⟩
  | null | bool | number | string => cases isRecord

theorem Gives.known (gives : Gives fields given value) {entry : String × Value}
    (isEntry : entry ∈ given) : entry.1 ∈ fields := by
  cases gives with
  | object given known => exact known entry isEntry
  | array items => exact (List.of_mem_zip isEntry).1

theorem nodup_names_zip (distinct : fields.Nodup) (items : List Value) :
    ((fields.zip items).map (·.1)).Nodup := by
  induction fields generalizing items with
  | nil => exact List.nodup_nil
  | cons name fields ih =>
      cases items with
      | nil => exact List.nodup_nil
      | cons item items =>
          obtain ⟨apart, others⟩ := List.nodup_cons.1 distinct
          refine List.nodup_cons.2 ⟨fun again => apart ?_, ih others items⟩
          obtain ⟨entry, isEntry, rfl⟩ := List.mem_map.1 again
          exact (List.of_mem_zip isEntry).1

theorem Gives.once (gives : Gives fields given value)
    (distinct : fields.Nodup) : (given.map (·.1)).Nodup := by
  cases gives with
  | object given known once => exact once
  | array items => exact nodup_names_zip distinct items

theorem mem_of_lookup (found : given.lookup field = some value) :
    (field, value) ∈ given := by
  obtain ⟨earlier, later, rfl, -⟩ := List.lookup_eq_some_iff.1 found
  simp

/-- What a record gives a field is found for the field. -/
theorem lookup_of_mem (once : (given.map (·.1)).Nodup)
    (isEntry : (field, value) ∈ given) : given.lookup field = some value := by
  obtain ⟨earlier, later, rfl⟩ := List.append_of_mem isEntry
  refine List.lookup_eq_some_iff.2 ⟨earlier, later, rfl, fun entry isEarlier => ?_⟩
  rw [List.map_append, List.map_cons, List.nodup_middle, List.nodup_cons] at once
  have isName := List.mem_map_of_mem (f := (·.1)) isEarlier
  rw [bne_iff_ne]
  rintro rfl
  exact once.1 (List.mem_append_left _ isName)

variable {Accepts : String → Value → Prop}

/-- A record with a flaw gives a field something that the field does not
accept. -/
theorem Flawed.exists_refused (flawed : Flawed fields Accepts value)
    (gives : Gives fields given value) :
    ∃ entry ∈ given, ¬ Accepts entry.1 entry.2 := by
  have isRecord := gives.isRecord
  cases flawed with
  | noRecord _ noObject noArray =>
      cases gives with
      | object => exact absurd rfl (noObject _)
      | array => exact absurd rfl (noArray _)
  | nameless members value isMember =>
      cases (isRecord_object.1 isRecord).1 _ isMember
  | repeated members field known first second both =>
      have atMostOnce := (isRecord_object.1 isRecord).2 field known
      have twice := (both.filter fun member =>
        decide (member.1 = some field)).length_le
      simp only [List.filter_cons, decide_true, if_true, List.filter_nil,
        List.length_cons, List.length_nil] at twice
      exact absurd (Nat.le_trans twice atMostOnce) (by decide)
  | unfit members field known value isMember refused =>
      cases gives with
      | object given allKnown once extras unknown members arranged =>
          rcases List.mem_append.1 (arranged.subset isMember) with isOwn | isExtra
          · obtain ⟨entry, isEntry, same⟩ := List.mem_map.1 isOwn
            cases same
            exact ⟨entry, isEntry, refused⟩
          · obtain ⟨name, named, notKnown⟩ := unknown _ isExtra
            cases named
            exact absurd known notKnown
  | overlong items long =>
      cases gives with
      | array items short => omega
  | unfitItem items field value isItem refused =>
      cases gives
      exact ⟨_, isItem, refused⟩

/-- If more than one member bears the name, two of them are found. -/
theorem exists_sublist_of_bearing (twice : 1 < (bearing field members).length) :
    ∃ first second,
      [(some field, first), (some field, second)].Sublist members := by
  have among : (bearing field members).Sublist members := List.filter_sublist
  have bear : ∀ member ∈ bearing field members, member.1 = some field := by
    simp [bearing]
  generalize bearing field members = found at twice among bear
  rcases found with _ | ⟨⟨first, firstValue⟩, _ | ⟨⟨second, secondValue⟩, later⟩⟩
  · cases twice
  · exact absurd twice (by simp)
  · obtain ⟨rfl, rfl, -⟩ := by simpa using bear
    exact ⟨firstValue, secondValue,
      ((List.nil_sublist later).cons_cons _ |>.cons_cons _).trans among⟩

theorem flawed_of_not_isRecord (noRecord : ¬ value.isRecord fields = true) :
    Flawed fields Accepts value := by
  cases value with
  | object members =>
      rw [isRecord_object, not_and_or] at noRecord
      push Not at noRecord
      rcases noRecord with ⟨⟨name, value⟩, isMember, noName⟩ | ⟨field, known, twice⟩
      · obtain rfl : name = none := by simpa using noName
        exact .nameless members value isMember
      · obtain ⟨first, second, both⟩ := exists_sublist_of_bearing twice
        exact .repeated members field known first second both
  | array items =>
      exact .overlong items (by simpa [Value.isRecord] using noRecord)
  | null | bool | number | string =>
      exact .noRecord _ (by simp) (by simp)

/-- Every value gives fields what they accept, or it has a flaw. -/
theorem gives_or_flawed (fields : List String)
    (Accepts : String → Value → Prop) (value : Value) :
    (∃ given, Gives fields given value ∧
      ∀ entry ∈ given, Accepts entry.1 entry.2) ∨
    Flawed fields Accepts value := by
  by_cases isRecord : value.isRecord fields = true
  · obtain ⟨given, gives⟩ := exists_gives_of_isRecord isRecord
    by_cases accepted : ∀ entry ∈ given, Accepts entry.1 entry.2
    · exact .inl ⟨given, gives, accepted⟩
    · push Not at accepted
      obtain ⟨⟨field, value⟩, isEntry, refused⟩ := accepted
      refine .inr ?_
      cases gives with
      | object given known once extras unknown members arranged =>
          have isMember : (some field, value) ∈ members :=
            arranged.symm.subset
              (List.mem_append_left _ (List.mem_map_of_mem isEntry))
          exact .unfit members field (known _ isEntry) value isMember refused
      | array items => exact .unfitItem items field value isEntry refused
  · exact .inr (flawed_of_not_isRecord isRecord)

/-- An optional field is read as what stands there for a value of its type, or it
is not given and has its default. -/
theorem Gives.optional?_eq_some_iff {α : Type} {reader : Value → Option α}
    {Stands : Value → α → Prop}
    (exact : ∀ value meant, reader value = some meant ↔ Stands value meant)
    (gives : Gives fields given value) (known : field ∈ fields)
    (default result : α) :
    value.optional? fields field reader default = some result ↔
      ∃ choice, Option.Rel Stands (given.lookup field) choice ∧
        result = choice.getD default := by
  rw [optional?, gives.given?_eq known]
  cases given.lookup field with
  | none =>
      constructor
      · rintro ⟨⟩
        exact ⟨none, .none, rfl⟩
      · rintro ⟨choice, ⟨⟩, rfl⟩
        rfl
  | some value =>
      rw [exact]
      constructor
      · intro stands
        exact ⟨some result, .some stands, rfl⟩
      · rintro ⟨choice, ⟨stands⟩, rfl⟩
        exact stands

/-- An optional field that is read by way of something else has what that comes
to, or its default. -/
theorem Gives.optional?_eq_some_iff_map {α β : Type} {reader : Value → Option α}
    {Stands : Value → β → Prop} {convert : β → α}
    (exact : ∀ value meant, reader value = some meant ↔
      ∃ way, Stands value way ∧ meant = convert way)
    (gives : Gives fields given value) (known : field ∈ fields)
    (default result : α) :
    value.optional? fields field reader default = some result ↔
      ∃ choice, Option.Rel Stands (given.lookup field) choice ∧
        result = (choice.map convert).getD default := by
  rw [gives.optional?_eq_some_iff exact known]
  generalize given.lookup field = found
  constructor
  · rintro ⟨choice, chosen, rfl⟩
    cases chosen with
    | none => exact ⟨none, .none, rfl⟩
    | some stands =>
        obtain ⟨way, stands, rfl⟩ := stands
        exact ⟨some way, .some stands, rfl⟩
  · rintro ⟨choice, chosen, rfl⟩
    cases chosen with
    | none => exact ⟨none, .none, rfl⟩
    | some stands => exact ⟨_, .some ⟨_, stands, rfl⟩, rfl⟩

/-- If the field accepts what a record gives it, something stands there or the
field is not given. -/
theorem exists_rel_lookup {α : Type} (Stands : Value → α → Prop) (field : String)
    (accepted : ∀ value, (field, value) ∈ given → ∃ meant, Stands value meant) :
    ∃ choice, Option.Rel Stands (given.lookup field) choice := by
  cases found : given.lookup field with
  | none => exact ⟨none, .none⟩
  | some value =>
      obtain ⟨meant, stands⟩ := accepted value (mem_of_lookup found)
      exact ⟨some meant, .some stands⟩

theorem exists_of_rel_lookup {α : Type} {Stands : Value → α → Prop}
    {choice : Option α} (chosen : Option.Rel Stands (given.lookup field) choice)
    (found : given.lookup field = some value) : ∃ meant, Stands value meant := by
  rw [found] at chosen
  obtain ⟨stands⟩ := chosen
  exact ⟨_, stands⟩

end CreationCommit.Json.Value
