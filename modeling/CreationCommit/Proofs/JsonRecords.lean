import CreationCommit.Json.Record
import CreationCommit.Proofs.JsonWriting
import Mathlib.Data.List.Nodup

/-!
# The fields of a record

What is written for a field is read again, it fits, and it can be read at all.

Which value an object gives for a field depends on the members that bear the
field's name, and so does whether the object is a record.  If each field's name
is borne once at most, it does not matter in which order the members stand, nor
which members stand among them whose names the record does not know.
-/

namespace CreationCommit.Json.Value

theorem toText?_ofText (text : String) : (ofText text).toText? = some text :=
  rfl

theorem toOptionalText?_ofText (text : String) :
    (ofText text).toOptionalText? = some (some text) :=
  rfl

theorem toInt64?_ofInt (value : Int64) :
    (ofInt value.toInt).toInt64? = some value := by
  have inRange : Int64.minValue.toInt ≤ value.toInt ∧
      value.toInt ≤ Int64.maxValue.toInt :=
    ⟨Int64.le_toInt value, Int64.toInt_le value⟩
  simp only [toInt64?, ofInt, Numeral.integer?_ofInt, Option.bind_eq_bind,
    Option.bind_some, if_pos inRange, Int64.ofInt_toInt]

theorem toWord?_ofInt (word : UInt64) :
    (ofInt word.toNat).toWord? = some word := by
  have small := UInt64.toNat_lt_size word
  simp [toWord?, ofInt, Numeral.natural?_ofInt, small]

theorem toByte?_ofInt (byte : UInt8) :
    (ofInt byte.toNat).toByte? = some byte := by
  have small := UInt8.toNat_lt_size byte
  simp [toByte?, ofInt, Numeral.natural?_ofInt, small]

theorem toBytes?_ofBytes (bytes : List UInt8) :
    (ofBytes bytes).toBytes? = some bytes := by
  rw [ofBytes, toBytes?]
  induction bytes with
  | nil => rfl
  | cons byte bytes ih => simp [toByte?_ofInt, ih]

/-- Every number in the value can be read. -/
def IsProper (value : Value) : Prop :=
  ∀ token ∈ value.tokens, token.IsProper

theorem isProper_ofText (text : String) : (ofText text).IsProper := by
  simp [IsProper, ofText, tokens, Token.IsProper]

theorem isProper_ofInt (value : Int) : (ofInt value).IsProper := by
  simp [IsProper, ofInt, tokens, Token.IsProper, Numeral.isProper_ofInt]

theorem isProper_bool (value : Bool) : (bool value).IsProper := by
  simp [IsProper, tokens, Token.IsProper]

theorem isProper_ofBytes (bytes : List UInt8) : (ofBytes bytes).IsProper := by
  apply forall_tokens_array Token.isProper_of_isMark
  intro item isItem
  obtain ⟨byte, -, rfl⟩ := List.mem_map.1 isItem
  exact isProper_ofInt _

theorem isProper_object {members : List Member}
    (proper : ∀ member ∈ members, member.2.IsProper) :
    (object members).IsProper :=
  forall_tokens_object Token.isProper_of_isMark (fun _ _ => trivial) proper

/-- An object of fields can be read at all if each of them can. -/
theorem isProper_ofFields {fields : List (String × Value)}
    (proper : ∀ field ∈ fields, field.2.IsProper) :
    (ofFields fields).IsProper := by
  apply isProper_object
  intro member isMember
  obtain ⟨field, isField, rfl⟩ := List.mem_map.1 isMember
  exact proper field isField

theorem fits_ofText (levels : Nat) (text : String) : (ofText text).Fits levels :=
  .string levels text

theorem fits_ofInt (levels : Nat) {value : Int}
    (small : value.natAbs < UInt64.size) : (ofInt value).Fits levels :=
  .number levels _ (Numeral.isStorable_ofInt small)

theorem fits_ofInt64 (levels : Nat) (value : Int64) :
    (ofInt value.toInt).Fits levels := by
  have lower := Int64.le_toInt value
  have upper := Int64.toInt_lt value
  have bound : UInt64.size = 2 ^ 64 := rfl
  exact fits_ofInt levels (by omega)

theorem fits_ofBytes {levels : Nat} (room : 0 < levels) (bytes : List UInt8) :
    (ofBytes bytes).Fits levels := by
  obtain ⟨levels, rfl⟩ := Nat.exists_eq_succ_of_ne_zero (Nat.ne_of_gt room)
  apply Fits.array
  intro item isItem
  obtain ⟨byte, -, rfl⟩ := List.mem_map.1 isItem
  have small := UInt8.toNat_lt_size byte
  have bound : UInt64.size = 2 ^ 64 := rfl
  have byteBound : UInt8.size = 2 ^ 8 := rfl
  exact fits_ofInt levels (by omega)

/-- The members that bear the name. -/
def bearing (name : String) (members : List Member) : List Member :=
  members.filter fun member => member.1 = some name

variable {fields : List String} {field name : String}
  {members others own extras : List Member}

theorem given?_object :
    (object members).given? fields field =
      (bearing field members).head?.map (·.2) := by
  rw [bearing, List.head?_filter, given?]

theorem isRecord_object :
    (object members).isRecord fields = true ↔
      (∀ member ∈ members, member.1.isSome = true) ∧
        ∀ field ∈ fields, (bearing field members).length ≤ 1 := by
  simp only [isRecord, Bool.and_eq_true, List.all_eq_true, decide_eq_true_eq,
    bearing, List.countP_eq_length_filter]

theorem given?_object_congr
    (same : bearing field members = bearing field others) :
    (object members).given? fields field = (object others).given? fields field := by
  rw [given?_object, given?_object, same]

/-- If a name stands once at most, one member at most bears it. -/
theorem length_bearing_le_one (distinct : (members.map (·.1)).Nodup) :
    (bearing name members).length ≤ 1 := by
  have once := List.nodup_iff_count_le_one.1 distinct (some name)
  rw [List.count, List.countP_map, List.countP_eq_length_filter] at once
  simpa only [bearing, Function.comp_def, beq_eq_decide] using once

/-- The members that bear a known name are found among any others, in whatever
order they stand. -/
theorem bearing_of_perm (perm : members.Perm (own ++ extras))
    (unknown : ∀ extra ∈ extras, extra.1 ≠ some name)
    (once : (bearing name own).length ≤ 1) :
    bearing name members = bearing name own := by
  have noExtra : bearing name extras = [] := by
    simpa [bearing, List.filter_eq_nil_iff] using unknown
  have filtered : (bearing name members).Perm (bearing name own) := by
    have both := perm.filter fun member => decide (member.1 = some name)
    rw [List.filter_append] at both
    exact both.trans (by rw [← bearing, ← bearing, noExtra, List.append_nil])
  generalize bearing name own = found at once filtered ⊢
  rcases found with _ | ⟨member, _ | ⟨second, later⟩⟩
  · exact filtered.eq_nil
  · exact List.perm_singleton.1 filtered
  · simp at once

/-- What the other members are does not matter for a name. -/
theorem bearing_filter_ne (different : name ≠ field) :
    bearing name (members.filter fun member => member.1 ≠ some field) =
      bearing name members := by
  rw [bearing, bearing, List.filter_filter]
  congr 1
  funext member
  by_cases bears : member.1 = some name <;> simp [bears, different]

theorem bearing_filter_self :
    bearing field (members.filter fun member => member.1 ≠ some field) = [] := by
  simp [bearing]

end CreationCommit.Json.Value
