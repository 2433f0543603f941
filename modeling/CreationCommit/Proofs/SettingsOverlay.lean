import CreationCommit.Proofs.RecordReading
import CreationCommit.Proofs.SettingsFormat

/-!
# A text of settings changes the defaults

A text of settings gives some of the settings and leaves the others at their
defaults.  Whoever loads it finds the defaults with the given settings in their
place, or learns the first rule that these break.  If the text gives a setting
something of another kind, or gives it twice, it is not read at all, and no rule
is looked at.
-/

namespace CreationCommit

namespace Json.Value

/-- The value is a number that is written by digits alone, without a sign, a
fraction or an exponent. -/
inductive IsWord : Value → UInt64 → Prop
  | digits (digits : List Char) (word : UInt64)
      (counts : Nat.ofDigitChars 10 digits 0 = word.toNat) :
      IsWord (number ⟨false, digits, none, none⟩) word

/-- The value is a string that holds the text. -/
def IsText (value : Value) (text : String) : Prop :=
  value = string (some text)

def IsFlag (value : Value) (flag : Bool) : Prop :=
  value = bool flag

theorem natural?_eq_some_iff (numeral : Numeral) {count : Nat} :
    numeral.natural? = some count ↔
      numeral = ⟨false, numeral.whole, none, none⟩ ∧
        Nat.ofDigitChars 10 numeral.whole 0 = count := by
  obtain ⟨_ | _, whole, _ | _, _ | _⟩ := numeral <;>
    simp [Numeral.natural?, digitsValue, Nat.ofDigitChars, Decimal.digitValue]

theorem toWord?_eq_some_iff (value : Value) (word : UInt64) :
    value.toWord? = some word ↔ value.IsWord word := by
  constructor
  · intro read
    cases value with
    | number numeral =>
        obtain ⟨count, isNatural, small⟩ := Option.bind_eq_some_iff.1 read
        obtain ⟨plain, counts⟩ := (natural?_eq_some_iff numeral).1 isNatural
        split at small
        · rename_i fits
          cases small
          rw [plain]
          refine .digits _ _ ?_
          rw [counts, UInt64.toNat_ofNat', Nat.mod_eq_of_lt fits]
        · cases small
    | null | bool | string | array | object => cases read
  · rintro ⟨digits, word, counts⟩
    have isNatural :=
      (natural?_eq_some_iff ⟨false, digits, none, none⟩).2 ⟨rfl, counts⟩
    simp [toWord?, isNatural, word.toNat_lt_size]

theorem toText?_eq_some_iff (value : Value) (text : String) :
    value.toText? = some text ↔ value.IsText text := by
  cases value <;> simp [toText?, IsText]

theorem toBool?_eq_some_iff (value : Value) (flag : Bool) :
    value.toBool? = some flag ↔ value.IsFlag flag := by
  cases value <;> simp [toBool?, IsFlag]

end Json.Value

open Json (Value)
open Json.Value (Gives Flawed)

/-- The settings of a creation that a text gives. -/
structure TransactionOverlay where
  timeoutMs : Option UInt64
  failureThreshold : Option UInt64
  sendTimeoutMs : Option UInt64

namespace TransactionOverlay

/-- Put the given settings in the place of others. -/
def onto (overlay : TransactionOverlay) (settings : TransactionSettings) :
    TransactionSettings where
  timeoutMs := overlay.timeoutMs.getD settings.timeoutMs
  failureThreshold := overlay.failureThreshold.getD settings.failureThreshold
  sendTimeoutMs := overlay.sendTimeoutMs.getD settings.sendTimeoutMs

/-- The settings are those for which something stands among what is given. -/
structure Chosen (overlay : TransactionOverlay) (given : List (String × Value)) :
    Prop where
  timeoutMs :
    Option.Rel Value.IsWord (given.lookup "timeout_ms") overlay.timeoutMs
  failureThreshold : Option.Rel Value.IsWord (given.lookup "failure_threshold")
    overlay.failureThreshold
  sendTimeoutMs : Option.Rel Value.IsWord (given.lookup "send_timeout_ms")
    overlay.sendTimeoutMs

def GivenBy (overlay : TransactionOverlay) (value : Value) : Prop :=
  ∃ given, Gives TransactionSettings.fields given value ∧ overlay.Chosen given

end TransactionOverlay

namespace TransactionSettings

/-- Every field accepts a number. -/
def Accepts (_ : String) (value : Value) : Prop :=
  ∃ word, value.IsWord word

def IsFlawed (value : Value) : Prop :=
  Value.Flawed fields Accepts value

theorem ofValue?_eq_some_iff (value : Value) (settings : TransactionSettings) :
    ofValue? value = some settings ↔
      ∃ overlay : TransactionOverlay,
        overlay.GivenBy value ∧ settings = overlay.onto .default := by
  have isField (field : String) (isOne : field ∈ fields) {given default result}
      (gives : Gives fields given value) :=
    gives.optional?_eq_some_iff Value.toWord?_eq_some_iff isOne default result
  constructor
  · intro read
    unfold ofValue? at read
    split at read
    · cases read
    · rename_i isRecord
      obtain ⟨given, gives⟩ :=
        Value.exists_gives_of_isRecord (by simpa using isRecord)
      obtain ⟨timeoutMs, readTimeout, read⟩ := Option.bind_eq_some_iff.1 read
      obtain ⟨failureThreshold, readThreshold, read⟩ :=
        Option.bind_eq_some_iff.1 read
      obtain ⟨sendTimeoutMs, readSendTimeout, read⟩ :=
        Option.bind_eq_some_iff.1 read
      cases read
      obtain ⟨timeout, stands, rfl⟩ :=
        (isField "timeout_ms" (by decide) gives).1 readTimeout
      obtain ⟨threshold, standsThreshold, rfl⟩ :=
        (isField "failure_threshold" (by decide) gives).1 readThreshold
      obtain ⟨sendTimeout, standsSend, rfl⟩ :=
        (isField "send_timeout_ms" (by decide) gives).1 readSendTimeout
      exact ⟨⟨timeout, threshold, sendTimeout⟩,
        ⟨given, gives, stands, standsThreshold, standsSend⟩, rfl⟩
  · rintro ⟨overlay, ⟨given, gives, chosen⟩, rfl⟩
    simp only [ofValue?, gives.isRecord,
      (isField "timeout_ms" (by decide) gives).2 ⟨_, chosen.timeoutMs, rfl⟩,
      (isField "failure_threshold" (by decide) gives).2
        ⟨_, chosen.failureThreshold, rfl⟩,
      (isField "send_timeout_ms" (by decide) gives).2
        ⟨_, chosen.sendTimeoutMs, rfl⟩]
    rfl

theorem givenBy_or_isFlawed (value : Value) :
    (∃ overlay : TransactionOverlay, overlay.GivenBy value) ∨ IsFlawed value := by
  refine (Value.gives_or_flawed fields Accepts value).imp_left ?_
  rintro ⟨given, gives, accepted⟩
  have isField (field : String) :=
    Value.exists_rel_lookup Value.IsWord field
      fun value isEntry => accepted (field, value) isEntry
  obtain ⟨timeoutMs, first⟩ := isField "timeout_ms"
  obtain ⟨failureThreshold, second⟩ := isField "failure_threshold"
  obtain ⟨sendTimeoutMs, third⟩ := isField "send_timeout_ms"
  exact ⟨⟨timeoutMs, failureThreshold, sendTimeoutMs⟩, given, gives, first,
    second, third⟩

theorem not_isFlawed_of_givenBy {overlay : TransactionOverlay} {value : Value}
    (isGiven : overlay.GivenBy value) : ¬ IsFlawed value := by
  intro flawed
  obtain ⟨given, gives, chosen⟩ := isGiven
  obtain ⟨⟨field, value⟩, isEntry, refused⟩ := flawed.exists_refused gives
  have found := Value.lookup_of_mem (gives.once (by decide)) isEntry
  have known : field ∈ fields := gives.known isEntry
  simp only [fields, List.mem_cons, List.not_mem_nil, or_false] at known
  apply refused
  rcases known with rfl | rfl | rfl
  · exact Value.exists_of_rel_lookup chosen.timeoutMs found
  · exact Value.exists_of_rel_lookup chosen.failureThreshold found
  · exact Value.exists_of_rel_lookup chosen.sendTimeoutMs found

end TransactionSettings

/-- The settings of the log that a text gives. -/
structure LogOverlay where
  level : Option String
  format : Option String
  timestamps : Option Bool
  target : Option Bool

namespace LogOverlay

/-- Put the given settings in the place of others. -/
def onto (overlay : LogOverlay) (settings : LogSettings) : LogSettings where
  level := overlay.level.getD settings.level
  format := overlay.format.getD settings.format
  timestamps := overlay.timestamps.getD settings.timestamps
  target := overlay.target.getD settings.target

/-- The settings are those for which something stands among what is given. -/
structure Chosen (overlay : LogOverlay) (given : List (String × Value)) :
    Prop where
  level : Option.Rel Value.IsText (given.lookup "level") overlay.level
  format : Option.Rel Value.IsText (given.lookup "format") overlay.format
  timestamps :
    Option.Rel Value.IsFlag (given.lookup "timestamps") overlay.timestamps
  target : Option.Rel Value.IsFlag (given.lookup "target") overlay.target

def GivenBy (overlay : LogOverlay) (value : Value) : Prop :=
  ∃ given, Gives LogSettings.fields given value ∧ overlay.Chosen given

end LogOverlay

namespace LogSettings

/-- Level and format accept a text, the switches a truth value. -/
structure Accepts (field : String) (value : Value) : Prop where
  text : field = "level" ∨ field = "format" → ∃ text, value.IsText text
  flag : field = "timestamps" ∨ field = "target" → ∃ flag, value.IsFlag flag

def IsFlawed (value : Value) : Prop :=
  Value.Flawed fields Accepts value

theorem ofValue?_eq_some_iff (value : Value) (settings : LogSettings) :
    ofValue? value = some settings ↔
      ∃ overlay : LogOverlay,
        overlay.GivenBy value ∧ settings = overlay.onto .default := by
  have isText (field : String) (isOne : field ∈ fields) {given default result}
      (gives : Gives fields given value) :=
    gives.optional?_eq_some_iff Value.toText?_eq_some_iff isOne default result
  have isFlag (field : String) (isOne : field ∈ fields) {given default result}
      (gives : Gives fields given value) :=
    gives.optional?_eq_some_iff Value.toBool?_eq_some_iff isOne default result
  constructor
  · intro read
    unfold ofValue? at read
    split at read
    · cases read
    · rename_i isRecord
      obtain ⟨given, gives⟩ :=
        Value.exists_gives_of_isRecord (by simpa using isRecord)
      obtain ⟨level, readLevel, read⟩ := Option.bind_eq_some_iff.1 read
      obtain ⟨format, readFormat, read⟩ := Option.bind_eq_some_iff.1 read
      obtain ⟨timestamps, readTimestamps, read⟩ := Option.bind_eq_some_iff.1 read
      obtain ⟨target, readTarget, read⟩ := Option.bind_eq_some_iff.1 read
      cases read
      obtain ⟨level, first, rfl⟩ := (isText "level" (by decide) gives).1 readLevel
      obtain ⟨format, second, rfl⟩ :=
        (isText "format" (by decide) gives).1 readFormat
      obtain ⟨timestamps, third, rfl⟩ :=
        (isFlag "timestamps" (by decide) gives).1 readTimestamps
      obtain ⟨target, fourth, rfl⟩ :=
        (isFlag "target" (by decide) gives).1 readTarget
      exact ⟨⟨level, format, timestamps, target⟩,
        ⟨given, gives, first, second, third, fourth⟩, rfl⟩
  · rintro ⟨overlay, ⟨given, gives, chosen⟩, rfl⟩
    simp only [ofValue?, gives.isRecord,
      (isText "level" (by decide) gives).2 ⟨_, chosen.level, rfl⟩,
      (isText "format" (by decide) gives).2 ⟨_, chosen.format, rfl⟩,
      (isFlag "timestamps" (by decide) gives).2 ⟨_, chosen.timestamps, rfl⟩,
      (isFlag "target" (by decide) gives).2 ⟨_, chosen.target, rfl⟩]
    rfl

theorem givenBy_or_isFlawed (value : Value) :
    (∃ overlay : LogOverlay, overlay.GivenBy value) ∨ IsFlawed value := by
  refine (Value.gives_or_flawed fields Accepts value).imp_left ?_
  rintro ⟨given, gives, accepted⟩
  have isText (field : String) (isOne : field = "level" ∨ field = "format") :=
    Value.exists_rel_lookup Value.IsText field
      fun value isEntry => (accepted (field, value) isEntry).text isOne
  have isFlag (field : String)
      (isOne : field = "timestamps" ∨ field = "target") :=
    Value.exists_rel_lookup Value.IsFlag field
      fun value isEntry => (accepted (field, value) isEntry).flag isOne
  obtain ⟨level, first⟩ := isText "level" (.inl rfl)
  obtain ⟨format, second⟩ := isText "format" (.inr rfl)
  obtain ⟨timestamps, third⟩ := isFlag "timestamps" (.inl rfl)
  obtain ⟨target, fourth⟩ := isFlag "target" (.inr rfl)
  exact ⟨⟨level, format, timestamps, target⟩, given, gives, first, second, third,
    fourth⟩

theorem not_isFlawed_of_givenBy {overlay : LogOverlay} {value : Value}
    (isGiven : overlay.GivenBy value) : ¬ IsFlawed value := by
  intro flawed
  obtain ⟨given, gives, chosen⟩ := isGiven
  obtain ⟨⟨field, value⟩, isEntry, refused⟩ := flawed.exists_refused gives
  have found := Value.lookup_of_mem (gives.once (by decide)) isEntry
  refine refused ⟨?_, ?_⟩
  · rintro (rfl | rfl)
    · exact Value.exists_of_rel_lookup chosen.level found
    · exact Value.exists_of_rel_lookup chosen.format found
  · rintro (rfl | rfl)
    · exact Value.exists_of_rel_lookup chosen.timestamps found
    · exact Value.exists_of_rel_lookup chosen.target found

end LogSettings

/-- The settings that a text gives, section by section. -/
structure SettingsOverlay where
  transaction : Option TransactionOverlay
  log : Option LogOverlay

namespace SettingsOverlay

/-- Put the given settings in the place of others. -/
def onto (overlay : SettingsOverlay) (settings : Settings) : Settings where
  transaction := (overlay.transaction.map
    (·.onto settings.transaction)).getD settings.transaction
  log := (overlay.log.map (·.onto settings.log)).getD settings.log

/-- The settings are those of the sections among what is given. -/
structure Chosen (overlay : SettingsOverlay) (given : List (String × Value)) :
    Prop where
  transaction : Option.Rel (fun value section_ => section_.GivenBy value)
    (given.lookup "transaction") overlay.transaction
  log : Option.Rel (fun value section_ => section_.GivenBy value)
    (given.lookup "log") overlay.log

/-- The value gives these settings and no others. -/
def GivenBy (overlay : SettingsOverlay) (value : Value) : Prop :=
  ∃ given, Gives Settings.fields given value ∧ overlay.Chosen given

end SettingsOverlay

namespace Settings

/-- Each section accepts a record of its settings. -/
structure Accepts (field : String) (value : Value) : Prop where
  transaction : field = "transaction" → ¬ TransactionSettings.IsFlawed value
  log : field = "log" → ¬ LogSettings.IsFlawed value

def IsFlawed (value : Value) : Prop :=
  Value.Flawed fields Accepts value

theorem ofValue?_eq_some_iff (value : Value) (settings : Settings) :
    ofValue? value = some settings ↔
      ∃ overlay : SettingsOverlay,
        overlay.GivenBy value ∧ settings = overlay.onto .default := by
  have isTransaction {given result} (gives : Gives fields given value) :=
    gives.optional?_eq_some_iff_map TransactionSettings.ofValue?_eq_some_iff
      (show "transaction" ∈ fields by decide) TransactionSettings.default result
  have isLog {given result} (gives : Gives fields given value) :=
    gives.optional?_eq_some_iff_map LogSettings.ofValue?_eq_some_iff
      (show "log" ∈ fields by decide) LogSettings.default result
  constructor
  · intro read
    unfold ofValue? at read
    split at read
    · cases read
    · rename_i isRecord
      obtain ⟨given, gives⟩ :=
        Value.exists_gives_of_isRecord (by simpa using isRecord)
      obtain ⟨transaction, readTransaction, read⟩ :=
        Option.bind_eq_some_iff.1 read
      obtain ⟨log, readLog, read⟩ := Option.bind_eq_some_iff.1 read
      cases read
      obtain ⟨transaction, first, rfl⟩ := (isTransaction gives).1 readTransaction
      obtain ⟨log, second, rfl⟩ := (isLog gives).1 readLog
      exact ⟨⟨transaction, log⟩, ⟨given, gives, first, second⟩, rfl⟩
  · rintro ⟨overlay, ⟨given, gives, chosen⟩, rfl⟩
    simp only [ofValue?, gives.isRecord,
      (isTransaction gives).2 ⟨_, chosen.transaction, rfl⟩,
      (isLog gives).2 ⟨_, chosen.log, rfl⟩]
    rfl

theorem givenBy_or_isFlawed (value : Value) :
    (∃ overlay : SettingsOverlay, overlay.GivenBy value) ∨ IsFlawed value := by
  refine (Value.gives_or_flawed fields Accepts value).imp_left ?_
  rintro ⟨given, gives, accepted⟩
  obtain ⟨transaction, first⟩ :=
    Value.exists_rel_lookup _ "transaction" fun value isEntry =>
      (TransactionSettings.givenBy_or_isFlawed value).resolve_right
        ((accepted (_, value) isEntry).transaction rfl)
  obtain ⟨log, second⟩ :=
    Value.exists_rel_lookup _ "log" fun value isEntry =>
      (LogSettings.givenBy_or_isFlawed value).resolve_right
        ((accepted (_, value) isEntry).log rfl)
  exact ⟨⟨transaction, log⟩, given, gives, first, second⟩

theorem not_isFlawed_of_givenBy {overlay : SettingsOverlay} {value : Value}
    (isGiven : overlay.GivenBy value) : ¬ IsFlawed value := by
  intro flawed
  obtain ⟨given, gives, chosen⟩ := isGiven
  obtain ⟨⟨field, value⟩, isEntry, refused⟩ := flawed.exists_refused gives
  have found := Value.lookup_of_mem (gives.once (by decide)) isEntry
  refine refused ⟨?_, ?_⟩
  · rintro rfl
    obtain ⟨_, isGiven⟩ := Value.exists_of_rel_lookup chosen.transaction found
    exact TransactionSettings.not_isFlawed_of_givenBy isGiven
  · rintro rfl
    obtain ⟨_, isGiven⟩ := Value.exists_of_rel_lookup chosen.log found
    exact LogSettings.not_isFlawed_of_givenBy isGiven

/-- The rules that settings break, in the order in which they are looked at. -/
def violations (settings : Settings) : List Violation :=
  (if settings.transaction.timeoutMs = 0 then [.zeroTimeout] else []) ++
    ((if settings.transaction.sendTimeoutMs = 0 then [.zeroSendTimeout]
      else []) ++
    if settings.log.format = "json" ∨ settings.log.format = "text" then []
    else [.unknownFormat settings.log.format])

/-- Settings pass the check unless they break a rule; the first counts. -/
theorem check_eq (settings : Settings) :
    settings.check =
      match settings.violations with
      | [] => .ok settings
      | violation :: _ => .error (.invalid violation) := by
  rw [check, validate, TransactionSettings.validate, LogSettings.validate,
    violations]
  by_cases noTime : settings.transaction.timeoutMs = 0
  · simp only [noTime, if_true]
    rfl
  by_cases noSendTime : settings.transaction.sendTimeoutMs = 0
  · simp only [noTime, noSendTime, if_false, if_true]
    rfl
  by_cases format : settings.log.format = "json" ∨ settings.log.format = "text"
  · simp only [noTime, noSendTime, format, if_false, if_true]
    rfl
  · simp only [noTime, noSendTime, format, if_false]
    rfl

theorem ofText?_of_spelledBy {value : Value} {text : String}
    (spelled : value.SpelledBy text) : ofText? text = ofValue? value := by
  simp only [ofText?, Value.read?_of_spelledBy spelled, Option.bind_eq_bind,
    Option.bind_some]

/-- Load settings from a text as such, or from a file that holds it. -/
def loadHeld (file : Option String) (text : String) :
    Except SettingsError Settings :=
  match file with
  | none => load none text
  | some path => loadFile path (.file text.toUTF8)

theorem loadHeld_eq (file : Option String) (text : String) :
    loadHeld file text = load file text := by
  cases file with
  | none => rfl
  | some path => simp only [loadHeld, loadFile, fromUTF8?_toUTF8]

theorem loadHeld_of_givenBy {value : Value} {text : String}
    (spelled : value.SpelledBy text) {overlay : SettingsOverlay}
    (isGiven : overlay.GivenBy value) (file : Option String) :
    loadHeld file text = (overlay.onto .default).check := by
  have read : ofValue? value = some (overlay.onto .default) :=
    (ofValue?_eq_some_iff value _).2 ⟨overlay, isGiven, rfl⟩
  simp only [loadHeld_eq, load, ofText?_of_spelledBy spelled, read]

theorem loadHeld_of_isFlawed {value : Value} {text : String}
    (spelled : value.SpelledBy text) (flawed : IsFlawed value)
    (file : Option String) :
    loadHeld file text = .error (.malformed file) := by
  cases read : ofValue? value with
  | none => simp only [loadHeld_eq, load, ofText?_of_spelledBy spelled, read]
  | some settings =>
      obtain ⟨overlay, isGiven, -⟩ := (ofValue?_eq_some_iff value settings).1 read
      exact absurd flawed (not_isFlawed_of_givenBy isGiven)

/-- Whoever loads a text that gives some settings, spelled in any way, in any order
and among anything else, finds the defaults with the given settings in their
place, or learns the first rule that these break.  If the value for which the text
stands has a flaw, at its top or in a section, the text is malformed, whatever
rules would be broken too; and this is so for every value that gives no settings.
It is all the same if a file holds the text. -/
theorem load_overlaid_defaults {value : Value} {text : String}
    (spelled : value.SpelledBy text) (file : Option String) :
    (∀ overlay : SettingsOverlay, overlay.GivenBy value →
      ((overlay.onto .default).violations = [] →
        loadHeld file text = .ok (overlay.onto .default)) ∧
      ∀ violation others,
        (overlay.onto .default).violations = violation :: others →
          loadHeld file text = .error (.invalid violation)) ∧
    (IsFlawed value → loadHeld file text = .error (.malformed file)) ∧
    ((∃ overlay : SettingsOverlay, overlay.GivenBy value) ∨ IsFlawed value) := by
  refine ⟨fun overlay isGiven => ⟨fun valid => ?_, fun violation others broken => ?_⟩,
    fun flawed => loadHeld_of_isFlawed spelled flawed file,
    givenBy_or_isFlawed value⟩
  · rw [loadHeld_of_givenBy spelled isGiven, check_eq, valid]
  · rw [loadHeld_of_givenBy spelled isGiven, check_eq, broken]

/-- An object that gives a format and a time limit, among something else. -/
def sparseMembers (format : String) (millis : Nat) : List Json.Member :=
  [(some "more", .null), (some "log", .ofFields [("format", .ofText format)]),
    (some "transaction", .ofFields [("send_timeout_ms", .ofInt millis)])]

def sparseOverlay (format : String) (millis : UInt64) : SettingsOverlay where
  transaction := some ⟨none, none, some millis⟩
  log := some ⟨none, some format, none, none⟩

theorem isWord_ofInt (word : UInt64) : (Value.ofInt word.toNat).IsWord word :=
  (Value.toWord?_eq_some_iff _ _).1 (Value.toWord?_ofInt word)

theorem givenBy_sparseMembers (format : String) (millis : UInt64) :
    (sparseOverlay format millis).GivenBy
      (.object (sparseMembers format millis.toNat)) := by
  have log : LogOverlay.GivenBy ⟨none, some format, none, none⟩
      (.ofFields [("format", .ofText format)]) := by
    refine ⟨[("format", .ofText format)], .object _ (by simp [LogSettings.fields])
      (by simp) [] (by simp) _ (.refl _), ?_, ?_, ?_, ?_⟩ <;>
      simp [List.lookup_cons, Value.IsText, Value.ofText]
  have transaction : TransactionOverlay.GivenBy ⟨none, none, some millis⟩
      (.ofFields [("send_timeout_ms", .ofInt millis.toNat)]) := by
    refine ⟨[("send_timeout_ms", .ofInt millis.toNat)], .object _
      (by simp [TransactionSettings.fields]) (by simp) [] (by simp) _ (.refl _),
      ?_, ?_, ?_⟩ <;>
      simp [List.lookup_cons, isWord_ofInt]
  refine ⟨[("log", _), ("transaction", _)], .object _ (by simp [fields]) (by simp)
    [(some "more", .null)] (by simp [fields]) _
    (@List.perm_append_comm _ [_] [_, _]), ?_, ?_⟩
  · exact .some transaction
  · exact .some log

theorem isProper_of_mem_sparseMembers {format : String} {millis : Nat}
    (member : Json.Member) (isMember : member ∈ sparseMembers format millis) :
    member.2.IsProper := by
  simp only [sparseMembers, List.mem_cons, List.not_mem_nil, or_false] at isMember
  rcases isMember with rfl | rfl | rfl
  · simp [Value.IsProper, Value.tokens, Json.Token.IsProper]
  · exact Value.isProper_ofFields (by simp [Value.isProper_ofText])
  · exact Value.isProper_ofFields (by simp [Value.isProper_ofInt])

/-- Seven milliseconds and a format are put in the place of the defaults, no
milliseconds are refused before a format is, and what is given twice is not read,
though a rule is broken as well. -/
theorem load_sparse_and_doubled :
    loadHeld none
        (" \x7b\"more\":null,\"log\":\x7b\"format\":\"json\"\x7d," ++
          "\"transaction\":\x7b\"send_timeout_ms\":7\x7d\x7d") =
      .ok
        { transaction := { TransactionSettings.default with sendTimeoutMs := 7 }
          log := { LogSettings.default with format := "json" } } ∧
    loadHeld (some "conf")
        ("\x7b\"more\":null,\"log\":\x7b\"format\":\"yaml\"\x7d," ++
          "\"transaction\":\x7b\"send_timeout_ms\":0\x7d\x7d") =
      .error (.invalid .zeroSendTimeout) ∧
    loadHeld (some "conf")
        ("\x7b\"log\":null,\"more\":null,\"log\":\x7b\"format\":\"yaml\"\x7d," ++
          "\"transaction\":\x7b\"send_timeout_ms\":0\x7d\x7d") =
      .error (.malformed (some "conf")) := by
  refine ⟨?valid, ?invalid, ?doubled⟩
  case valid =>
    refine ((load_overlaid_defaults ?_ none).1 _
      (givenBy_sparseMembers "json" 7)).1 rfl
    rw [Value.SpelledBy]
    exact .blank ' ' rfl
      (Value.spelledBy_toCompactText (Value.isProper_object isProper_of_mem_sparseMembers))
  case invalid =>
    refine ((load_overlaid_defaults ?_ (some "conf")).1 _
      (givenBy_sparseMembers "yaml" 0)).2 _ _ rfl
    exact Value.spelledBy_toCompactText
      (Value.isProper_object isProper_of_mem_sparseMembers)
  case doubled =>
    have proper : (Value.object ((some "log", .null) ::
        sparseMembers "yaml" 0)).IsProper :=
      Value.isProper_object (List.forall_mem_cons.2
        ⟨by simp [Value.IsProper, Value.tokens, Json.Token.IsProper],
          isProper_of_mem_sparseMembers⟩)
    exact (load_overlaid_defaults (Value.spelledBy_toCompactText proper)
      (some "conf")).2.1 (.repeated _ "log" (by decide) .null
        (.ofFields [("format", .ofText "yaml")])
        (.cons_cons _ (.cons _ (.cons_cons _ (List.nil_sublist _)))))

end Settings

end CreationCommit
