import CreationCommit.Proofs.DecimalTexts
import CreationCommit.Proofs.SettingsOverlay
import Mathlib.Data.List.TakeWhile

/-!
# Variables that override settings

Each of three variables replaces a number by the one that its value denotes, and
a fourth replaces the level by its value as it stands; what no variable is for
stays.  Of the values that denote nothing the first in the order of the variables
is reported, and otherwise the first time limit that is left without any time.
Settings that cannot be loaded are not mended by variables.
-/

namespace CreationCommit

namespace Text

/-- The text is another one with blank characters around it. -/
inductive Surrounds (core : List Char) : List Char → Prop
  | blanks (before after : List Char)
      (blankBefore : ∀ c ∈ before, isBlank c = true)
      (blankAfter : ∀ c ∈ after, isBlank c = true) :
      Surrounds core (before ++ core ++ after)

variable {core text : List Char}

theorem surrounds_trim (text : List Char) : Surrounds (trim text) text := by
  have front := List.takeWhile_append_dropWhile (p := isBlank) (l := text)
  have back := List.takeWhile_append_dropWhile (p := isBlank)
    (l := (text.dropWhile isBlank).reverse)
  have parts : text.takeWhile isBlank ++ trim text ++
      ((text.dropWhile isBlank).reverse.takeWhile isBlank).reverse = text := by
    rw [List.append_assoc, trim, ← List.reverse_append, back,
      List.reverse_reverse, front]
  have surrounds : Surrounds (trim text) (text.takeWhile isBlank ++ trim text ++
      ((text.dropWhile isBlank).reverse.takeWhile isBlank).reverse) :=
    .blanks _ _ (fun c isBefore => List.mem_takeWhile_imp isBefore)
      fun c isAfter => List.mem_takeWhile_imp (List.mem_reverse.1 isAfter)
  rwa [parts] at surrounds

/-- What is trimmed away is blank, and a character that is not stays. -/
theorem dropWhile_append {before : List Char}
    (blankBefore : ∀ c ∈ before, isBlank c = true) (nonempty : core ≠ [])
    (noBlank : ∀ c ∈ core, isBlank c = false) (after : List Char) :
    (before ++ (core ++ after)).dropWhile isBlank = core ++ after := by
  obtain ⟨c, core, rfl⟩ := List.exists_cons_of_ne_nil nonempty
  rw [List.dropWhile_append_of_pos blankBefore, List.cons_append,
    List.dropWhile_cons_of_neg (by simp [noBlank c List.mem_cons_self])]

theorem Surrounds.trim (surrounds : Surrounds core text) (nonempty : core ≠ [])
    (noBlank : ∀ c ∈ core, isBlank c = false) : trim text = core := by
  obtain ⟨before, after, blankBefore, blankAfter⟩ := surrounds
  rw [Text.trim, List.append_assoc,
    dropWhile_append blankBefore nonempty noBlank after, List.reverse_append]
  have back : (after.reverse ++ (core.reverse ++ [])).dropWhile isBlank =
      core.reverse ++ [] := dropWhile_append
    (fun c isAfter => blankAfter c (List.mem_reverse.1 isAfter))
    (by simpa using nonempty)
    (fun c isCore => noBlank c (List.mem_reverse.1 isCore)) []
  rw [List.append_nil] at back
  rw [back, List.reverse_reverse]

end Text

namespace Settings

variable {environment : Environment} {name value : String} {word current : UInt64}
  {settings result : Settings}

/-- The value of a variable denotes the number: with blanks around it, it writes
the number by digits, perhaps after one plus sign. -/
def Denotes (value : String) (word : UInt64) : Prop :=
  ∃ number, Text.Surrounds number value.toList ∧
    Decimal.Writes number word.toNat

theorem isBlank_of_plus_or_isDigit {c : Char}
    (isPart : c = '+' ∨ c.isDigit = true) : Text.isBlank c = false := by
  rcases isPart with rfl | isDigit
  · rfl
  · have range : 48 ≤ c.toNat ∧ c.toNat ≤ 57 := by
      simpa [Char.isDigit_iff_toNat] using isDigit
    simp only [Text.isBlank, Bool.or_eq_false_iff, Bool.and_eq_false_iff,
      decide_eq_false_iff_not, beq_eq_false_iff_ne]
    omega

/-- Exactly the values that denote a number are read. -/
theorem readWord_trim_eq_ok_iff :
    Decimal.readWord (Text.trim value.toList) = .ok word ↔ Denotes value word := by
  rw [Decimal.readWord_eq_ok_iff]
  constructor
  · intro writes
    exact ⟨_, Text.surrounds_trim _, writes⟩
  · rintro ⟨number, surrounds, writes⟩
    have noBlank (c : Char) (isPart : c ∈ number) : Text.isBlank c = false :=
      isBlank_of_plus_or_isDigit (writes.plus_or_isDigit c isPart)
    rwa [surrounds.trim writes.nonempty noBlank]

/-- The number in the place of another one, if the variable is set. -/
inductive Replaces (environment : Environment) (name : String) (current : UInt64) :
    UInt64 → Prop
  | unset (isUnset : environment name = none) :
      Replaces environment name current current
  | set (value : String) (isSet : environment name = some value) (word : UInt64)
      (denotes : Denotes value word) : Replaces environment name current word

/-- The variable is set to a value that denotes no number. -/
def Misleads (environment : Environment) (name value : String) : Prop :=
  environment name = some value ∧ ∀ word, ¬ Denotes value word

theorem overriddenWord_of_replaces
    (replaces : Replaces environment name current word) :
    overriddenWord environment name current = .ok word := by
  cases replaces with
  | unset isUnset => simp only [overriddenWord, isUnset]
  | set value isSet word denotes =>
      simp only [overriddenWord, isSet, readWord_trim_eq_ok_iff.2 denotes]

theorem overriddenWord_of_misleads (misleads : Misleads environment name value) :
    overriddenWord environment name current = .error (.override name value) := by
  cases read : Decimal.readWord (Text.trim value.toList) with
  | ok word => exact absurd (readWord_trim_eq_ok_iff.1 read) (misleads.2 word)
  | error error => simp only [overriddenWord, misleads.1, read]

theorem replaces_or_misleads (environment : Environment) (name : String)
    (current : UInt64) :
    (∃ word, Replaces environment name current word) ∨
      ∃ value, Misleads environment name value := by
  cases isSet : environment name with
  | none => exact .inl ⟨current, .unset isSet⟩
  | some value =>
      by_cases denotes : ∃ word, Denotes value word
      · obtain ⟨word, denotes⟩ := denotes
        exact .inl ⟨word, .set value isSet word denotes⟩
      · exact .inr ⟨value, isSet, not_exists.1 denotes⟩

/-- The variables of numbers in the order in which they are looked at. -/
def numberVariables : List String :=
  [timeoutVariable, thresholdVariable, sendTimeoutVariable]

/-- The settings with those replaced for which a variable is set. -/
structure Overridden (environment : Environment) (settings result : Settings) :
    Prop where
  timeout : Replaces environment timeoutVariable
    settings.transaction.timeoutMs result.transaction.timeoutMs
  threshold : Replaces environment thresholdVariable
    settings.transaction.failureThreshold result.transaction.failureThreshold
  sendTimeout : Replaces environment sendTimeoutVariable
    settings.transaction.sendTimeoutMs result.transaction.sendTimeoutMs
  log : result.log =
    { settings.log with
      level := (environment levelVariable).getD settings.log.level }

/-- The first variable of a number whose value denotes none. -/
inductive FirstMisled (environment : Environment) : String → String → Prop
  | first (earlier : List String) (name : String) (later : List String)
      (order : numberVariables = earlier ++ name :: later)
      (sound : ∀ other ∈ earlier, ∀ value, ¬ Misleads environment other value)
      (value : String) (misleads : Misleads environment name value) :
      FirstMisled environment name value

theorem override_of_overridden (overridden : Overridden environment settings result) :
    settings.override environment = .ok result := by
  obtain ⟨⟨timeoutMs, failureThreshold, sendTimeoutMs⟩, log⟩ := result
  obtain ⟨timeout, threshold, sendTimeout, rfl⟩ := overridden
  simp only [override, overriddenWord_of_replaces timeout,
    overriddenWord_of_replaces threshold, overriddenWord_of_replaces sendTimeout]
  rfl

theorem exists_replaces (sound : ∀ value, ¬ Misleads environment name value)
    (current : UInt64) : ∃ word, Replaces environment name current word :=
  (replaces_or_misleads environment name current).resolve_right
    (not_exists.2 sound)

theorem override_of_firstMisled (misled : FirstMisled environment name value)
    (settings : Settings) :
    settings.override environment = .error (.override name value) := by
  obtain ⟨earlier, name, later, order, sound, value, misleads⟩ := misled
  have passed (other : String) (isEarlier : other ∈ earlier) (current : UInt64) :
      ∃ word, overriddenWord environment other current = .ok word :=
    (exists_replaces (sound other isEarlier) current).imp fun _ =>
      overriddenWord_of_replaces
  -- the variable is one of three, and those before it were passed
  match earlier, order with
  | [], order =>
      obtain ⟨rfl, -⟩ := by simpa [numberVariables] using order
      simp only [override, overriddenWord_of_misleads misleads]
      rfl
  | [_], order =>
      obtain ⟨rfl, rfl, -⟩ := by simpa [numberVariables] using order
      obtain ⟨timeoutMs, first⟩ := passed timeoutVariable (by simp)
        settings.transaction.timeoutMs
      simp only [override, first, overriddenWord_of_misleads misleads]
      rfl
  | [_, _], order =>
      obtain ⟨rfl, rfl, rfl, -⟩ := by simpa [numberVariables] using order
      obtain ⟨timeoutMs, first⟩ := passed timeoutVariable (by simp)
        settings.transaction.timeoutMs
      obtain ⟨failureThreshold, second⟩ := passed thresholdVariable (by simp)
        settings.transaction.failureThreshold
      simp only [override, first, second, overriddenWord_of_misleads misleads]
      rfl
  | _ :: _ :: _ :: _, order => simp [numberVariables] at order

theorem overridden_or_firstMisled (environment : Environment)
    (settings : Settings) :
    (∃ result, Overridden environment settings result) ∨
      ∃ name value, FirstMisled environment name value := by
  by_cases first : ∃ value, Misleads environment timeoutVariable value
  · obtain ⟨value, misleads⟩ := first
    exact .inr ⟨_, _, .first [] _ _ rfl (by simp) value misleads⟩
  by_cases second : ∃ value, Misleads environment thresholdVariable value
  · obtain ⟨value, misleads⟩ := second
    exact .inr ⟨_, _, .first [_] _ _ rfl (by simpa using first) value misleads⟩
  by_cases third : ∃ value, Misleads environment sendTimeoutVariable value
  · obtain ⟨value, misleads⟩ := third
    exact .inr ⟨_, _, .first [_, _] _ _ rfl
      (by simpa using ⟨not_exists.1 first, not_exists.1 second⟩) value misleads⟩
  obtain ⟨timeoutMs, timeout⟩ := exists_replaces (not_exists.1 first)
    settings.transaction.timeoutMs
  obtain ⟨failureThreshold, threshold⟩ := exists_replaces (not_exists.1 second)
    settings.transaction.failureThreshold
  obtain ⟨sendTimeoutMs, sendTimeout⟩ := exists_replaces (not_exists.1 third)
    settings.transaction.sendTimeoutMs
  exact .inl ⟨⟨⟨timeoutMs, failureThreshold, sendTimeoutMs⟩, _⟩, timeout,
    threshold, sendTimeout, rfl⟩

theorem override_eq_ok_iff :
    settings.override environment = .ok result ↔
      Overridden environment settings result := by
  refine ⟨fun read => ?_, override_of_overridden⟩
  rcases overridden_or_firstMisled environment settings with
    ⟨other, overridden⟩ | ⟨name, value, misled⟩
  · rw [override_of_overridden overridden] at read
    cases read
    exact overridden
  · rw [override_of_firstMisled misled] at read
    cases read

theorem check_eq_ok_iff : settings.check = .ok result ↔
    settings.violations = [] ∧ result = settings := by
  rw [check_eq]
  cases broken : settings.violations with
  | nil => simp [eq_comm]
  | cons violation others => simp

theorem validate_of_check (passed : settings.check = .ok result) :
    settings.validate = .ok () := by
  rw [check] at passed
  cases valid : settings.validate with
  | ok _ => rfl
  | error violation =>
      rw [valid] at passed
      cases passed

theorem check_of_violations {violation : Violation} {others : List Violation}
    (broken : settings.violations = violation :: others) :
    settings.check = .error (.invalid violation) := by
  rw [check_eq, broken]

/-- If the format is one of the two, only the time limits can break a rule. -/
theorem violations_eq_nil_iff
    (isFormat : settings.log.format = "json" ∨ settings.log.format = "text") :
    settings.violations = [] ↔ 0 < settings.transaction.timeoutMs ∧
      0 < settings.transaction.sendTimeoutMs := by
  simp [violations, isFormat, UInt64.pos_iff_ne_zero]

theorem isFormat_of_violations (valid : settings.violations = []) :
    settings.log.format = "json" ∨ settings.log.format = "text" := by
  simp only [violations, List.append_eq_nil_iff] at valid
  by_contra odd
  simp [odd] at valid

/-- Where settings come from: they are the defaults, or what is found at a path
holds them. -/
inductive Source
  | builtIn
  | file (path : String) (found : Found)

namespace Source

def load : Source → Except SettingsError Settings
  | builtIn => .ok .default
  | file path found => loadFile path found

/-- Load the settings and override them by the variables that are set. -/
def loadWith (environment : Environment) : Source → Except SettingsError Settings
  | builtIn => loadDefault environment
  | file path found => loadFileWithEnvironment path found environment

variable {source : Source}

theorem loadWith_eq (source : Source) (environment : Environment) :
    source.loadWith environment =
      source.load >>= fun settings => settings.withEnvironment environment := by
  cases source <;> rfl

/-- Settings that were loaded break no rule. -/
theorem violations_of_load (loaded : source.load = .ok settings) :
    settings.violations = [] := by
  cases source with
  | builtIn =>
      cases loaded
      rfl
  | file path found =>
      simp only [load, loadFile, Settings.load] at loaded
      split at loaded
      · cases loaded
      · cases loaded
      · split at loaded
        · split at loaded
          · obtain ⟨valid, rfl⟩ := check_eq_ok_iff.1 loaded
            exact valid
          · cases loaded
        · cases loaded

theorem loadWith_of_load (loaded : source.load = .ok settings)
    (environment : Environment) :
    source.loadWith environment =
      settings.override environment >>= fun result => result.check := by
  rw [loadWith_eq, loaded]
  rfl

theorem loadWith_of_overridden (loaded : source.load = .ok settings)
    (overridden : Overridden environment settings result) :
    source.loadWith environment = result.check := by
  rw [loadWith_of_load loaded, override_of_overridden overridden]
  rfl

theorem loadWith_of_firstMisled (loaded : source.load = .ok settings)
    (misled : FirstMisled environment name value) :
    source.loadWith environment = .error (.override name value) := by
  rw [loadWith_of_load loaded, override_of_firstMisled misled]
  rfl

theorem isFormat_of_overridden (loaded : source.load = .ok settings)
    (overridden : Overridden environment settings result) :
    result.log.format = "json" ∨ result.log.format = "text" := by
  rw [overridden.log]
  exact isFormat_of_violations (violations_of_load loaded)

theorem loadWith_eq_ok_iff (loaded : source.load = .ok settings) :
    source.loadWith environment = .ok result ↔
      Overridden environment settings result ∧
        0 < result.transaction.timeoutMs ∧
        0 < result.transaction.sendTimeoutMs := by
  constructor
  · intro read
    rw [loadWith_of_load loaded] at read
    cases overridden : settings.override environment with
    | error error =>
        rw [overridden] at read
        cases read
    | ok other =>
        rw [overridden] at read
        obtain ⟨valid, rfl⟩ := check_eq_ok_iff.1 read
        have isOverridden := override_eq_ok_iff.1 overridden
        exact ⟨isOverridden, (violations_eq_nil_iff
          (isFormat_of_overridden loaded isOverridden)).1 valid⟩
  · rintro ⟨overridden, positive⟩
    rw [loadWith_of_overridden loaded overridden]
    exact check_eq_ok_iff.2 ⟨(violations_eq_nil_iff
      (isFormat_of_overridden loaded overridden)).2 positive, rfl⟩

/-- What is loaded with variables has passed the check once more. -/
theorem validate_of_loadWith (read : source.loadWith environment = .ok result) :
    result.validate = .ok () := by
  cases loaded : source.load with
  | error error =>
      rw [loadWith_eq, loaded] at read
      cases read
  | ok settings =>
      obtain ⟨overridden, -⟩ := (loadWith_eq_ok_iff loaded).1 read
      rw [loadWith_of_overridden loaded overridden] at read
      exact validate_of_check read

end Source

/-- Settings that cannot be loaded are not mended by any variables.  Otherwise the
result are the settings with those replaced for which a variable is set, exactly
if each number denotes one of its type and both time limits are positive; the
first variable that denotes none is reported, and if there is none, the first time
limit that is zero.  Whatever the result is, it breaks no rule. -/
theorem variables_override_settings (source : Source) (environment : Environment) :
    (∀ error, source.load = .error error →
      source.loadWith environment = .error error) ∧
    (∀ settings, source.load = .ok settings →
      (∀ result, source.loadWith environment = .ok result ↔
        Overridden environment settings result ∧
          0 < result.transaction.timeoutMs ∧
          0 < result.transaction.sendTimeoutMs) ∧
      (∀ name value, FirstMisled environment name value →
        source.loadWith environment = .error (.override name value)) ∧
      ((∀ name value, ¬ FirstMisled environment name value) →
        ∃ result, Overridden environment settings result ∧
          (result.transaction.timeoutMs = 0 →
            source.loadWith environment = .error (.invalid .zeroTimeout)) ∧
          (0 < result.transaction.timeoutMs →
            result.transaction.sendTimeoutMs = 0 →
            source.loadWith environment = .error (.invalid .zeroSendTimeout)))) ∧
    ∀ result, source.loadWith environment = .ok result →
      result.validate = .ok () := by
  refine ⟨fun error failed => ?_, fun settings loaded =>
    ⟨fun result => Source.loadWith_eq_ok_iff loaded,
      fun name value misled => Source.loadWith_of_firstMisled loaded misled,
      fun sound => ?_⟩, fun result => Source.validate_of_loadWith⟩
  · rw [Source.loadWith_eq, failed]
    rfl
  · obtain ⟨result, overridden⟩ :=
      (overridden_or_firstMisled environment settings).resolve_right
        fun ⟨name, value, misled⟩ => sound name value misled
    refine ⟨result, overridden, fun noTime => ?_, fun time noSendTime => ?_⟩
    · rw [Source.loadWith_of_overridden loaded overridden]
      exact check_of_violations (by rw [violations, if_pos noTime]; rfl)
    · have timeLeft := UInt64.pos_iff_ne_zero.1 time
      rw [Source.loadWith_of_overridden loaded overridden]
      exact check_of_violations
        (by rw [violations, if_neg timeLeft, if_pos noSendTime]; rfl)

/-- The environment in which just the listed variables are set. -/
def environmentOf (listed : List (String × String)) : Environment :=
  fun name => listed.lookup name

theorem misleads_of_readWord {error : DecimalError}
    (isSet : environment name = some value)
    (read : Decimal.readWord (Text.trim value.toList) = .error error) :
    Misleads environment name value := by
  refine ⟨isSet, fun word denotes => ?_⟩
  rw [readWord_trim_eq_ok_iff.2 denotes] at read
  cases read

/-- Seven milliseconds with blanks around them are put in the place of the
default and a level is taken with its blanks; a file that is not there is not
mended; of two values that are no numbers the first is reported, though a time
limit is without any time; and without such values the time limit is. -/
theorem loadWith_blanks_and_zero :
    (∃ result : Settings, result.transaction.timeoutMs = 7 ∧
      result.log.level = " loud " ∧ result.validate = .ok () ∧
      Source.builtIn.loadWith (environmentOf
        [(timeoutVariable, " +7\t"), (levelVariable, " loud ")]) = .ok result) ∧
    (Source.file "conf" .nothing).loadWith (environmentOf [(timeoutVariable, "7")]) =
      .error (.notFound "conf") ∧
    Source.builtIn.loadWith (environmentOf [(sendTimeoutVariable, "0"),
        (thresholdVariable, "-1"), (timeoutVariable, "7 7")]) =
      .error (.override timeoutVariable "7 7") ∧
    Source.builtIn.loadWith (environmentOf [(sendTimeoutVariable, "0")]) =
      .error (.invalid .zeroSendTimeout) := by
  refine ⟨?blanks, ?missing, ?misled, ?zero⟩
  case blanks =>
    obtain ⟨-, defaults, valid⟩ := variables_override_settings .builtIn
      (environmentOf [(timeoutVariable, " +7\t"), (levelVariable, " loud ")])
    have read := ((defaults .default rfl).1
      { transaction := { TransactionSettings.default with timeoutMs := 7 }
        log := { LogSettings.default with level := " loud " } }).2
      ⟨⟨.set " +7\t" (by rfl) 7 (readWord_trim_eq_ok_iff.1 (by rfl)),
        .unset (by rfl), .unset (by rfl), rfl⟩, by decide, by decide⟩
    exact ⟨_, rfl, rfl, valid _ read, read⟩
  case missing =>
    exact (variables_override_settings (.file "conf" .nothing) _).1 _ rfl
  case misled =>
    exact ((variables_override_settings _ _).2.1 .default rfl).2.1 _ _
      (.first [] timeoutVariable [thresholdVariable, sendTimeoutVariable] rfl
        (by simp) _ (misleads_of_readWord (by rfl) (by rfl)))
  case zero =>
    have overridden : Settings.default.override
        (environmentOf [(sendTimeoutVariable, "0")]) = .ok
          { Settings.default with
            transaction :=
              { TransactionSettings.default with sendTimeoutMs := 0 } } := by
      rfl
    obtain ⟨-, defaults, -⟩ := variables_override_settings .builtIn
      (environmentOf [(sendTimeoutVariable, "0")])
    obtain ⟨result, isResult, -, noSendTime⟩ := (defaults .default rfl).2.2
      fun name value misled => by
        rw [override_of_firstMisled misled] at overridden
        cases overridden
    rw [override_of_overridden isResult] at overridden
    cases overridden
    exact noSendTime (by decide) rfl

end Settings

end CreationCommit
