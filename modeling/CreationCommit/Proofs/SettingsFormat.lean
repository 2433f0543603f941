import CreationCommit.Proofs.JsonLayout
import CreationCommit.Settings.Loading

/-!
# Settings survive being written

Settings are written as an object of two objects, laid out over lines.  Whoever
reads the text finds the settings again, whatever their numbers and texts are,
so only a rule that they break keeps them from being loaded.  A file that was
written is found at the path at which it was written; so the file that is
created with the default settings is loaded as these.
-/

namespace CreationCommit

open Json (Value)

namespace TransactionSettings

theorem isProper_toValue (settings : TransactionSettings) :
    settings.toValue.IsProper := by
  apply Value.isProper_ofFields
  simp [Value.isProper_ofInt]

theorem ofValue?_toValue (settings : TransactionSettings) :
    ofValue? settings.toValue = some settings := by
  simp [ofValue?, toValue, fields, Value.ofFields, Value.isRecord,
    Value.optional?, Value.given?, Value.toWord?_ofInt]

end TransactionSettings

namespace LogSettings

theorem isProper_toValue (settings : LogSettings) :
    settings.toValue.IsProper := by
  apply Value.isProper_ofFields
  simp [Value.isProper_ofText, Value.isProper_bool]

theorem ofValue?_toValue (settings : LogSettings) :
    ofValue? settings.toValue = some settings := by
  simp [ofValue?, toValue, fields, Value.ofFields, Value.isRecord,
    Value.optional?, Value.given?, Value.toText?_ofText, Value.toBool?]

end LogSettings

namespace Settings

theorem isProper_toValue (settings : Settings) : settings.toValue.IsProper := by
  apply Value.isProper_ofFields
  simp [TransactionSettings.isProper_toValue, LogSettings.isProper_toValue]

theorem ofValue?_toValue (settings : Settings) :
    ofValue? settings.toValue = some settings := by
  simp [ofValue?, toValue, fields, Value.ofFields, Value.isRecord,
    Value.optional?, Value.given?, TransactionSettings.ofValue?_toValue,
    LogSettings.ofValue?_toValue]

theorem ofText?_toText (settings : Settings) :
    ofText? settings.toText = some settings := by
  simp only [ofText?, toText, Value.read?_toPrettyText settings.isProper_toValue,
    Option.bind_eq_bind, Option.bind_some, ofValue?_toValue]

theorem load_toText (settings : Settings) (file : Option String) :
    load file settings.toText = settings.check := by
  simp only [load, ofText?_toText]

end Settings

namespace Folder

variable {folder after : Folder} {place : List String} {text : String}
  {content : ByteArray}

/-- To store a file does not change where texts lead. -/
theorem follow?_storeFile (folder : Folder) (stored : List String)
    (content : ByteArray) (path names : List String) :
    (folder.storeFile stored content).follow? path names =
      folder.follow? path names := by
  induction names generalizing path with
  | nil => rfl
  | cons name rest ih =>
      simp only [follow?, ih]
      rfl

theorem path?_storeFile (folder : Folder) (stored : List String)
    (content : ByteArray) (place : List String) (text : String) :
    (folder.storeFile stored content).path? place text =
      folder.path? place text := by
  simp only [path?, follow?_storeFile]

/-- What was written is found where it was written. -/
theorem find_of_write? (written : folder.write? place text content = some after) :
    after.find place text = .file content := by
  obtain ⟨path, leads, stored⟩ := Option.bind_eq_some_iff.1 written
  split at stored
  · cases stored
  · cases stored
    have found : (folder.storeFile path content).file? path = some content := by
      simp [file?, storeFile]
    simp only [find, path?_storeFile, leads, found]

end Folder

/-- A text goes on being split behind a character that is no slash. -/
theorem splitOnAux_of_ne_slash {text : String} {start here : String.Pos.Raw}
    {parts : List String} (inside : ¬ here.atEnd text) (other : here.get text ≠ '/') :
    text.splitOnAux "/" start here 0 parts =
      text.splitOnAux "/" start (here.next text) 0 parts := by
  have differs : ¬ (here.get text == String.Pos.Raw.get "/" 0) := fun same =>
    other (beq_iff_eq.1 same)
  rw [String.splitOnAux, if_neg inside, if_neg differs]
  rfl

theorem fromUTF8?_toUTF8 (text : String) :
    String.fromUTF8? text.toUTF8 = some text :=
  dif_pos text.isValidUTF8

namespace Settings

theorem loadFile_of_write? {folder after : Folder} {place : List String}
    {path : String} (settings : Settings)
    (written : folder.write? place path settings.toText.toUTF8 = some after) :
    loadFile path (after.find place path) = settings.check := by
  simp only [Folder.find_of_write? written, loadFile, fromUTF8?_toUTF8,
    load_toText]

/-- Whatever the numbers, texts and switches of settings are, the text as which
they are written stands for their object, and it is loaded as these settings if
they are valid; if not, the rule that they break first is reported, and nothing
else is ever wrong with the text.  So wherever the default settings are written
to a file, they are loaded from it. -/
theorem load_written_settings :
    (∀ (settings : Settings) (file : Option String),
      settings.toValue.SpelledBy settings.toText ∧
      (settings.validate = .ok () →
        load file settings.toText = .ok settings) ∧
      ∀ violation, settings.validate = .error violation →
        load file settings.toText = .error (.invalid violation)) ∧
    ∀ (folder after : Folder) (place : List String) (path : String),
      folder.write? place path defaultContent = some after →
        loadFile path (after.find place path) = .ok .default := by
  refine ⟨fun settings file => ⟨Value.spelledBy_toPrettyText
      settings.isProper_toValue, fun valid => ?_, fun violation invalid => ?_⟩,
    fun folder after place path written => ?_⟩
  · rw [load_toText, check, valid]
  · rw [load_toText, check, invalid]
  · have valid : Settings.default.check = .ok .default := rfl
    rw [loadFile_of_write? .default written, valid]

/-- Settings with an odd level that allow no time are read and refused, and the
default settings are loaded from a file in an empty folder. -/
theorem load_impatient_and_default_settings :
    let impatient : Settings :=
      { transaction := { TransactionSettings.default with timeoutMs := 0 }
        log := { LogSettings.default with level := "\"\\\n" } }
    impatient.validate = .error .zeroTimeout ∧
      load none impatient.toText = .error (.invalid .zeroTimeout) ∧
      ∃ after, Folder.empty.write? [] "conf" defaultContent = some after ∧
        loadFile "conf" (after.find [] "conf") = .ok .default := by
  have single : "conf".splitOn "/" = ["conf"] := by
    rw [String.splitOn, if_neg (by decide)]
    iterate 4 rw [splitOnAux_of_ne_slash (by decide) (by decide)]
    rw [String.splitOnAux, if_pos (by decide)]
    rfl
  have leads : Folder.empty.path? [] "conf" = some ["conf"] := by
    rw [Folder.path?, if_neg (by decide), single]
    rfl
  have written : Folder.empty.write? [] "conf" defaultContent =
      some (Folder.empty.storeFile ["conf"] defaultContent) := by
    rw [Folder.write?, leads]
    rfl
  exact ⟨rfl, (load_written_settings.1 _ none).2.2 _ rfl, _, written,
    load_written_settings.2 _ _ _ _ written⟩

end Settings

end CreationCommit
