import Aqualink.Scheduling.SchedulerService

/-!
# Saving the documents of the system

Four functions write a JSON document over an older one, all of them through a temporary
file that is renamed: the scheduler, the auth stores, the preferences and the preferences
of a user.  Two of them stop when the temporary file cannot be opened; none looks at the
stream after it has written to it.

So a write that is cut short is renamed over the target.  `saves_preserve_iff` says
exactly when that, or a temporary file left over from before, costs the old content.
-/

namespace AqualinkAutomate.Storage

open General Scheduling

/-- The temporary file beside a file. -/
def tempFile (file : String) : String := file ++ ".tmp"

theorem tempFile_ne (file : String) : tempFile file ≠ file := by
  intro h
  have := congrArg String.length h
  simp [tempFile] at this

def authStoreSchemaVersion : ℤ := 1

/-- `SaveAuthStoreFile`, for a document given by its fields.  Setting the permissions of the
temporary file is allowed to fail. -/
def saveAuthStoreFile (text : JsonText) (file : String) (document : List (String × Json))
    (faults : WriteFaults) (files : FileSystem String UInt8) : FileSystem String UInt8 :=
  saveGuarded faults (tempFile file) file
    (text.dump
      (.object (Json.setField "schema_version" (.integer authStoreSchemaVersion) document)))
    files

/-- `PreferencesService::Save`, given the document that `ToJson` makes of the hub. -/
def savePreferences (text : JsonText) (preferencesFile : String) (hub : Option Json)
    (faults : WriteFaults) (files : FileSystem String UInt8) : FileSystem String UInt8 :=
  match hub with
  | none => files
  | some document =>
    if preferencesFile = "" then
      files
    else
      saveUnguarded faults (tempFile preferencesFile) preferencesFile (text.dump document) files

def userPreferencesSchemaVersion : ℤ := 1

/-- The document of `UserPreferencesStore::Save`: the overrides of each user. -/
def userPreferencesDocument (byUser : List (String × Json)) : Json :=
  .object [("schema_version", .integer userPreferencesSchemaVersion), ("users", .object byUser)]

/-- `UserPreferencesStore::Save`. -/
def saveUserPreferences (text : JsonText) (file : String) (byUser : List (String × Json))
    (faults : WriteFaults) (files : FileSystem String UInt8) : FileSystem String UInt8 :=
  if file = "" then
    files
  else
    saveGuarded faults (tempFile file) file (text.dump (userPreferencesDocument byUser)) files

variable {text : JsonText} {file : String} {faults : WriteFaults} {files : FileSystem String UInt8}

theorem preserved_self (document : Option (List UInt8)) : Preserved file document files files :=
  .inl rfl

theorem preserved_ite_iff {document : Option (List UInt8)} {saved : FileSystem String UInt8}
    {safe : Prop} (h : Preserved file document files saved ↔ safe) :
    Preserved file document files (if file = "" then files else saved) ↔ file = "" ∨ safe := by
  split
  next hempty => simp [hempty, preserved_self]
  next hpath => rw [or_iff_right hpath, h]

/-- When each of the saves leaves the old content or the whole new document behind: the
part that was written may be renamed, and where an open failure is passed over, so may a
file that is left over from before. -/
theorem saves_preserve_iff (text : JsonText) (file : String) (faults : WriteFaults)
    (files : FileSystem String UInt8) :
    (∀ service : SchedulerService,
      Preserved file (text.dump service.document) files (service.save text file faults files) ↔
        file = "" ∨ ∀ content, text.dump service.document = some content →
          WrittenSafely faults file content files ∧
            NoStaleTemp faults (tempFile file) file content files) ∧
    (∀ fields, let document : Json :=
        .object (Json.setField "schema_version" (.integer authStoreSchemaVersion) fields)
      Preserved file (text.dump document) files (saveAuthStoreFile text file fields faults files) ↔
        ∀ content, text.dump document = some content →
          WrittenSafely faults file content files) ∧
    (∀ document, Preserved file (text.dump document) files
          (savePreferences text file (some document) faults files) ↔
        file = "" ∨ ∀ content, text.dump document = some content →
          WrittenSafely faults file content files ∧
            NoStaleTemp faults (tempFile file) file content files) ∧
    (∀ byUser, Preserved file (text.dump (userPreferencesDocument byUser)) files
          (saveUserPreferences text file byUser faults files) ↔
        file = "" ∨ ∀ content, text.dump (userPreferencesDocument byUser) = some content →
          WrittenSafely faults file content files) := by
  have hne := tempFile_ne file
  refine ⟨fun service => ?_, fun fields => ?_, fun document => ?_, fun byUser => ?_⟩
  · exact preserved_ite_iff (preserved_saveUnguarded_iff hne)
  · exact preserved_saveGuarded_iff hne
  · exact preserved_ite_iff (preserved_saveUnguarded_iff hne)
  · exact preserved_ite_iff (preserved_saveGuarded_iff hne)

/-! ### A full disk -/

def asciiBytes (text : String) : List UInt8 := text.toList.map fun c => UInt8.ofNat c.toNat

def emptyListText : JsonText where
  dump _ := some (asciiBytes "[]")
  parse bytes := if bytes = asciiBytes "[]" then some (.array []) else none

/-- A service without schedules is saved on a disk with room for one more byte: the file,
which held a list before, ends up with an opening bracket. -/
theorem truncated_by_full_disk :
    ¬ ∀ (text : JsonText) (file : String) (faults : WriteFaults)
        (files : FileSystem String UInt8) (service : SchedulerService),
      Preserved file (text.dump service.document) files (service.save text file faults files) := by
  intro h
  let files : FileSystem String UInt8 :=
    fun path => if path = "schedules.json" then some (asciiBytes "[1]") else none
  have hpreserved := h emptyListText "schedules.json" ⟨true, 1, true⟩ files {}
  have hafter : SchedulerService.save {} emptyListText "schedules.json" ⟨true, 1, true⟩ files
      "schedules.json" = some (asciiBytes "[") := by decide
  rcases hpreserved with hold | ⟨content, hcontent, hnew⟩
  · rw [hafter] at hold
    exact absurd hold (by decide)
  · obtain rfl : asciiBytes "[]" = content := Option.some_inj.mp hcontent
    rw [hafter] at hnew
    exact absurd hnew (by decide)

end AqualinkAutomate.Storage
