import Mathlib.Data.List.TakeDrop

/-!
# Saving every change, and replacing a file

A store keeps its data in memory and writes all of it to a file whenever an operation has
changed it.  An operation looks at the memory and either replies, or changes the memory,
saves and replies (`Mutation`).  `Mutation.attempt` carries it out: when the save fails,
the caller gets the failure instead of the reply, and the change of the memory is not
taken back.

So a failed operation leaves the memory as it was exactly when it had nothing to change
(`memory_attempt_error_iff`).

A file system is a map from paths to contents.  A document replaces the content of its
file in two steps: it is written to a temporary file, and the temporary file is renamed
over the target.  The write goes through a stream that may fail at any point and only
remembers that it failed (`WriteFaults`).

`saveUnguarded` goes on after every failure of the stream, and `saveGuarded` stops when the
stream cannot open the file.  `preserved_saveGuarded_iff` and `preserved_saveUnguarded_iff`
say exactly when the target holds its old content or the whole new document afterwards.
-/

namespace AqualinkAutomate.General

section

variable {σ ρ ε : Type*}

/-- What an operation does to the memory it has looked at. -/
inductive Mutation (σ ρ : Type*) where
  | reply (result : ρ)
  /-- Change the memory, save it, then reply. -/
  | change (memory : σ) (result : ρ)

/-- The memory, and what the file was written from if there is one. -/
structure Persisted (σ : Type*) where
  memory : σ
  file : Option σ

namespace Mutation

def within {τ : Type*} (whole : τ → σ) : Mutation τ ρ → Mutation σ ρ
  | reply result => reply result
  | change part result => change (whole part) result

/-- The same operation, with its reply left out. -/
def quiet : Mutation σ ρ → Mutation σ Unit
  | reply _ => reply ()
  | change memory _ => change memory ()

/-- An operation that either refuses or computes the memory it saves. -/
def ofExcept {κ : Type*} : Except κ σ → Mutation σ (Except κ Unit)
  | .error error => reply (.error error)
  | .ok memory => change memory (.ok ())

/-- Carry out an operation whose save, if it makes one, ends as `saved`. -/
def attempt (saved : Except ε Unit) (store : Persisted σ) :
    Mutation σ ρ → Except ε ρ × Persisted σ
  | reply result => (.ok result, store)
  | change memory result =>
    match saved with
    | .ok () => (.ok result, ⟨memory, some memory⟩)
    | .error error => (.error error, ⟨memory, store.file⟩)

variable {mutation : Mutation σ ρ} {store : Persisted σ} {error : ε}

def Keeps (memory : σ) (mutation : Mutation σ ρ) : Prop :=
  ∀ changed result, mutation = change changed result → changed = memory

variable {memory : σ}

@[simp] theorem keeps_reply {result : ρ} : Keeps memory (reply result : Mutation σ ρ) := by
  simp [Keeps]

@[simp] theorem keeps_change {changed : σ} {result : ρ} :
    Keeps memory (change changed result) ↔ changed = memory := by
  simp [Keeps]

theorem keeps_within {τ : Type*} {whole : τ → σ} (hinj : Function.Injective whole) {part : τ}
    {mutation : Mutation τ ρ} :
    (mutation.within whole).Keeps (whole part) ↔ mutation.Keeps part := by
  cases mutation with
  | reply result => simp [within]
  | change changed result => simp [within, hinj.eq_iff]

@[simp] theorem keeps_quiet : mutation.quiet.Keeps memory ↔ mutation.Keeps memory := by
  cases mutation with
  | reply result => simp [quiet]
  | change changed result => simp [quiet]

theorem keeps_ofExcept {κ : Type*} {outcome : Except κ σ} :
    (ofExcept outcome).Keeps memory ↔ ∀ changed, outcome = .ok changed → changed = memory := by
  cases outcome with
  | error error => simp [ofExcept]
  | ok changed => simp [ofExcept]

/-- The failed save of an operation leaves the memory as it was exactly when the operation
does not change it. -/
theorem memory_attempt_error_iff :
    (mutation.attempt (.error error) store).2.memory = store.memory ↔
      mutation.Keeps store.memory := by
  cases mutation with
  | reply result => simp [attempt]
  | change memory result => simp [attempt]

end Mutation

end

/-! ## Replacing a file -/

variable {π α : Type*} [DecidableEq π]

/-- The content of each file that exists. -/
abbrev FileSystem (π α : Type*) : Type _ := π → Option (List α)

structure WriteFaults where
  /-- The stream can open the temporary file, which empties it. -/
  opens : Bool
  /-- The number of symbols that reach the file. -/
  written : ℕ
  /-- The rename is carried out. -/
  renames : Bool
  deriving DecidableEq

/-- Write a document through a stream.  A document that cannot be rendered (`none`) leaves
the file that was opened for it empty. -/
def writeStream (faults : WriteFaults) (path : π) (document : Option (List α))
    (files : FileSystem π α) : FileSystem π α :=
  if faults.opens then
    Function.update files path (some ((document.getD []).take faults.written))
  else
    files

/-- Rename `source` over `target`; it fails when there is no `source`. -/
def rename (faults : WriteFaults) (source target : π) (files : FileSystem π α) :
    FileSystem π α :=
  match files source with
  | none => files
  | some content =>
    if faults.renames then
      Function.update (Function.update files source none) target (some content)
    else
      files

def saveUnguarded (faults : WriteFaults) (temp target : π) (document : Option (List α))
    (files : FileSystem π α) : FileSystem π α :=
  let files := writeStream faults temp document files
  if document.isSome then rename faults temp target files else files

def saveGuarded (faults : WriteFaults) (temp target : π) (document : Option (List α))
    (files : FileSystem π α) : FileSystem π α :=
  if faults.opens then saveUnguarded faults temp target document files else files

/-- The target holds its previous content or the complete new document. -/
def Preserved (target : π) (document : Option (List α)) (before after : FileSystem π α) : Prop :=
  after target = before target ∨ ∃ content, document = some content ∧ after target = some content

variable {faults : WriteFaults} {temp target : π} {document : Option (List α)}
variable {content : List α} {files : FileSystem π α}

theorem writeStream_target (hne : temp ≠ target) :
    writeStream faults temp document files target = files target := by
  rw [writeStream]
  split
  · exact Function.update_of_ne (Ne.symm hne) ..
  · rfl

theorem rename_target :
    rename faults temp target files target =
      if faults.renames then (files temp).or (files target) else files target := by
  rw [rename]
  cases htemp : files temp with
  | none => simp
  | some content => cases faults.renames <;> simp

/-- What is renamed over the target: the part of the document that was written, or what a
file of that name held before when it could not be opened. -/
def renamed (faults : WriteFaults) (temp : π) (content : List α) (files : FileSystem π α) :
    Option (List α) :=
  if faults.opens then some (content.take faults.written) else files temp

theorem saveUnguarded_target (hne : temp ≠ target) :
    saveUnguarded faults temp target (some content) files target =
      if faults.renames then (renamed faults temp content files).or (files target)
      else files target := by
  have htemp : writeStream faults temp (some content) files temp =
      renamed faults temp content files := by
    rw [writeStream, renamed]
    split <;> simp
  simp only [saveUnguarded, Option.isSome_some, if_true]
  rw [rename_target, htemp, writeStream_target hne]

/-- The part that reached the temporary file may be renamed: it is the whole document, or
what the target holds anyway. -/
def WrittenSafely (faults : WriteFaults) (target : π) (content : List α)
    (files : FileSystem π α) : Prop :=
  faults.opens = true → faults.renames = true →
    content.length ≤ faults.written ∨ files target = some (content.take faults.written)

/-- A file that could not be opened for writing may be renamed: there is none, or it holds
the document from before, or what the target holds anyway. -/
def NoStaleTemp (faults : WriteFaults) (temp target : π) (content : List α)
    (files : FileSystem π α) : Prop :=
  faults.opens = false → faults.renames = true →
    ∀ stale, files temp = some stale → stale = content ∨ files target = some stale

theorem preserved_iff_of_renamed (hne : temp ≠ target) :
    Preserved target (some content) files (saveUnguarded faults temp target (some content) files) ↔
      (faults.renames → ∀ text, renamed faults temp content files = some text →
        text = content ∨ files target = some text) := by
  simp only [Preserved, saveUnguarded_target hne, Option.some.injEq, exists_eq_left']
  cases faults.renames with
  | false => simp
  | true =>
    cases hrenamed : renamed faults temp content files with
    | none => simp
    | some text =>
      simp only [if_true, Option.some_or, Option.some.injEq, forall_true_left, forall_eq']
      constructor
      · rintro (h | h)
        · exact .inr h.symm
        · exact .inl h
      · rintro (h | h)
        · exact .inr h
        · exact .inl h.symm

theorem preserved_saveUnguarded_iff (hne : temp ≠ target) :
    Preserved target document files (saveUnguarded faults temp target document files) ↔
      ∀ content, document = some content →
        WrittenSafely faults target content files ∧
          NoStaleTemp faults temp target content files := by
  cases document with
  | none => simp [Preserved, saveUnguarded, writeStream_target hne]
  | some content =>
    rw [preserved_iff_of_renamed hne]
    cases hopens : faults.opens with
    | false => simp [WrittenSafely, NoStaleTemp, renamed, hopens]
    | true => simp [WrittenSafely, NoStaleTemp, renamed, hopens]

theorem preserved_saveGuarded_iff (hne : temp ≠ target) :
    Preserved target document files (saveGuarded faults temp target document files) ↔
      ∀ content, document = some content → WrittenSafely faults target content files := by
  rw [saveGuarded]
  cases hopens : faults.opens with
  | false => simp [Preserved, WrittenSafely, hopens]
  | true =>
    rw [if_pos rfl, preserved_saveUnguarded_iff hne]
    simp [NoStaleTemp, hopens]

end AqualinkAutomate.General
