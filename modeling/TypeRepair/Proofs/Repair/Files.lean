import Mathlib.Logic.Function.Basic
import TypeRepair.Proofs.Repair.Course
import TypeRepair.Repair.Rehearsal

/-!
# Stores that keep bodies by path

A store keeps bodies by path if a write that succeeds replaces the body of its path, and nothing
else changes a body. Some paths may refuse to be read or written.

* `PathKeyed.follows`: after any calls the files are those before them, changed by the writes.
* `scripted_pathKeyed`: the files of a rehearsal are kept by path.
-/

namespace TypeRepair

/-- The bodies of files, by path. -/
abbrev Files := String → Option String

namespace Repair

/-- What a call with its answer does to the files. -/
def change : Event calls → Files → Files
  | ⟨.write file body, .ok ()⟩, files => Function.update files file (some body)
  | _, files => files

/-- What calls do to the files, one after the other. -/
def changes (events : List (Event calls)) (files : Files) : Files :=
  events.foldl (fun files event => change event files) files

@[simp] theorem changes_nil (files : Files) : changes [] files = files := rfl

@[simp] theorem changes_cons (event : Event calls) (events : List (Event calls)) (files : Files) :
    changes (event :: events) files = changes events (change event files) := rfl

@[simp] theorem changes_append (first second : List (Event calls)) (files : Files) :
    changes (first ++ second) files = changes second (changes first files) :=
  List.foldl_append

/-- Asking for a new body changes nothing. -/
theorem Asked.changes_eq {group : FileErrors} {events : List (Event calls)}
    {result : Except Skip Patch} (h : Asked group events result) (files : Files) :
    changes events files = files := by
  cases h <;> rfl

/-- The collaborators keep these files by path. -/
structure PathKeyed {σ : Type} (collaborators : Collaborators σ) (files : σ → Files) : Prop where
  check_keeps : ∀ s, files (collaborators.check s).2 = files s
  generate_keeps : ∀ instruction s, files (collaborators.generate instruction s).2 = files s
  read_keeps : ∀ file s, files (collaborators.read file s).2 = files s
  read_body : ∀ file s body, (collaborators.read file s).1 = .ok body → files s file = some body
  write_done : ∀ file body s, (collaborators.write file body s).1 = .ok () →
    files (collaborators.write file body s).2 = Function.update (files s) file (some body)
  write_failed : ∀ file body s fault, (collaborators.write file body s).1 = .error fault →
    files (collaborators.write file body s).2 = files s

section

variable {σ : Type} {collaborators : Collaborators σ} {files : σ → Files}

theorem PathKeyed.step (h : PathKeyed collaborators files) {event : Event calls} {s : σ}
    (hAnswer : event.answer = (collaborators.handler event.call s).1) :
    files (collaborators.handler event.call s).2 = change event (files s) := by
  obtain ⟨call, answer⟩ := event
  cases call with
  | check => exact h.check_keeps s
  | read file => exact h.read_keeps file s
  | generate instruction => exact h.generate_keeps instruction s
  | note n => rfl
  | write file body =>
    cases answer with
    | ok _ => exact h.write_done file body s hAnswer.symm
    | error fault => exact h.write_failed file body s fault hAnswer.symm

theorem PathKeyed.follows (h : PathKeyed collaborators files) {s t : σ}
    {events : List (Event calls)} (hFollows : collaborators.handler.Follows s events t) :
    files t = changes events (files s) := by
  induction events generalizing s with
  | nil => rw [hFollows, changes_nil]
  | cons event events ih =>
    obtain ⟨hAnswer, hRest⟩ := hFollows
    rw [changes_cons, ih hRest, h.step hAnswer]

/-- A body that is read is the one that is kept. -/
theorem PathKeyed.first_read (h : PathKeyed collaborators files) {s t : σ} {file body : String}
    {events : List (Event calls)}
    (hFollows : collaborators.handler.Follows s (⟨.read file, .ok body⟩ :: events) t) :
    files s file = some body :=
  h.read_body file s body hFollows.1.symm

end

/-! ## Rehearsals -/

namespace Shelf

theorem lookup_put_of_ne {path other : String} (h : other ≠ path) (body : String)
    (entries : List (String × String)) :
    (put path body entries).lookup other = entries.lookup other := by
  have hNe : (other == path) = false := by simpa using h
  induction entries with
  | nil => simp [put, hNe]
  | cons entry entries ih =>
    unfold put
    split
    · rename_i hEntry
      rw [List.lookup_cons, List.lookup_cons, hEntry, hNe]
    · rw [List.lookup_cons, List.lookup_cons, ih]

end Shelf

theorem scripted_pathKeyed :
    PathKeyed scripted fun script file => script.files.bodies.lookup file where
  check_keeps _ := rfl
  generate_keeps _ _ := rfl
  read_keeps _ _ := rfl
  read_body file script body hRead := by
    simp only [scripted, Shelf.read] at hRead
    split at hRead
    · cases hRead
    · split at hRead
      · rename_i body' hLookup
        cases hRead
        exact hLookup
      · cases hRead
  write_done file body script hWrite := by
    simp only [scripted, Shelf.write] at hWrite ⊢
    split at hWrite
    · cases hWrite
    · rename_i hWritable
      funext other
      rw [if_neg hWritable]
      by_cases hOther : other = file
      · rw [hOther, Function.update_self]
        exact Shelf.lookup_put file body script.files.bodies
      · rw [Function.update_of_ne hOther]
        exact Shelf.lookup_put_of_ne hOther body script.files.bodies
  write_failed file body script fault hWrite := by
    simp only [scripted, Shelf.write] at hWrite ⊢
    split at hWrite
    · rename_i hUnwritable
      rw [if_pos hUnwritable]
    · cases hWrite

end Repair

end TypeRepair
