import TypeRepair.Proofs.Disk.Resolution
import TypeRepair.Proofs.Text.Decoding

/-!
# Reading texts

The text at a path is that whose bytes are held where the path leads. Bytes of no text cannot be
read, which is no fault of the path: following a path has faults of its own.

* `ne_notUtf8_of_read`: the disk does not look into its files.
* `readText_eq_ok_iff`, `readText_eq_notUtf8_iff`: what is read at a path.
-/

namespace TypeRepair

namespace Disk

variable {disk : Disk} {root path : String}

/-! ## Faults -/

section

variable {fault : SystemFault}

theorem ne_notUtf8_of_step {directory : Location} {name : String}
    (h : disk.step directory name = .error fault) : fault ≠ .notUtf8 := by
  rintro rfl
  unfold step at h
  split_ifs at h
  · cases h
  · split at h <;> cases h

theorem ne_notUtf8_of_enterAll {directory : Location} {names : List String}
    (h : disk.enterAll directory names = .error fault) : fault ≠ .notUtf8 := by
  induction names generalizing directory with
  | nil => cases h
  | cons name names ih =>
    rw [enterAll, enter] at h
    rcases hStep : disk.step directory name with fault' | ⟨place, _ | body⟩ | place <;>
      simp only [hStep, Except.error.injEq] at h
    · exact h ▸ ne_notUtf8_of_step hStep
    · exact ih h
    · simp [← h]
    · simp [← h]

theorem ne_notUtf8_of_approach (h : disk.approach path = .error fault) : fault ≠ .notUtf8 := by
  unfold approach at h
  cases hCheck : checkPath path with
  | error fault' =>
    obtain rfl : fault' = fault := by simpa [hCheck, bind, Except.bind] using h
    rintro rfl
    unfold checkPath at hCheck
    split_ifs at hCheck <;> cases hCheck
  | ok parts =>
    simp only [hCheck, bind, Except.bind] at h
    cases hLast : parts.names.getLast? with
    | none =>
      simp only [hLast, Except.error.injEq] at h
      simp [← h]
    | some name =>
      cases hEnter : disk.enterAll (disk.origin parts) parts.names.dropLast with
      | error fault' =>
        simp only [hLast, hEnter, Except.error.injEq] at h
        exact h ▸ ne_notUtf8_of_enterAll hEnter
      | ok directory => simp [hLast, hEnter] at h

/-- What a file holds is no reason not to give its bytes. -/
theorem ne_notUtf8_of_read (h : disk.read path = .error fault) : fault ≠ .notUtf8 := by
  rw [read_eq] at h
  rcases hApproach : disk.approach path with fault' | ⟨directory, name, slashAtEnd⟩
  · simp only [hApproach, Except.error.injEq] at h
    exact h ▸ ne_notUtf8_of_approach hApproach
  · rcases hStep : disk.step directory name with fault' | ⟨place, _ | body⟩ | place <;>
      simp only [hApproach, hStep, Except.error.injEq] at h
    · exact h ▸ ne_notUtf8_of_step hStep
    · simp [← h]
    · split at h <;> cases h
      simp
    · simp [← h]

end

/-! ## Texts -/

/-- The text of the file at a path. -/
def readText (disk : Disk) (path : String) : Except SystemFault String :=
  match disk.read path with
  | .error fault => .error fault
  | .ok bytes =>
    match Text.decode? bytes with
    | some text => .ok text
    | none => .error .notUtf8

theorem readText_eq_ok_iff {text : String} :
    disk.readText (Path.join root path) = .ok text ↔ ∃ location,
      disk.Resolves root path location ∧ disk.node? location = some (.file (Text.encode text)) := by
  rw [← read_eq_ok_iff_resolves, readText]
  cases disk.read (Path.join root path) with
  | error fault => simp
  | ok bytes =>
    have hBytes : Text.decode? bytes = some text ↔ bytes = Text.encode text := by
      rw [Text.decode?_eq_some_iff_encode, eq_comm]
    dsimp only
    rw [Except.ok.injEq, ← hBytes]
    cases Text.decode? bytes <;> simp

/-- Bytes that are those of no text are not read. -/
theorem readText_eq_notUtf8_iff :
    disk.readText (Path.join root path) = .error .notUtf8 ↔ ∃ location bytes,
      disk.Resolves root path location ∧ disk.node? location = some (.file bytes) ∧
        ∀ text, Text.encode text ≠ bytes := by
  have hBytes : ∀ bytes, Text.decode? bytes = none ↔ ∀ text, Text.encode text ≠ bytes := by
    intro bytes
    simp only [Option.eq_none_iff_forall_ne_some, ne_eq, Text.decode?_eq_some_iff_encode]
  have hRead : disk.readText (Path.join root path) = .error .notUtf8 ↔
      ∃ bytes, disk.read (Path.join root path) = .ok bytes ∧ Text.decode? bytes = none := by
    rw [readText]
    cases hRead : disk.read (Path.join root path) with
    | error fault => simpa using ne_notUtf8_of_read hRead
    | ok bytes => cases hText : Text.decode? bytes <;> simp [hText]
  rw [hRead]
  simp only [read_eq_ok_iff_resolves, hBytes]
  constructor
  · rintro ⟨bytes, ⟨location, hResolves, hNode⟩, hNone⟩
    exact ⟨location, bytes, hResolves, hNode, hNone⟩
  · rintro ⟨location, bytes, hResolves, hNode, hNone⟩
    exact ⟨bytes, ⟨location, hResolves, hNode⟩, hNone⟩

end Disk

end TypeRepair
