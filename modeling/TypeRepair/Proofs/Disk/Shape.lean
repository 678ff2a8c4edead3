import Mathlib.Tactic.SplitIfs
import TypeRepair.Disk.Basic

/-!
# New bodies for files that are there

A new body in a file leaves the shape of the disk: every location holds a file, a directory or
nothing as before. Paths then lead where they led before, and what other files hold can be read as
before.

* `SameShape.writeTarget_eq`, `SameShape.read_eq`: what depends on the shape.
* `Touched.write`, `Touched.read_eq`: a disk on which some paths got new bodies.
* `SameBut.read_eq`, `SameBut.write`: disks that differ in the bodies of files of one name.
-/

namespace TypeRepair

/-- Whether a node is a directory. -/
def Node.isDirectory : Node → Bool
  | directory => true
  | file _ => false

namespace Disk

/-- The disks hold files and directories at the same locations. -/
structure SameShape (disk other : Disk) : Prop where
  workingDirectory_eq : other.workingDirectory = disk.workingDirectory
  kind_eq : ∀ location, (other.node? location).map Node.isDirectory =
    (disk.node? location).map Node.isDirectory

/-- The location of the file that a path leads to. -/
def fileAt? (disk : Disk) (path : String) : Option Location :=
  match disk.writeTarget path with
  | .error _ => none
  | .ok location => if (disk.node? location).isSome then some location else none

variable {disk other : Disk} {path : String} {location : Location}

/-! ## Following paths -/

theorem SameShape.refl (disk : Disk) : SameShape disk disk :=
  ⟨rfl, fun _ => rfl⟩

theorem SameShape.trans {last : Disk} (h : SameShape disk other) (hNext : SameShape other last) :
    SameShape disk last :=
  ⟨hNext.workingDirectory_eq.trans h.workingDirectory_eq,
    fun location => (hNext.kind_eq location).trans (h.kind_eq location)⟩

/-- What a location holds on two disks of the same shape. -/
theorem SameShape.node?_cases (h : SameShape disk other) (location : Location) :
    (disk.node? location = none ∧ other.node? location = none) ∨
      (disk.node? location = some .directory ∧ other.node? location = some .directory) ∨
      ∃ old new, disk.node? location = some (.file old) ∧
        other.node? location = some (.file new) := by
  have hKind := h.kind_eq location
  cases hDisk : disk.node? location with
  | none =>
    rw [hDisk, Option.map_none, Option.map_eq_none_iff] at hKind
    exact .inl ⟨rfl, hKind⟩
  | some node =>
    rw [hDisk, Option.map_some, Option.map_eq_some_iff] at hKind
    obtain ⟨node', hOther, hSame⟩ := hKind
    rw [hOther]
    cases node <;> cases node'
    · exact .inr (.inl ⟨rfl, rfl⟩)
    · cases hSame
    · cases hSame
    · exact .inr (.inr ⟨_, _, rfl, rfl⟩)

/-- A name leads to the same from a directory, but for the body of a file. -/
theorem SameShape.step_cases (h : SameShape disk other) (directory : Location) (name : String) :
    (∃ fault, disk.step directory name = .error fault ∧
        other.step directory name = .error fault) ∨
      (∃ location, disk.step directory name = .ok (.free location) ∧
        other.step directory name = .ok (.free location) ∧ disk.node? location = none) ∨
      (∃ location, disk.step directory name = .ok (.found location .directory) ∧
        other.step directory name = .ok (.found location .directory)) ∨
      ∃ location old new, disk.step directory name = .ok (.found location (.file old)) ∧
        other.step directory name = .ok (.found location (.file new)) ∧
        disk.node? location = some (.file old) ∧ other.node? location = some (.file new) := by
  unfold step
  split
  · exact .inr (.inr (.inl ⟨_, rfl, rfl⟩))
  split
  · exact .inr (.inr (.inl ⟨_, rfl, rfl⟩))
  split
  · exact .inl ⟨_, rfl, rfl⟩
  rcases h.node?_cases (directory ++ [name]) with ⟨hDisk, hOther⟩ | ⟨hDisk, hOther⟩ |
    ⟨old, new, hDisk, hOther⟩
  · rw [hDisk, hOther]
    exact .inr (.inl ⟨_, rfl, rfl, hDisk⟩)
  · rw [hDisk, hOther]
    exact .inr (.inr (.inl ⟨_, rfl, rfl⟩))
  · rw [hDisk, hOther]
    exact .inr (.inr (.inr ⟨_, old, new, rfl, rfl, hDisk, hOther⟩))

theorem SameShape.enter_eq (h : SameShape disk other) (directory : Location) (name : String) :
    other.enter directory name = disk.enter directory name := by
  unfold enter
  rcases h.step_cases directory name with ⟨fault, hDisk, hOther⟩ | ⟨location, hDisk, hOther, -⟩ |
    ⟨location, hDisk, hOther⟩ | ⟨location, old, new, hDisk, hOther, -⟩ <;> rw [hDisk, hOther]

theorem SameShape.enterAll_eq (h : SameShape disk other) (directory : Location)
    (names : List String) : other.enterAll directory names = disk.enterAll directory names := by
  induction names generalizing directory with
  | nil => rfl
  | cons name names ih =>
    unfold enterAll
    rw [h.enter_eq]
    cases disk.enter directory name with
    | error fault => rfl
    | ok next => exact ih next

theorem SameShape.origin_eq (h : SameShape disk other) (path : Path) :
    other.origin path = disk.origin path := by
  rw [origin, h.workingDirectory_eq]
  rfl

/-- A path leads to the directory that holds its last name, or fails on the way. -/
def approach (disk : Disk) (path : String) : Except SystemFault (Location × String × Bool) := do
  let path ← checkPath path
  match path.names.getLast? with
  | none => .error .isADirectory
  | some name =>
    let directory ← disk.enterAll (disk.origin path) path.names.dropLast
    .ok (directory, name, path.slashAtEnd)

theorem read_eq (disk : Disk) (path : String) :
    disk.read path =
      match disk.approach path with
      | .error fault => .error fault
      | .ok (directory, name, slashAtEnd) =>
        match disk.step directory name with
        | .error fault => .error fault
        | .ok (.free _) => .error .notFound
        | .ok (.found _ .directory) => .error .isADirectory
        | .ok (.found _ (.file body)) =>
          if slashAtEnd then .error .notADirectory else .ok body := by
  unfold read approach
  cases checkPath path with
  | error fault => rfl
  | ok parts =>
    simp only [bind, Except.bind]
    cases parts.names.getLast? with
    | none => rfl
    | some name =>
      dsimp only
      cases disk.enterAll (disk.origin parts) parts.names.dropLast with
      | error fault => rfl
      | ok directory =>
        dsimp only
        rcases disk.step directory name with fault | ⟨location, _ | body⟩ | location <;> rfl

theorem writeTarget_eq (disk : Disk) (path : String) :
    disk.writeTarget path =
      match disk.approach path with
      | .error fault => .error fault
      | .ok (directory, name, slashAtEnd) =>
        if slashAtEnd then .error .isADirectory
        else
          match disk.step directory name with
          | .error fault => .error fault
          | .ok (.found _ .directory) => .error .isADirectory
          | .ok (.found location (.file _)) | .ok (.free location) => .ok location := by
  unfold writeTarget approach
  cases checkPath path with
  | error fault => rfl
  | ok parts =>
    simp only [bind, Except.bind]
    cases parts.names.getLast? with
    | none => rfl
    | some name =>
      dsimp only
      cases disk.enterAll (disk.origin parts) parts.names.dropLast with
      | error fault => rfl
      | ok directory =>
        dsimp only
        split
        · rfl
        · rcases disk.step directory name with fault | ⟨location, _ | body⟩ | location <;> rfl

theorem SameShape.approach_eq (h : SameShape disk other) (path : String) :
    other.approach path = disk.approach path := by
  unfold approach
  simp only [h.origin_eq, h.enterAll_eq]

theorem SameShape.writeTarget_eq (h : SameShape disk other) (path : String) :
    other.writeTarget path = disk.writeTarget path := by
  rw [Disk.writeTarget_eq, Disk.writeTarget_eq, h.approach_eq]
  rcases disk.approach path with fault | ⟨directory, name, slashAtEnd⟩
  · rfl
  · rcases h.step_cases directory name with ⟨fault, hDisk, hOther⟩ | ⟨location, hDisk, hOther, -⟩ |
      ⟨location, hDisk, hOther⟩ | ⟨location, old, new, hDisk, hOther, -⟩ <;>
      simp only [hDisk, hOther]

theorem SameShape.fileAt?_eq (h : SameShape disk other) (path : String) :
    other.fileAt? path = disk.fileAt? path := by
  unfold fileAt?
  rw [h.writeTarget_eq]
  cases disk.writeTarget path with
  | error fault => rfl
  | ok location =>
    dsimp only
    rcases h.node?_cases location with ⟨hDisk, hOther⟩ | ⟨hDisk, hOther⟩ |
      ⟨old, new, hDisk, hOther⟩
    · rw [hDisk, hOther]
    · rw [hDisk, hOther]
    · rw [hDisk, hOther]
      rfl

/-! ## Files -/

/-- A text that can be read is in the file that the path leads to. -/
theorem fileAt?_of_read {body : Bytes} (h : disk.read path = .ok body) :
    ∃ location, disk.fileAt? path = some location ∧ disk.node? location = some (.file body) := by
  have hTarget := writeTarget_eq disk path
  rw [read_eq] at h
  rcases hApproach : disk.approach path with fault | ⟨directory, name, slashAtEnd⟩
  · rw [hApproach] at h
    cases h
  · rw [hApproach] at h hTarget
    rcases (SameShape.refl disk).step_cases directory name with ⟨fault, hDisk, -⟩ |
      ⟨location, hDisk, -⟩ | ⟨location, hDisk, -⟩ | ⟨location, old, new, hDisk, -, hNode, -⟩
    · simp [hDisk] at h
    · simp [hDisk] at h
    · simp [hDisk] at h
    · simp only [hDisk] at h hTarget
      cases slashAtEnd with
      | true => cases h
      | false =>
        cases h
        exact ⟨location, by simp [fileAt?, hTarget, hNode], hNode⟩

/-- What is read at a path depends on the shape and on the file that the path leads to. -/
theorem SameShape.read_eq (h : SameShape disk other) {path : String}
    (hFile : ∀ location, disk.fileAt? path = some location →
      other.node? location = disk.node? location) : other.read path = disk.read path := by
  have hTarget := Disk.writeTarget_eq disk path
  rw [Disk.read_eq, Disk.read_eq, h.approach_eq]
  rcases hApproach : disk.approach path with fault | ⟨directory, name, slashAtEnd⟩
  · rfl
  · rw [hApproach] at hTarget
    rcases h.step_cases directory name with ⟨fault, hDisk, hOther⟩ | ⟨location, hDisk, hOther, -⟩ |
      ⟨location, hDisk, hOther⟩ | ⟨location, old, new, hDisk, hOther, hOld, hNew⟩
    · simp only [hDisk, hOther]
    · simp only [hDisk, hOther]
    · simp only [hDisk, hOther]
    · simp only [hDisk, hOther]
      cases slashAtEnd with
      | true => rfl
      | false =>
        have hSame := hFile location (by simp [fileAt?, hTarget, hDisk, hOld])
        rw [hOld, hNew] at hSame
        cases hSame
        rfl

/-! ## New bodies -/

theorem lookup_putEntry_of_ne {other location : Location} (h : other ≠ location) (node : Node)
    (entries : List (Location × Node)) :
    (putEntry location node entries).lookup other = entries.lookup other := by
  have hNe : (other == location) = false := by simpa using h
  induction entries with
  | nil => simp [putEntry, h]
  | cons entry entries ih =>
    unfold putEntry
    split
    · rename_i hEntry
      rw [List.lookup_cons, List.lookup_cons, hEntry, hNe]
    · rw [List.lookup_cons, List.lookup_cons, ih]

theorem node?_put_of_ne {other location : Location} (h : other ≠ location) (disk : Disk)
    (node : Node) : (disk.put location node).node? other = disk.node? other := by
  unfold node? put
  rw [lookup_putEntry_of_ne h]

/-- A file is no root, which is a directory. -/
theorem ne_nil_of_file {body : Bytes} (h : disk.node? location = some (.file body)) :
    location ≠ [] := by
  rintro rfl
  cases h

theorem sameShape_put {old : Bytes} (h : disk.node? location = some (.file old)) (new : Bytes) :
    SameShape disk (disk.put location (.file new)) := by
  refine ⟨rfl, fun other => ?_⟩
  by_cases hOther : other = location
  · rw [hOther, node?_put disk (ne_nil_of_file h), h]
    rfl
  · rw [node?_put_of_ne hOther]

/-- A file that could be read can be given a new body. -/
theorem write_of_read {old : Bytes} (h : disk.read path = .ok old) (new : Bytes) :
    ∃ location, disk.fileAt? path = some location ∧ disk.node? location = some (.file old) ∧
      disk.write path new = (.ok (), disk.put location (.file new)) := by
  obtain ⟨location, hFile, hNode⟩ := fileAt?_of_read h
  refine ⟨location, hFile, hNode, ?_⟩
  unfold fileAt? at hFile
  unfold write
  cases hTarget : disk.writeTarget path with
  | error fault => simp [hTarget] at hFile
  | ok target =>
    rw [hTarget] at hFile
    dsimp only at hFile ⊢
    split at hFile
    · cases hFile
      rfl
    · cases hFile

/-! ## Touched files -/

/-- The second disk is the first one but for the bodies of the files that some paths lead to. -/
structure Touched (paths : List String) (disk other : Disk) : Prop where
  shape : SameShape disk other
  elsewhere : ∀ location, (∀ path ∈ paths, disk.fileAt? path ≠ some location) →
    other.node? location = disk.node? location

theorem Touched.refl (paths : List String) (disk : Disk) : Touched paths disk disk :=
  ⟨.refl disk, fun _ _ => rfl⟩

theorem Touched.mono {paths more : List String} (h : Touched paths disk other)
    (hSubset : paths ⊆ more) : Touched more disk other :=
  ⟨h.shape, fun location hNone => h.elsewhere location fun path hPath =>
    hNone path (hSubset hPath)⟩

/-- Paths that lead to other files are read as before. -/
theorem Touched.read_eq {paths : List String} (h : Touched paths disk other) {path : String}
    (hApart : ∀ location, disk.fileAt? path = some location →
      ∀ touched ∈ paths, disk.fileAt? touched ≠ some location) :
    other.read path = disk.read path :=
  h.shape.read_eq fun location hFile => h.elsewhere location (hApart location hFile)

/-- A new body for a file that can be read touches its path only. -/
theorem Touched.write {paths : List String} (h : Touched paths disk other) {path : String}
    {old : Bytes} (hRead : other.read path = .ok old) (new : Bytes) :
    Touched (path :: paths) disk (other.write path new).2 := by
  obtain ⟨location, hFile, hNode, hWrite⟩ := write_of_read hRead new
  rw [hWrite]
  have hShape := sameShape_put hNode new
  refine ⟨h.shape.trans hShape, fun place hNone => ?_⟩
  rw [List.forall_mem_cons] at hNone
  have hPlace : place ≠ location := by
    rintro rfl
    exact hNone.1 (h.shape.fileAt?_eq path ▸ hFile)
  rw [node?_put_of_ne hPlace, h.elsewhere place hNone.2]

/-! ## Files of one name -/

/-- The disks differ in nothing but the bodies of files of this name. -/
structure SameBut (name : String) (disk other : Disk) : Prop where
  shape : SameShape disk other
  elsewhere : ∀ location, location.getLast? ≠ some name →
    other.node? location = disk.node? location

/-- The last of the names in a path. -/
def lastName? (path : String) : Option String :=
  (Path.ofString path).names.getLast?

theorem checkPath_eq_ok_iff {parts : Path} :
    checkPath path = .ok parts ↔ '\x00' ∉ path.toList ∧ path.utf8ByteSize < pathSizeLimit ∧
      path ≠ "" ∧ Path.ofString path = parts := by
  simp only [checkPath, List.contains_iff_mem]
  split_ifs with hNul hEmpty hLong
  · simp [hNul]
  · simp [hEmpty]
  · simp [Nat.not_lt.mpr hLong]
  · simp [hNul, hEmpty, Nat.not_le.mp hLong]

theorem eq_of_checkPath {parts : Path} (h : checkPath path = .ok parts) :
    parts = Path.ofString path :=
  (checkPath_eq_ok_iff.mp h).2.2.2.symm

/-- A path leads on by its last name. -/
theorem lastName?_of_approach {directory : Location} {last : String} {slashAtEnd : Bool}
    (h : disk.approach path = .ok (directory, last, slashAtEnd)) : lastName? path = some last := by
  unfold approach at h
  cases hCheck : checkPath path with
  | error fault =>
    rw [hCheck] at h
    cases h
  | ok parts =>
    rw [hCheck] at h
    simp only [bind, Except.bind] at h
    rw [lastName?, ← eq_of_checkPath hCheck]
    cases hLast : parts.names.getLast? with
    | none => simp [hLast] at h
    | some found =>
      simp only [hLast] at h
      cases hEnter : disk.enterAll (disk.origin parts) parts.names.dropLast with
      | error fault => simp [hEnter] at h
      | ok next =>
        simp only [hEnter, Except.ok.injEq, Prod.mk.injEq] at h
        rw [h.2.1]

variable {name : String}

theorem SameBut.step_eq (h : SameBut name disk other) {last : String} (hLast : last ≠ name)
    (directory : Location) : other.step directory last = disk.step directory last := by
  have hNode : other.node? (directory ++ [last]) = disk.node? (directory ++ [last]) :=
    h.elsewhere _ (by simpa using hLast)
  unfold step
  rw [hNode]

theorem SameBut.read_eq (h : SameBut name disk other) (hPath : lastName? path ≠ some name) :
    other.read path = disk.read path := by
  rw [Disk.read_eq, Disk.read_eq, h.shape.approach_eq]
  rcases hApproach : disk.approach path with fault | ⟨directory, last, slashAtEnd⟩
  · rfl
  · have hLast : last ≠ name := by
      rintro rfl
      exact hPath (lastName?_of_approach hApproach)
    dsimp only
    rw [h.step_eq hLast]

theorem SameBut.put (h : SameBut name disk other) (location : Location) (node : Node) :
    SameBut name (disk.put location node) (other.put location node) := by
  have hThere : (other.put location node).node? location =
      (disk.put location node).node? location := by
    by_cases hRoot : location = []
    · subst hRoot
      rfl
    · rw [node?_put other hRoot, node?_put disk hRoot]
  refine ⟨⟨h.shape.workingDirectory_eq, fun place => ?_⟩, fun place hPlace => ?_⟩
  · by_cases hPut : place = location
    · rw [hPut, hThere]
    · rw [node?_put_of_ne hPut, node?_put_of_ne hPut]
      exact h.shape.kind_eq place
  · by_cases hPut : place = location
    · rw [hPut, hThere]
    · rw [node?_put_of_ne hPut, node?_put_of_ne hPut]
      exact h.elsewhere place hPlace

/-- The same write leaves them so. -/
theorem SameBut.write (h : SameBut name disk other) (path : String) (body : Bytes) :
    (other.write path body).1 = (disk.write path body).1 ∧
      SameBut name (disk.write path body).2 (other.write path body).2 := by
  unfold Disk.write
  rw [h.shape.writeTarget_eq]
  cases disk.writeTarget path with
  | error fault => exact ⟨rfl, h⟩
  | ok location => exact ⟨rfl, h.put location (.file body)⟩

end Disk

end TypeRepair
