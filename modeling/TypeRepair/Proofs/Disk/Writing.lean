import Mathlib.Tactic.SplitIfs
import TypeRepair.Proofs.Disk.Shape

/-!
# Writing files

A write puts a file where there was a file or nothing. Every path that could be written before leads
to the same location afterwards, and no other path can be written then: a new file is on the way to
nothing.

* `writeTarget_put_iff`: what can be written, and where, is not changed by a write.
* `read_of_writeTarget`: what was written is what is read, by every path that leads there.
* `writeTarget_below`: below a file, or below where one could be, nothing can be written.
* `Amended.put`, `Amended.read_eq`: a disk with new bodies at some locations.
* `writeTarget_stored_iff`, `amended_stored`: the same for a text that may be wanted somewhere.
-/

namespace TypeRepair

/-! ## Names between slashes -/

namespace Path

theorem pieces_cons (c : Char) (cs : List Char) :
    pieces (c :: cs) =
      if c = '/' then [] :: pieces cs
      else match pieces cs with
        | [] => [[c]]
        | p :: rest => (c :: p) :: rest := rfl

theorem pieces_ne_nil (cs : List Char) : pieces cs ≠ [] := by
  cases cs with
  | nil => exact List.cons_ne_nil _ _
  | cons c cs =>
    rw [pieces_cons]
    split
    · exact List.cons_ne_nil _ _
    · split <;> exact List.cons_ne_nil _ _

theorem pieces_append_slash (cs ds : List Char) :
    pieces (cs ++ '/' :: ds) = pieces cs ++ pieces ds := by
  induction cs with
  | nil => rfl
  | cons c cs ih =>
    rw [List.cons_append, pieces_cons, pieces_cons, ih]
    obtain ⟨piece, later, hPieces⟩ := List.exists_cons_of_ne_nil (pieces_ne_nil cs)
    rw [hPieces]
    split <;> rfl

theorem mem_eq_slash_of_pieces {cs : List Char} (h : ∀ piece ∈ pieces cs, piece = []) :
    ∀ c ∈ cs, c = '/' := by
  induction cs with
  | nil => simp
  | cons d cs ih =>
    rw [pieces_cons] at h
    by_cases hSlash : d = '/'
    · rw [if_pos hSlash] at h
      exact List.forall_mem_cons.mpr ⟨hSlash, ih (List.forall_mem_cons.mp h).2⟩
    · obtain ⟨piece, later, hPieces⟩ := List.exists_cons_of_ne_nil (pieces_ne_nil cs)
      rw [if_neg hSlash, hPieces] at h
      cases h (d :: piece) List.mem_cons_self

/-- A path without a name is made of slashes. -/
theorem mem_eq_slash_of_names {path : String} (h : (ofString path).names = []) :
    ∀ c ∈ path.toList, c = '/' :=
  mem_eq_slash_of_pieces (by simpa [ofString] using h)

theorem names_append_slash (front rest : String) :
    (ofString (front ++ "/" ++ rest)).names = (ofString front).names ++ (ofString rest).names := by
  simp [ofString, pieces_append_slash]

end Path

namespace Disk

variable {disk : Disk} {path : String} {location target : Location} {body : Bytes}

/-! ## Names that lead on -/

/-- The name stands for an entry of a directory and can be one. -/
structure IsEntryName (name : String) : Prop where
  ne_here : name ≠ "."
  ne_parent : name ≠ ".."
  short : ¬maxNameSize < name.utf8ByteSize

theorem step_entry (disk : Disk) (directory : Location) {name : String} (h : IsEntryName name) :
    disk.step directory name =
      match disk.node? (directory ++ [name]) with
      | some node => .ok (.found (directory ++ [name]) node)
      | none => .ok (.free (directory ++ [name])) := by
  unfold step
  exact (if_neg h.ne_here).trans ((if_neg h.ne_parent).trans (if_neg h.short))

/-- Any other name leads to a directory or nowhere. -/
theorem step_other (disk : Disk) (directory : Location) {name : String} (h : ¬IsEntryName name) :
    (∃ fault, disk.step directory name = .error fault) ∨
      ∃ place, disk.step directory name = .ok (.found place .directory) := by
  unfold step
  split_ifs with hHere hParent hLong
  · exact .inr ⟨_, rfl⟩
  · exact .inr ⟨_, rfl⟩
  · exact .inl ⟨_, rfl⟩
  · exact absurd ⟨hHere, hParent, hLong⟩ h

/-- A path can be written if it leads to a name that no directory has. -/
theorem writeTarget_eq_ok_iff :
    disk.writeTarget path = .ok target ↔ ∃ directory name,
      disk.approach path = .ok (directory, name, false) ∧ IsEntryName name ∧
        target = directory ++ [name] ∧ disk.node? target ≠ some .directory := by
  rw [writeTarget_eq]
  constructor
  · intro h
    rcases hApproach : disk.approach path with fault | ⟨directory, name, slashAtEnd⟩
    · simp [hApproach] at h
    · cases slashAtEnd with
      | true => simp [hApproach] at h
      | false =>
        rw [hApproach] at h
        dsimp only at h
        rw [if_neg (by decide)] at h
        by_cases hName : IsEntryName name
        · rw [step_entry disk directory hName] at h
          rcases hNode : disk.node? (directory ++ [name]) with _ | _ | body <;>
            simp only [hNode, Except.ok.injEq, reduceCtorEq] at h
          · exact ⟨directory, name, rfl, hName, h.symm, by simp [← h, hNode]⟩
          · exact ⟨directory, name, rfl, hName, h.symm, by simp [← h, hNode]⟩
        · rcases step_other disk directory hName with ⟨fault, hStep⟩ | ⟨place, hStep⟩ <;>
            simp [hStep] at h
  · rintro ⟨directory, name, hApproach, hName, rfl, hNode⟩
    rw [hApproach]
    dsimp only
    rw [if_neg (by decide), step_entry disk directory hName]
    rcases hFound : disk.node? (directory ++ [name]) with _ | _ | body
    · rfl
    · exact absurd hFound hNode
    · rfl

/-- What is read at a path is the body of the file that the path leads to. -/
theorem read_eq_ok_iff :
    disk.read path = .ok body ↔ ∃ directory name,
      disk.approach path = .ok (directory, name, false) ∧ IsEntryName name ∧
        disk.node? (directory ++ [name]) = some (.file body) := by
  rw [read_eq]
  constructor
  · intro h
    rcases hApproach : disk.approach path with fault | ⟨directory, name, slashAtEnd⟩
    · simp [hApproach] at h
    · rw [hApproach] at h
      dsimp only at h
      by_cases hName : IsEntryName name
      · rw [step_entry disk directory hName] at h
        rcases hNode : disk.node? (directory ++ [name]) with _ | _ | found
        · simp [hNode] at h
        · simp [hNode] at h
        · cases slashAtEnd with
          | true => simp [hNode] at h
          | false =>
            simp only [hNode, Bool.false_eq_true, if_false, Except.ok.injEq] at h
            exact ⟨directory, name, rfl, hName, by rw [hNode, h]⟩
      · rcases step_other disk directory hName with ⟨fault, hStep⟩ | ⟨place, hStep⟩ <;>
          simp [hStep] at h
  · rintro ⟨directory, name, hApproach, hName, hNode⟩
    rw [hApproach]
    dsimp only
    rw [step_entry disk directory hName, hNode]
    rfl

theorem read_of_writeTarget (h : disk.writeTarget path = .ok location)
    (hNode : disk.node? location = some (.file body)) : disk.read path = .ok body := by
  obtain ⟨directory, name, hApproach, hName, rfl, -⟩ := writeTarget_eq_ok_iff.mp h
  exact read_eq_ok_iff.mpr ⟨directory, name, hApproach, hName, hNode⟩

/-! ## Directories on the way -/

theorem enterAll_cons_iff {directory next : Location} {name : String} {names : List String} :
    disk.enterAll directory (name :: names) = .ok next ↔
      ∃ middle, disk.enter directory name = .ok middle ∧ disk.enterAll middle names = .ok next := by
  rw [enterAll]
  cases disk.enter directory name <;> simp

/-- A path leads to the directory that its names but the last one lead to. -/
theorem approach_eq_ok_iff {directory : Location} {name : String} {slashAtEnd : Bool} :
    disk.approach path = .ok (directory, name, slashAtEnd) ↔ ∃ parts,
      checkPath path = .ok parts ∧ parts.names.getLast? = some name ∧
        disk.enterAll (disk.origin parts) parts.names.dropLast = .ok directory ∧
        parts.slashAtEnd = slashAtEnd := by
  unfold approach
  rcases checkPath path with fault | parts
  · simp [bind, Except.bind]
  · simp only [bind, Except.bind]
    rcases hLast : parts.names.getLast? with _ | last
    · simp [hLast]
    · rcases hEnter : disk.enterAll (disk.origin parts) parts.names.dropLast with fault | place
      · simp [hLast, hEnter]
      · simp [hLast, hEnter, and_left_comm]

theorem enterAll_append_iff {directory next : Location} {names more : List String} :
    disk.enterAll directory (names ++ more) = .ok next ↔ ∃ middle,
      disk.enterAll directory names = .ok middle ∧ disk.enterAll middle more = .ok next := by
  induction names generalizing directory with
  | nil => simp [enterAll]
  | cons name names ih =>
    rw [List.cons_append, enterAll_cons_iff]
    simp only [ih, enterAll_cons_iff]
    exact ⟨fun ⟨first, hFirst, middle, hMiddle, hNext⟩ => ⟨middle, ⟨first, hFirst, hMiddle⟩, hNext⟩,
      fun ⟨middle, ⟨first, hFirst, hMiddle⟩, hNext⟩ => ⟨first, hFirst, middle, hMiddle, hNext⟩⟩

/-- Into an entry one comes if it is a directory. -/
theorem enter_entry_iff {directory next : Location} {name : String} (h : IsEntryName name) :
    disk.enter directory name = .ok next ↔
      next = directory ++ [name] ∧ disk.node? next = some .directory := by
  rw [enter, step_entry disk directory h]
  constructor
  · intro hEnter
    rcases hNode : disk.node? (directory ++ [name]) with _ | _ | body <;>
      simp only [hNode, Except.ok.injEq, reduceCtorEq] at hEnter
    exact ⟨hEnter.symm, hEnter ▸ hNode⟩
  · rintro ⟨rfl, hNode⟩
    rw [hNode]

/-- Any other name leads to the same on every disk. -/
theorem enter_other (disk other : Disk) (directory : Location) {name : String}
    (h : ¬IsEntryName name) : other.enter directory name = disk.enter directory name := by
  have hStep : other.step directory name = disk.step directory name := by
    unfold step
    split_ifs with hHere hParent hLong
    · rfl
    · rfl
    · rfl
    · exact absurd ⟨hHere, hParent, hLong⟩ h
  rw [enter, enter, hStep]

/-! ## Below a file -/

/-- A path that goes on behind one that can be written cannot be written itself. -/
theorem writeTarget_below (h : disk.writeTarget path = .ok location) (rest : String) :
    disk.writeTarget (path ++ "/" ++ rest) ≠ .ok target := by
  intro hBelow
  obtain ⟨directory, name, hApproach, hName, rfl, hNode⟩ := writeTarget_eq_ok_iff.mp h
  obtain ⟨parts, hCheck, hLast, hEnter, -⟩ := approach_eq_ok_iff.mp hApproach
  obtain ⟨_, _, hApproach', -⟩ := writeTarget_eq_ok_iff.mp hBelow
  obtain ⟨parts', hCheck', -, hEnter', hSlash⟩ := approach_eq_ok_iff.mp hApproach'
  obtain rfl := eq_of_checkPath hCheck
  obtain rfl := eq_of_checkPath hCheck'
  by_cases hRest : (Path.ofString rest).names = []
  · have hAll := Path.mem_eq_slash_of_names hRest
    have hLastChar : (path ++ "/" ++ rest).toList.getLast? = some '/' := by
      rcases List.eq_nil_or_concat rest.toList with hNil | ⟨front, c, hConcat⟩
      · simp [hNil]
      · obtain rfl : c = '/' := hAll c (by simp [hConcat])
        simp [hConcat, List.getLast?_cons]
    rw [Path.ofString, hLastChar] at hSlash
    cases hSlash
  · have hOrigin : disk.origin (Path.ofString (path ++ "/" ++ rest)) =
        disk.origin (Path.ofString path) := by
      rcases hPath : path.toList with _ | ⟨c, cs⟩
      · simp [Path.ofString, hPath, Path.pieces] at hLast
      · simp [origin, Path.ofString, hPath]
    obtain ⟨front, hFront⟩ := List.getLast?_eq_some_iff.mp hLast
    rw [hFront, List.dropLast_concat] at hEnter
    rw [hOrigin, Path.names_append_slash, List.dropLast_append_of_ne_nil hRest,
      enterAll_append_iff, hFront] at hEnter'
    obtain ⟨middle, hMiddle, -⟩ := hEnter'
    obtain ⟨place, hPlace, hInto⟩ := enterAll_append_iff.mp hMiddle
    obtain ⟨next, hNext, -⟩ := enterAll_cons_iff.mp hInto
    obtain rfl : directory = place := Except.ok.inj (hEnter.symm.trans hPlace)
    obtain ⟨rfl, hDirectory⟩ := (enter_entry_iff hName).mp hNext
    exact hNode hDirectory

/-! ## A new file -/

section Put

variable (h : disk.node? location ≠ some .directory)

include h

theorem ne_nil_of_ne_directory : location ≠ [] := by
  rintro rfl
  exact h rfl

/-- A new file makes and removes no directory. -/
theorem node?_put_eq_directory_iff {place : Location} :
    (disk.put location (.file body)).node? place = some .directory ↔
      disk.node? place = some .directory := by
  by_cases hPlace : place = location
  · rw [hPlace, node?_put disk (ne_nil_of_ne_directory h)]
    simp [h]
  · rw [node?_put_of_ne hPlace]

theorem enter_put_iff {directory next : Location} {name : String} :
    (disk.put location (.file body)).enter directory name = .ok next ↔
      disk.enter directory name = .ok next := by
  by_cases hName : IsEntryName name
  · rw [enter_entry_iff hName, enter_entry_iff hName, node?_put_eq_directory_iff h]
  · rw [enter_other disk _ directory hName]

theorem enterAll_put_iff {directory next : Location} {names : List String} :
    (disk.put location (.file body)).enterAll directory names = .ok next ↔
      disk.enterAll directory names = .ok next := by
  induction names generalizing directory with
  | nil => exact Iff.rfl
  | cons name names ih => simp only [enterAll_cons_iff, enter_put_iff h, ih]

theorem approach_put_iff {result : Location × String × Bool} :
    (disk.put location (.file body)).approach path = .ok result ↔
      disk.approach path = .ok result := by
  obtain ⟨directory, name, slashAtEnd⟩ := result
  have hOrigin : ∀ parts, (disk.put location (.file body)).origin parts = disk.origin parts :=
    fun _ => rfl
  simp only [approach_eq_ok_iff, hOrigin, enterAll_put_iff h]

theorem writeTarget_put_iff :
    (disk.put location (.file body)).writeTarget path = .ok target ↔
      disk.writeTarget path = .ok target := by
  rw [writeTarget_eq_ok_iff, writeTarget_eq_ok_iff]
  simp only [approach_put_iff h, ne_eq, node?_put_eq_directory_iff h]

end Put

/-- The other disk holds these bodies, the first one where there are several for a location, and
what the disk holds elsewhere. -/
structure Amended (disk : Disk) (bodies : List (Location × Bytes)) (other : Disk) : Prop where
  workingDirectory_eq : other.workingDirectory = disk.workingDirectory
  node?_eq : ∀ place,
    other.node? place = ((bodies.lookup place).map Node.file).or (disk.node? place)

theorem Amended.refl (disk : Disk) : Amended disk [] disk :=
  ⟨rfl, fun _ => rfl⟩

theorem Amended.put {bodies : List (Location × Bytes)} {other : Disk}
    (h : Amended disk bodies other) (hLocation : location ≠ []) (body : Bytes) :
    Amended disk ((location, body) :: bodies) (other.put location (.file body)) := by
  refine ⟨h.workingDirectory_eq, fun place => ?_⟩
  by_cases hPlace : place = location
  · rw [hPlace, node?_put other hLocation, List.lookup_cons_self]
    rfl
  · rw [node?_put_of_ne hPlace, h.node?_eq, List.lookup_cons, beq_eq_false_iff_ne.mpr hPlace]

/-- A body is read by every path that leads to it. -/
theorem Amended.read_eq {bodies : List (Location × Bytes)} {other : Disk}
    (h : Amended disk bodies other) (hPath : other.writeTarget path = .ok location)
    (hBody : bodies.lookup location = some body) : other.read path = .ok body :=
  read_of_writeTarget hPath (by rw [h.node?_eq, hBody]; rfl)

/-! ## Texts for paths -/

/-- The path leads to a place for a file. -/
def Writable (disk : Disk) (path : String) : Prop :=
  ∃ location, disk.writeTarget path = .ok location

/-- The text with the location that the path leads to, if there is a path and it leads to one. -/
def bodiesAt (disk : Disk) (text : String) : Option String → List (Location × Bytes)
  | none => []
  | some path =>
    match disk.writeTarget path with
    | .error _ => []
    | .ok location => [(location, Text.encode text)]

/-- The disk after a text was written to a path, if there is one. -/
def stored (disk : Disk) (text : String) : Option String → Disk
  | none => disk
  | some path => (disk.write path (Text.encode text)).2

section Texts

variable {other : Disk} {bodies : List (Location × Bytes)} {wanted : Option String}

theorem write_of_writeTarget (h : disk.writeTarget path = .ok location) (body : Bytes) :
    disk.write path body = (.ok (), disk.put location (.file body)) := by
  rw [write, h]

theorem exists_fault_of_not_writable (h : ¬disk.Writable path) :
    ∃ fault, disk.writeTarget path = .error fault := by
  cases hTarget : disk.writeTarget path with
  | error fault => exact ⟨fault, rfl⟩
  | ok location => exact absurd ⟨location, hTarget⟩ h

/-- After a write every path leads where it led before, and no other path leads anywhere. -/
theorem writeTarget_stored_iff (text : String) (h : ∀ path ∈ wanted, disk.Writable path) :
    (disk.stored text wanted).writeTarget path = .ok location ↔
      disk.writeTarget path = .ok location := by
  cases wanted with
  | none => exact Iff.rfl
  | some written =>
    obtain ⟨place, hPlace⟩ := h written rfl
    rw [stored, write_of_writeTarget hPlace]
    obtain ⟨_, _, _, _, _, hNode⟩ := writeTarget_eq_ok_iff.mp hPlace
    exact writeTarget_put_iff hNode

theorem writable_stored_iff (text : String) (h : ∀ path ∈ wanted, disk.Writable path) :
    (disk.stored text wanted).Writable path ↔ disk.Writable path :=
  exists_congr fun _ => writeTarget_stored_iff text h

theorem bodiesAt_some (h : disk.writeTarget path = .ok location) (text : String) :
    disk.bodiesAt text (some path) = [(location, Text.encode text)] := by
  rw [bodiesAt, h]

theorem bodiesAt_stored {text : String} (h : ∀ path ∈ wanted, disk.Writable path)
    (other : String) (more : Option String) :
    (disk.stored text wanted).bodiesAt other more = disk.bodiesAt other more := by
  cases more with
  | none => rfl
  | some path =>
    cases hTarget : disk.writeTarget path with
    | ok location =>
      rw [bodiesAt_some hTarget, bodiesAt_some ((writeTarget_stored_iff text h).mpr hTarget)]
    | error fault =>
      rw [bodiesAt, bodiesAt, hTarget]
      cases hStored : (disk.stored text wanted).writeTarget path with
      | error _ => rfl
      | ok location => cases hTarget.symm.trans ((writeTarget_stored_iff text h).mp hStored)

theorem amended_stored (text : String) (h : Amended disk bodies other)
    (hTarget : ∀ path ∈ wanted, other.Writable path) :
    Amended disk (other.bodiesAt text wanted ++ bodies) (other.stored text wanted) := by
  cases wanted with
  | none => exact h
  | some path =>
    obtain ⟨location, hLocation⟩ := hTarget path rfl
    obtain ⟨_, _, _, _, _, hNode⟩ := writeTarget_eq_ok_iff.mp hLocation
    rw [stored, write_of_writeTarget hLocation, bodiesAt_some hLocation]
    exact h.put (ne_nil_of_ne_directory hNode) _

theorem amended_stored_refl (text : String) (h : ∀ path ∈ wanted, disk.Writable path) :
    Amended disk (disk.bodiesAt text wanted) (disk.stored text wanted) := by
  simpa using amended_stored text (.refl disk) h

end Texts

end Disk

end TypeRepair
