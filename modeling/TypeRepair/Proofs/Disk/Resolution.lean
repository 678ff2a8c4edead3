import Mathlib.Data.List.Basic
import TypeRepair.Proofs.Disk.Writing

/-!
# Where a path leads

A path that is seen from a root leads along the names of the root and then its own, or along its own
only if it is absolute: over directories that are there, to a name that no directory has. Different
paths may lead to the same location.

* `names_join`, `absolute_join`, `slashAtEnd_join`: what a path is when it is seen from a root.
* `walks_iff`: following names to a directory.
* `resolves_iff`: a path can be written where it leads, and leads nowhere if it cannot be written.
* `read_eq_ok_iff_resolves`: what is read at a path is the body at the location that it leads to.
-/

namespace TypeRepair

namespace Path

variable {root path : String}

/-! ## Paths seen from a root -/

theorem join_of_absolute (h : (ofString path).absolute = true) : join root path = path :=
  if_pos (by simpa [ofString] using h)

theorem names_empty : (ofString "").names = [] := rfl

/-- A path that is not absolute is put behind its root, with a slash between them if there is a
root. -/
theorem join_of_relative (root : String) (h : (ofString path).absolute = false) :
    root = "" ∧ join root path = path ∨
      root ≠ "" ∧ ∃ front, join root path = front ++ "/" ++ path ∧
        (ofString front).names = (ofString root).names ∧
        (front ++ "/").toList.head? = root.toList.head? := by
  have hRelative : path.toList.head? ≠ some '/' := by simpa [ofString] using h
  rw [join, if_neg hRelative]
  by_cases hEmpty : root = ""
  · exact .inl ⟨hEmpty, by rw [if_pos (.inl hEmpty), hEmpty, String.empty_append]⟩
  refine .inr ⟨hEmpty, ?_⟩
  by_cases hSlash : root.toList.getLast? = some '/'
  · obtain ⟨cs, hRoot⟩ := List.getLast?_eq_some_iff.mp hSlash
    obtain rfl : root = String.ofList cs ++ "/" := by
      rw [← String.toList_inj, hRoot]
      simp
    refine ⟨String.ofList cs, by rw [if_pos (.inr hSlash)], ?_, rfl⟩
    have hNames := names_append_slash (String.ofList cs) ""
    rw [String.append_empty, names_empty, List.append_nil] at hNames
    exact hNames.symm
  · refine ⟨root, by rw [if_neg (not_or.mpr ⟨hEmpty, hSlash⟩)], rfl, ?_⟩
    obtain ⟨c, cs, hRoot⟩ := List.exists_cons_of_ne_nil (mt String.toList_eq_nil_iff.mp hEmpty)
    rw [String.toList_append, hRoot]
    rfl

/-- The names that a path leads along when it is seen from a root. -/
def namesUnder (root path : String) : List String :=
  if (ofString path).absolute then (ofString path).names
  else (ofString root).names ++ (ofString path).names

theorem names_join (root path : String) :
    (ofString (join root path)).names = namesUnder root path := by
  cases h : (ofString path).absolute with
  | true => rw [join_of_absolute h, namesUnder, if_pos h]
  | false =>
    rw [namesUnder, if_neg (by simp [h])]
    rcases join_of_relative root h with ⟨rfl, hJoin⟩ | ⟨-, front, hJoin, hNames, -⟩
    · rw [hJoin, names_empty, List.nil_append]
    · rw [hJoin, names_append_slash, hNames]

theorem absolute_join (root path : String) : (ofString (join root path)).absolute =
    ((ofString path).absolute || (ofString root).absolute) := by
  cases h : (ofString path).absolute with
  | true => rw [join_of_absolute h, h, Bool.true_or]
  | false =>
    rw [Bool.false_or]
    rcases join_of_relative root h with ⟨rfl, hJoin⟩ | ⟨-, front, hJoin, -, hHead⟩
    · rw [hJoin, h]
      rfl
    · have hFirst : (front ++ "/" ++ path).toList.head? = root.toList.head? := by
        rw [← hHead, String.toList_append]
        exact List.head?_append_of_ne_nil _ (by simp)
      rw [hJoin, ofString, hFirst, ofString]

/-- A path with a last character ends as it does without its root. -/
theorem getLast?_join (root : String) (h : path ≠ "") :
    (join root path).toList.getLast? = path.toList.getLast? := by
  have hNe : path.toList ≠ [] := mt String.toList_eq_nil_iff.mp h
  cases hAbsolute : (ofString path).absolute with
  | true => rw [join_of_absolute hAbsolute]
  | false =>
    rcases join_of_relative root hAbsolute with ⟨-, hJoin⟩ | ⟨-, front, hJoin, -⟩
    · rw [hJoin]
    · rw [hJoin, String.toList_append, List.getLast?_append_of_ne_nil _ hNe]

/-- A path names a file, whatever the root, if it is not empty and does not end at a slash. -/
theorem names_file_iff (root path : String) :
    join root path ≠ "" ∧ (ofString (join root path)).slashAtEnd = false ↔
      path ≠ "" ∧ path.toList.getLast? ≠ some '/' := by
  by_cases hPath : path = ""
  · subst hPath
    have hRelative : (ofString "").absolute = false := rfl
    rcases join_of_relative root hRelative with ⟨-, hJoin⟩ | ⟨-, front, hJoin, -⟩
    · simp [hJoin]
    · simp [hJoin, ofString]
  · have hLast := getLast?_join root hPath
    have hJoin : join root path ≠ "" := by
      intro hEmpty
      rw [hEmpty] at hLast
      exact hPath (String.toList_eq_nil_iff.mp (List.getLast?_eq_none_iff.mp hLast.symm))
    simp [ofString, hLast, hJoin, hPath]

end Path

namespace Disk

/-! ## Resolving a path -/

/-- The names lead from one directory to another: `.` stays there, `..` goes back, and any other
name is that of a directory. -/
inductive Walks (disk : Disk) : Location → List String → Location → Prop
  | nil (directory : Location) : Walks disk directory [] directory
  | here {directory next : Location} {names : List String} (h : Walks disk directory names next) :
    Walks disk directory ("." :: names) next
  | parent {directory next : Location} {names : List String}
    (h : Walks disk directory.dropLast names next) : Walks disk directory (".." :: names) next
  | into {directory next : Location} {name : String} {names : List String}
    (hName : IsEntryName name) (hNode : disk.node? (directory ++ [name]) = some .directory)
    (h : Walks disk (directory ++ [name]) names next) : Walks disk directory (name :: names) next

/-- Where a path starts when it is seen from a root. -/
def start (disk : Disk) (root path : String) : Location :=
  if (Path.ofString path).absolute || (Path.ofString root).absolute then []
  else disk.workingDirectory

/-- The path, seen from the root, leads to the location of a file or to where one could be. -/
structure Resolves (disk : Disk) (root path : String) (location : Location) : Prop where
  /-- The system takes no longer text and none with a NUL. -/
  no_nul : '\x00' ∉ (Path.join root path).toList
  short : (Path.join root path).utf8ByteSize < pathSizeLimit
  /-- The path names a file. -/
  ne_empty : path ≠ ""
  no_slash : path.toList.getLast? ≠ some '/'
  leads : ∃ front name directory, Path.namesUnder root path = front ++ [name] ∧
    disk.Walks (disk.start root path) front directory ∧ IsEntryName name ∧
      location = directory ++ [name]
  not_directory : disk.node? location ≠ some .directory

variable {disk : Disk} {root path : String} {location : Location}

theorem walks_iff {directory next : Location} {names : List String} :
    disk.enterAll directory names = .ok next ↔ disk.Walks directory names next := by
  constructor
  · intro h
    induction names generalizing directory with
    | nil =>
      obtain rfl : directory = next := Except.ok.inj h
      exact .nil directory
    | cons name names ih =>
      obtain ⟨middle, hEnter, hLater⟩ := enterAll_cons_iff.mp h
      by_cases hHere : name = "."
      · subst hHere
        obtain rfl : directory = middle := Except.ok.inj hEnter
        exact .here (ih hLater)
      by_cases hParent : name = ".."
      · subst hParent
        obtain rfl : directory.dropLast = middle := Except.ok.inj hEnter
        exact .parent (ih hLater)
      by_cases hLong : maxNameSize < name.utf8ByteSize
      · simp [enter, step, hHere, hParent, hLong] at hEnter
      · have hName : IsEntryName name := ⟨hHere, hParent, hLong⟩
        obtain ⟨rfl, hNode⟩ := (enter_entry_iff hName).mp hEnter
        exact .into hName hNode (ih hLater)
  · intro h
    induction h with
    | nil directory => rfl
    | here _ ih => exact enterAll_cons_iff.mpr ⟨_, rfl, ih⟩
    | parent _ ih => exact enterAll_cons_iff.mpr ⟨_, rfl, ih⟩
    | into hName hNode _ ih =>
      exact enterAll_cons_iff.mpr ⟨_, (enter_entry_iff hName).mpr ⟨rfl, hNode⟩, ih⟩

theorem origin_join (disk : Disk) (root path : String) :
    disk.origin (Path.ofString (Path.join root path)) = disk.start root path := by
  rw [origin, Path.absolute_join, start]

/-- A path can be written exactly where it leads. -/
theorem resolves_iff :
    disk.Resolves root path location ↔ disk.writeTarget (Path.join root path) = .ok location := by
  simp only [writeTarget_eq_ok_iff, approach_eq_ok_iff, checkPath_eq_ok_iff]
  constructor
  · intro h
    obtain ⟨front, name, directory, hNames, hWalks, hName, rfl⟩ := h.leads
    obtain ⟨hNe, hSlash⟩ := (Path.names_file_iff root path).mpr ⟨h.ne_empty, h.no_slash⟩
    refine ⟨directory, name, ⟨_, ⟨h.no_nul, h.short, hNe, rfl⟩, ?_, ?_, hSlash⟩, hName, rfl,
      h.not_directory⟩
    · rw [Path.names_join, hNames, List.getLast?_concat]
    · rw [Path.names_join, hNames, List.dropLast_concat, origin_join]
      exact walks_iff.mpr hWalks
  · rintro ⟨directory, name, ⟨_, ⟨hNul, hShort, hNe, rfl⟩, hLast, hEnter, hSlash⟩, hName, rfl,
      hNode⟩
    obtain ⟨hPath, hNoSlash⟩ := (Path.names_file_iff root path).mp ⟨hNe, hSlash⟩
    obtain ⟨front, hFront⟩ := List.getLast?_eq_some_iff.mp hLast
    rw [hFront, List.dropLast_concat, origin_join] at hEnter
    rw [Path.names_join] at hFront
    exact ⟨hNul, hShort, hPath, hNoSlash,
      ⟨front, name, directory, hFront, walks_iff.mp hEnter, hName, rfl⟩, hNode⟩

instance (disk : Disk) (root path : String) (location : Location) :
    Decidable (disk.Resolves root path location) :=
  decidable_of_iff _ resolves_iff.symm

theorem Resolves.unique {other : Location} (h : disk.Resolves root path location)
    (hOther : disk.Resolves root path other) : other = location := by
  rw [resolves_iff] at h hOther
  exact Except.ok.inj (hOther.symm.trans h)

/-- What is read at a path is the body at the location that it leads to. -/
theorem read_eq_ok_iff_resolves {body : Bytes} :
    disk.read (Path.join root path) = .ok body ↔
      ∃ location, disk.Resolves root path location ∧ disk.node? location = some (.file body) := by
  simp only [resolves_iff]
  constructor
  · intro h
    obtain ⟨directory, name, hApproach, hName, hNode⟩ := read_eq_ok_iff.mp h
    refine ⟨directory ++ [name], writeTarget_eq_ok_iff.mpr ?_, hNode⟩
    exact ⟨directory, name, hApproach, hName, rfl, by simp [hNode]⟩
  · rintro ⟨location, hTarget, hNode⟩
    exact read_of_writeTarget hTarget hNode

end Disk

end TypeRepair
