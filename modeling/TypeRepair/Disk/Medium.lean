import TypeRepair.Disk.Basic

/-!
# Media

What a disk keeps its files on. That a path leads to a file is not all that a write needs: the file
may be refused, and there may be no room for the whole body. A file that is opened to be written is
emptied first, so a write that fails later leaves in it what was stored by then.

* `Medium.Regular`: a medium that holds what it takes.
* `Disk.writeOn_plain`: a medium that takes everything.
-/

namespace TypeRepair

/-- What becomes of a write where its path leads to. -/
inductive Fate
  /-- The file cannot be opened, and nothing changes. -/
  | refused (fault : SystemFault)
  /-- The file is opened, which empties it, and holds these bytes in the end. -/
  | opened (left : Bytes) (answer : Except SystemFault Unit)

/-- What becomes of writes, by the location and the body. It may depend on the disk and on a state
of the system that is outside of it. -/
abbrev Medium (σ : Type) := Location → Bytes → Disk → σ → Fate × σ

namespace Medium

variable {σ : Type}

/-- A medium that takes every body whole. -/
def plain : Medium σ := fun _ body _ state => (.opened body (.ok ()), state)

/-- A medium that takes every body whole but for a device at one location, which takes everything
and holds nothing. -/
def withSink (sink : Location) : Medium σ := fun location body _ state =>
  (.opened (if location = sink then [] else body) (.ok ()), state)

/-- The medium may refuse to open the file at a location for this body. -/
def Refuses (medium : Medium σ) (location : Location) (body : Bytes) (fault : SystemFault) : Prop :=
  ∃ disk state, (medium location body disk state).1 = .refused fault

/-- The medium may fail to take this body, after which these bytes are left. -/
def Cuts (medium : Medium σ) (location : Location) (body left : Bytes) (fault : SystemFault) :
    Prop :=
  ∃ disk state, (medium location body disk state).1 = .opened left (.error fault)

/-- What is written is stored from its beginning on, and all of it if the write succeeds. This is so
of files, and not of devices. -/
structure Regular (medium : Medium σ) : Prop where
  whole : ∀ {location body left disk state},
    (medium location body disk state).1 = .opened left (.ok ()) → left = body
  beginning : ∀ {location body left fault}, medium.Cuts location body left fault → left <+: body

end Medium

/-- Replaces the body of the file at a path, or creates the file, as far as the medium lets it. -/
def Disk.writeOn {σ : Type} (disk : Disk) (medium : Medium σ) (path : String) (body : Bytes)
    (state : σ) : Except SystemFault Unit × Disk × σ :=
  match disk.writeTarget path with
  | .error fault => (.error fault, disk, state)
  | .ok location =>
    match medium location body disk state with
    | (.refused fault, after) => (.error fault, disk, after)
    | (.opened left answer, after) => (answer, disk.put location (.file left), after)

theorem Disk.writeOn_plain {σ : Type} (disk : Disk) (path : String) (body : Bytes) (state : σ) :
    disk.writeOn .plain path body state =
      ((disk.write path body).1, (disk.write path body).2, state) := by
  unfold writeOn write
  cases disk.writeTarget path <;> rfl

end TypeRepair
