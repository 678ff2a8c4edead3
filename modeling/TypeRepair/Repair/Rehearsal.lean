import TypeRepair.Repair.Collaborators

/-!
# Rehearsals of the loop

Collaborators that answer from a script. The checker and the generator give their answers in order
and repeat the last one; the files are kept by the exact text of their paths, and some of them may
refuse to be read or written.

* `Shelf.lookup_put`: a body that was put at a path is found there.
-/

namespace TypeRepair.Repair

/-- The next answer of a script and the script after it; the last answer stays. -/
def nextOf {α : Type} (default : α) : List α → α × List α
  | [] => (default, [])
  | [last] => (last, [last])
  | answer :: rest => (answer, rest)

/-- Files by path. -/
structure Shelf where
  bodies : List (String × String)
  unreadable : List String
  unwritable : List String
deriving DecidableEq, Repr

namespace Shelf

/-- Replaces the body of a path, or adds the path at the end. -/
def put (path body : String) : List (String × String) → List (String × String)
  | [] => [(path, body)]
  | entry :: entries =>
    if entry.1 = path then (path, body) :: entries else entry :: put path body entries

/-- The body of a path. -/
def read (shelf : Shelf) (path : String) : Except SystemFault String :=
  if path ∈ shelf.unreadable then .error (.other "permission denied")
  else
    match shelf.bodies.lookup path with
    | some body => .ok body
    | none => .error (.other ("no such file: " ++ path))

/-- Replaces the body of a path. -/
def write (shelf : Shelf) (path body : String) : Except SystemFault Unit × Shelf :=
  if path ∈ shelf.unwritable then (.error (.other "permission denied"), shelf)
  else (.ok (), { shelf with bodies := put path body shelf.bodies })

theorem lookup_put (path body : String) (entries : List (String × String)) :
    (put path body entries).lookup path = some body := by
  induction entries with
  | nil => simp [put]
  | cons entry entries ih =>
    unfold put
    split
    · simp
    · rename_i hNe
      rw [List.lookup_cons]
      have : (path == entry.1) = false := by simpa using fun h => hNe h.symm
      rw [this]
      exact ih

end Shelf

/-- The script of a rehearsal and its files. -/
structure Rehearsal where
  /-- What the passes of the checker print, or why they cannot be made. -/
  passes : List (Except SystemFault String)
  /-- What the generator answers. -/
  answers : List (Except GenerationFault String)
  files : Shelf

/-- The pass of a checker that printed a text: its exit code tells whether there was any. -/
def rehearsedPass (printed : Except SystemFault String) : Except Checker.Failure Checker.Pass :=
  match printed with
  | .error cause => .error ⟨cause⟩
  | .ok text => .ok ⟨some (if text = "" then 0 else 2), text⟩

/-- An answer of the scripted generator. -/
def rehearsedAnswer (answer : Except GenerationFault String) : Except GenerationFault Generated :=
  answer.map fun content => ⟨content, "scripted", 0, 0⟩

/-- The collaborators of a rehearsal. -/
def scripted : Collaborators Rehearsal where
  check script :=
    let (printed, rest) := nextOf (.ok "") script.passes
    (rehearsedPass printed, { script with passes := rest })
  read file script := (script.files.read file, script)
  generate _ script :=
    let (answer, rest) := nextOf (.ok "") script.answers
    (rehearsedAnswer answer, { script with answers := rest })
  write file body script :=
    let (answer, files) := script.files.write file body
    (answer, { script with files := files })

/-- A rehearsal with an error in each of two files, of which the second one cannot be written. -/
def Rehearsal.twoFiles : Rehearsal where
  passes := [
    .ok "a.ts(1,1): error TS1: x\nb.ts(2,5): error TS2: y",
    .ok "a.ts(1,1): error TS1: x\nb.ts(2,5): error TS2: y",
    .ok ""]
  answers := [.ok "```\na\nc\n```"]
  files := ⟨[("a.ts", "a\nb"), ("b.ts", "a\nd")], [], ["b.ts"]⟩

end TypeRepair.Repair
