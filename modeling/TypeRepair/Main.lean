import TypeRepair.Program.Basic
import TypeRepair.Repair.Rehearsal

/-!
# The executable

Performs the program on the system. The executable starts no process and opens no connection: the
checker's output is read from standard input, and every request stays unanswered. Standard input
holds the passes one after the other, divided by lines that hold a form feed only; once they are
used up, the last one repeats.
-/

namespace TypeRepair.Executable

/-- The fault that an error of the system means. -/
def faultOf (error : IO.Error) : SystemFault :=
  match error with
  | .noFileOrDirectory .. => .notFound
  | .inappropriateType _ 20 _ => .notADirectory
  | .inappropriateType _ 21 _ => .isADirectory
  | .invalidArgument _ 36 _ | .resourceExhausted _ 36 _ => .nameTooLong
  | error => .other (toString error)

/-- Performs an operation, whose errors become faults. -/
def attempt {α : Type} (operation : IO α) : IO (Except SystemFault α) := do
  try
    return .ok (← operation)
  catch error =>
    return .error (faultOf error)

/-- Divides a text at the lines that hold a form feed only. -/
def passTexts (lines : List String) : List String :=
  lines.foldr (fun line texts =>
    if line = "\x0c" then "" :: texts
    else match texts with
      | [] => [line ++ "\n"]
      | text :: rest => (line ++ "\n" ++ text) :: rest) [""]

/-- The passes that are left on standard input, which is read when the first one is needed. -/
abbrev Passes := IO.Ref (Option (List String))

/-- The next pass of the checker; its exit code tells whether anything was printed. -/
def nextOutput (passes : Passes) : IO Checker.Output := do
  let left ← match ← passes.get with
    | some left => pure left
    | none => pure (passTexts (← (← IO.getStdin).lines).toList)
  let (text, rest) := Repair.nextOf "" left
  passes.set (some rest)
  return ⟨Text.encode text, [], some (if text = "" then 0 else 2)⟩

/-- Logs a note if it is an error. -/
def log (note : Note) : IO Unit := do
  match note.record with
  | .line .error message fields =>
    let shown := fields.map fun
      | (name, .text text) => " " ++ name ++ "=" ++ text
      | (name, .count n) => " " ++ name ++ "=" ++ toString n
      | (name, .share share) => " " ++ name ++ "=" ++ share.oneDecimal
      | (name, .flag flag) => " " ++ name ++ "=" ++ toString flag
    IO.eprintln ("ERROR " ++ message ++ String.join shown)
  | _ => return ()

/-- Whether there is anything at a path: reading it fails in no other way than by lack of it. -/
def pathExists (path : String) : IO Bool := do
  match ← attempt (IO.FS.readBinFile path) with
  | .error .notFound | .error .notADirectory => return false
  | _ => return true

/-- What the calls do on the system. -/
def perform (passes : Passes) : (call : Host.Call) → IO call.Answer
  | .read path => attempt do return (← IO.FS.readBinFile path).toList
  | .write path body => attempt (IO.FS.writeFile path body)
  | .pathExists path => pathExists path
  | .execute _ _ => do return .ok (← nextOutput passes)
  | .send _ => return .unanswered
  | .print text => IO.print text
  | .note note => log note

/-- The environment variables that the program asks for. -/
def variableNames : List String :=
  Provider.all.map Provider.keyVariable ++ ["CLICOLOR_FORCE", "NO_COLOR", "CLICOLOR", "TERM", "CI"]

/-- The environment variables that are set. -/
def readEnvironment : IO (String → Option String) := do
  let found ← variableNames.filterMapM fun name => do
    return (← IO.getEnv name).map fun value => (name, value)
  return fun name => found.lookup name

end TypeRepair.Executable

/-- Runs the program with the arguments of the process. -/
def main (arguments : List String) : IO UInt32 := do
  let surroundings : TypeRepair.Program.Surroundings :=
    ⟨← TypeRepair.Executable.readEnvironment, ← (← IO.getStdout).isTty⟩
  let passes ← IO.mkRef none
  let outcome ← (TypeRepair.Program.run surroundings arguments).runM
    (TypeRepair.Executable.perform passes)
  IO.eprint outcome.errorText
  if let .usage _ := outcome then
    IO.eprintln "error: the arguments are not understood; --help tells the options"
  return outcome.exitCode.toUInt32
