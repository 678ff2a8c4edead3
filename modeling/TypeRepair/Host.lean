import TypeRepair.Diagnostic.Checker
import TypeRepair.Http
import TypeRepair.Note
import TypeRepair.Procedure

/-!
# The host

Everything that the program asks of the system it runs on.
-/

namespace TypeRepair.Host

/-- The calls on the host. -/
inductive Call
  /-- The bytes of a file. -/
  | read (path : String)
  /-- Replace the body of a file, or create it. -/
  | write (path body : String)
  /-- Whether there is anything at a path. -/
  | pathExists (path : String)
  /-- Start a program and wait for its end. -/
  | execute (program : String) (arguments : List String)
  /-- Send a request. -/
  | send (request : Http.Request)
  /-- Write to standard output. -/
  | print (text : String)
  /-- Log a note. -/
  | note (note : Note)

/-- The answers to the calls. -/
@[reducible] def Call.Answer : Call → Type
  | read _ => Except SystemFault Bytes
  | write _ _ => Except SystemFault Unit
  | pathExists _ => Bool
  | execute _ _ => Except SystemFault Checker.Output
  | send _ => Http.Delivery
  | print _ => Unit
  | note _ => Unit

/-- The interface of the host. -/
abbrev calls : Interface := ⟨Call, Call.Answer⟩

/-- A procedure on the host. -/
abbrev Action (α : Type) := Procedure calls α

/-- The bytes of a file. -/
def read (path : String) : Action (Except SystemFault Bytes) :=
  Procedure.call (I := calls) (.read path)

/-- Replaces the body of a file, or creates it. -/
def write (path body : String) : Action (Except SystemFault Unit) :=
  Procedure.call (I := calls) (.write path body)

/-- Whether there is anything at a path. -/
def pathExists (path : String) : Action Bool :=
  Procedure.call (I := calls) (.pathExists path)

/-- Starts a program and waits for its end. -/
def execute (program : String) (arguments : List String) :
    Action (Except SystemFault Checker.Output) :=
  Procedure.call (I := calls) (.execute program arguments)

/-- Sends a request. -/
def send (request : Http.Request) : Action Http.Delivery :=
  Procedure.call (I := calls) (.send request)

/-- Writes to standard output. -/
def print (text : String) : Action Unit :=
  Procedure.call (I := calls) (.print text)

/-- Logs a note. -/
def note (note : Note) : Action Unit :=
  Procedure.call (I := calls) (.note note)

/-- The text of a file, whose bytes have to be UTF-8. -/
def readText (path : String) : Action (Except SystemFault String) := do
  match ← read path with
  | .error fault => return .error fault
  | .ok bytes =>
    match Text.decode? bytes with
    | some text => return .ok text
    | none => return .error .notUtf8

end TypeRepair.Host
