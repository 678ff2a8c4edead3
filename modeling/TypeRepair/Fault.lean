import TypeRepair.Text.Quoted

/-!
# System faults

Why an operation on files or processes failed: the codes of the operating system that occur here,
and the failures that are noticed before or after the system is asked.
-/

namespace TypeRepair

/-- The cause of a failed file or process operation. -/
inductive SystemFault
  /-- A directory or file on the way does not exist. -/
  | notFound
  /-- A file stands where the path needs a directory. -/
  | notADirectory
  /-- A directory stands where the operation needs a file. -/
  | isADirectory
  /-- A name has more than 255 bytes, or a path 4096 or more. -/
  | nameTooLong
  /-- A path holds a NUL character. -/
  | nulInPath
  /-- An argument of a process holds a NUL character. -/
  | nulInArgument
  /-- The bytes of a text file are not UTF-8. -/
  | notUtf8
  /-- A failure known by its description only. -/
  | other (description : String)
deriving DecidableEq, Repr

namespace SystemFault

/-- The code of the operating system, for failures that it reports. -/
def code? : SystemFault → Option Nat
  | notFound => some 2
  | notADirectory => some 20
  | isADirectory => some 21
  | nameTooLong => some 36
  | _ => none

/-- The failure in words. -/
def description : SystemFault → String
  | notFound => "No such file or directory"
  | notADirectory => "Not a directory"
  | isADirectory => "Is a directory"
  | nameTooLong => "File name too long"
  | nulInPath => "file name contained an unexpected NUL byte"
  | nulInArgument => "nul byte found in provided data"
  | notUtf8 => "stream did not contain valid UTF-8"
  | other description => description

/-- The name of the class that the failure belongs to. -/
def kind : SystemFault → String
  | notFound => "NotFound"
  | notADirectory => "NotADirectory"
  | isADirectory => "IsADirectory"
  | nameTooLong => "InvalidFilename"
  | nulInPath | nulInArgument => "InvalidInput"
  | notUtf8 => "InvalidData"
  | other _ => "Other"

/-- The failure as a message: in words, with the code if the system reported it. -/
def message (fault : SystemFault) : String :=
  match fault.code? with
  | some code => fault.description ++ " (os error " ++ toString code ++ ")"
  | none => fault.description

/-- The failure with all its parts. -/
def inFull (fault : SystemFault) : String :=
  let parts := "kind: " ++ fault.kind ++ ", message: " ++ Text.quoted fault.description ++ " \x7d"
  match fault.code? with
  | some code => "Os \x7b code: " ++ toString code ++ ", " ++ parts
  | none => "Error \x7b " ++ parts

end SystemFault

end TypeRepair
