import TypeRepair.CommandLine
import TypeRepair.Repair.Loop
import TypeRepair.Store

/-!
# The program

From the arguments to the exit code: settings are loaded and resolved, the loop runs on the working
directory, the report is published, and the summary decides between success and failure.
-/

namespace TypeRepair.Program

/-- What the program is told about the process it runs in. -/
structure Surroundings where
  /-- The environment variables. -/
  environment : String → Option String
  /-- Whether standard output is a terminal. -/
  isTerminal : Bool

/-- Whether the verdict is shown in color: CLICOLOR_FORCE other than 0 asks for it, then NO_COLOR
forbids it, and else a terminal has it unless CLICOLOR is 0. -/
def Surroundings.wantsColor (surroundings : Surroundings) : Bool :=
  let on (name : String) := (surroundings.environment name).map (· != "0")
  if on "CLICOLOR_FORCE" = some true then true
  else if (on "NO_COLOR").isSome then false
  else (on "CLICOLOR").getD true && surroundings.isTerminal

/-- How help is emphasised: a NO_COLOR that is not empty forbids emphasis, then a CLICOLOR_FORCE
that is not empty asks for it, then a CLICOLOR of 0 forbids it, and else a terminal has it that is
known to be capable of it. -/
def Surroundings.emphasis (surroundings : Surroundings) : CommandLine.Emphasis :=
  let named := surroundings.environment
  let given (name : String) := (named name).getD "" != ""
  let capable := (named "TERM").any (· != "dumb") || (named "CLICOLOR").isSome ||
    (named "CI").isSome
  if given "NO_COLOR" then .plain
  else if given "CLICOLOR_FORCE" then .strong
  else if named "CLICOLOR" = some "0" then .plain
  else if surroundings.isTerminal && capable then .strong
  else .plain

/-- Why a run failed. -/
inductive Failure
  | settings (fault : Settings.Fault)
  | checker (failure : Checker.Failure)
  | report (failure : Report.Failure)
  /-- There were errors, and no file got a new body. -/
  | notFixed (errors : Nat)
  /-- Errors were left after all attempts. -/
  | notResolved (errors attempts : Nat)
deriving DecidableEq, Repr

/-- The failure with all its parts. -/
def Failure.inFull : Failure → String
  | settings fault => fault.inFull
  | checker failure => "Diagnostics(" ++ failure.inFull ++ ")"
  | report failure => failure.inFull
  | notFixed errors => Text.quoted (toString errors ++ " TypeScript error(s) could not be fixed")
  | notResolved errors attempts =>
    Text.quoted (toString errors ++ " TypeScript error(s) remain after " ++ toString attempts ++
      " attempts")

/-- How the program ended. -/
inductive Outcome
  | success
  | failure (cause : Failure)
  | usage (error : CommandLine.UsageError)
deriving DecidableEq, Repr

/-- The exit code. -/
def Outcome.exitCode : Outcome → Nat
  | success => 0
  | failure _ => 1
  | usage _ => 2

/-- What the error output says of a failure. -/
def Outcome.errorText : Outcome → String
  | success | usage _ => ""
  | failure cause => "Error: " ++ cause.inFull ++ "\n"

/-- A pass of the checker on a project configuration. -/
def check (project : String) : Host.Action (Except Checker.Failure Checker.Pass) := do
  Host.note (.checkerStarts project)
  match ← Host.execute Checker.program (Checker.arguments project) with
  | .error fault => return .error ⟨fault⟩
  | .ok output =>
    let pass := output.pass
    Host.note (.checkerEnded pass.exitCode pass.text.utf8ByteSize)
    return .ok pass

/-- The calls of the loop, made on the host. -/
def meaning (project : String) (client : Client) (store : Store) :
    (call : Repair.Call) → Host.Action call.Answer
  | .check => check project
  | .read file => store.read file
  | .generate instruction => client.generate instruction
  | .write file body => store.write file body
  | .note note => Host.note note

/-- The repair loop in the working directory. -/
def repair (settings : Settings) (dryRun : Bool) :
    Host.Action (Except Checker.Failure Summary) :=
  (Repair.run settings.maxRetries).via
    (meaning settings.tsconfigPath (Client.ofCredentials settings.provider settings.credentials)
      ⟨".", dryRun⟩)

/-- What a published summary means for the outcome. -/
def judge (maxRetries : Nat) (summary : Summary) : Outcome :=
  if summary.filesFixed = [] ∧ 0 < summary.errorsBefore then
    .failure (.notFixed summary.errorsBefore)
  else if summary.fullyResolved then .success
  else .failure (.notResolved summary.errorsAfter maxRetries)

/-- A run with settings. -/
def runWith (surroundings : Surroundings) (options : CommandLine.Options) (settings : Settings) :
    Host.Action Outcome := do
  Host.note (.settingsResolved settings.inFull)
  Host.note (.loopRunning settings.maxRetries)
  Host.note (.loopBegins settings.provider settings.tsconfigPath options.dryRun)
  match ← repair settings options.dryRun with
  | .error failure => return .failure (.checker failure)
  | .ok summary =>
    Host.note (.loopFinished summary.errorsBefore summary.errorsAfter summary.filesFixed.length)
    match ← Report.publish surroundings.wantsColor options.targets summary with
    | .error failure => return .failure (.report failure)
    | .ok () =>
      let outcome := judge settings.maxRetries summary
      if outcome = .success then Host.note (.finished summary.verdict)
      return outcome

/-- A run with options. -/
def runOptions (surroundings : Surroundings) (options : CommandLine.Options) :
    Host.Action Outcome := do
  Host.note .configurationLoading
  match ← Settings.load surroundings.environment with
  | .error fault => return .failure (.settings fault)
  | .ok configuration =>
    match Settings.resolve configuration options.overrides with
    | .error fault => return .failure (.settings fault)
    | .ok settings => runWith surroundings options settings

/-- The program. -/
def run (surroundings : Surroundings) (arguments : List String) : Host.Action Outcome :=
  match CommandLine.parse arguments with
  | .error .help => do
    Host.print (CommandLine.help surroundings.emphasis)
    return .success
  | .error .version => do
    Host.print CommandLine.version
    return .success
  | .error (.usage error) => return .usage error
  | .ok options => runOptions surroundings options

end TypeRepair.Program
