import TypeRepair.Fault
import TypeRepair.Gate
import TypeRepair.Provider.Generation

/-!
# Notes

Everything that is logged. A note says what happened; `Note.record` gives its written form: a span
with named fields, or a line with a level, a message and fields.
-/

namespace TypeRepair

/-- How a run of the repair loop ended. -/
inductive Verdict
  /-- A pass of the checker reported no error. -/
  | resolved
  /-- All attempts were made. -/
  | exhausted
deriving DecidableEq, Repr

/-- The verdict as reports show it. -/
def Verdict.title : Verdict → String
  | resolved => "RESOLVED"
  | exhausted => "EXHAUSTED"

/-- Why a file was left as it is in an attempt. -/
inductive Skip
  | unreadable (fault : SystemFault)
  | notGenerated (fault : GenerationFault)
  /-- The answer has no fenced block, or an empty one. -/
  | noBlock
  | refused (reason : Gate.Rejection)
deriving DecidableEq, Repr

/-- The reason in words. -/
def Skip.message : Skip → String
  | unreadable fault => "could not read file: " ++ fault.message
  | notGenerated fault => "LLM call failed: " ++ fault.message
  | noBlock => "could not extract code from LLM response"
  | refused reason => reason.message

/-- What is worth logging. -/
inductive Note
  /-- The checker is started with a project configuration. -/
  | checkerStarts (project : String)
  /-- The checker ended; its output has this many bytes. -/
  | checkerEnded (exitCode : Option Int) (bytes : Nat)
  /-- A pass of the checker reported this many errors. -/
  | passMade (exitCode : Option Int) (errors : Nat)
  /-- The errors of the first pass. -/
  | errorsFound (errors : Nat)
  /-- An attempt begins. -/
  | attemptBegins (attempt attempts : Nat)
  /-- The attempt's own pass is clean. -/
  | alreadyResolved
  /-- The errors and files that an attempt deals with. -/
  | errorsRemaining (attempt errors files : Nat)
  /-- The generator answered for a file. -/
  | answerReceived (file model : String)
  /-- The gate let a body through. -/
  | patchAdmitted (file : String) (share : Binary64)
  /-- A body was written. -/
  | fixApplied (file : String) (errorsTargeted changedLines : Nat)
  /-- A body could not be written. -/
  | fixNotWritten (file : String) (fault : SystemFault)
  /-- A file was left as it is. -/
  | fileSkipped (file : String) (reason : Skip)
  /-- The pass after an attempt is clean. -/
  | allFixed (attempts : Nat)
  /-- The pass after an attempt is not clean. -/
  | errorsAfterAttempt (attempt errors : Nat)
  /-- The last pass after all attempts. -/
  | attemptsExhausted (errors attempts : Nat)
  /-- A rehearsed write: nothing is written. -/
  | writeSkipped (file : String) (bytes : Nat)
  /-- A model is asked. -/
  | generationBegins (model : String)
  /-- A request goes to a provider. -/
  | providerCalled (provider : Provider)
  /-- A provider's reply was read. -/
  | replyRead (provider : Provider) (inputTokens outputTokens : Nat)
  /-- The report is written to the terminal and to these paths. -/
  | reportBegins (verdict : Verdict) (markdownPath jsonPath : Option String)
  | reportToTerminal
  | reportToMarkdown (path : String)
  | reportToJson (path : String)
  /-- The configuration is loaded. -/
  | configurationLoading
  /-- The settings in full, with the key left out. -/
  | settingsResolved (settings : String)
  /-- The repair loop is entered. -/
  | loopBegins (provider : Provider) (project : String) (dryRun : Bool)
  | loopRunning (attempts : Nat)
  | loopFinished (errorsBefore errorsAfter filesFixed : Nat)
  /-- The program succeeded. -/
  | finished (verdict : Verdict)
deriving DecidableEq, Repr

namespace Note

/-- How important a line is. -/
inductive Level
  | debug
  | info
  | warn
  | error
deriving DecidableEq, Repr

/-- The level as it is written. -/
def Level.title : Level → String
  | debug => "DEBUG"
  | info => "INFO"
  | warn => "WARN"
  | error => "ERROR"

/-- The value of a field. -/
inductive Value
  | text (text : String)
  | count (n : Nat)
  | share (share : Binary64)
  | flag (flag : Bool)
deriving DecidableEq, Repr

/-- The written form of a note. -/
inductive Record
  | span (name : String) (fields : List (String × Value))
  | line (level : Level) (message : String) (fields : List (String × Value))
deriving DecidableEq, Repr

/-- An exit code, which a process ended from outside does not have. -/
def exitCodeText : Option Int → String
  | none => "None"
  | some code => "Some(" ++ toString code ++ ")"

/-- Skipping a file is an error if its text or an answer could not be had, a mere remark if there
is nothing to change, and a warning else. -/
def skipRecord (file : String) : Skip → Record
  | .refused .noChange => .line .info "no changes needed" [("file", .text file)]
  | reason@(.unreadable _) | reason@(.notGenerated _) =>
    .line .error "skipping file" [("file", .text file), ("reason", .text reason.message)]
  | reason =>
    .line .warn "skipping file" [("file", .text file), ("reason", .text reason.message)]

/-- How each note is written. -/
def record : Note → Record
  | checkerStarts project => .line .info "running tsc" [("config", .text project)]
  | checkerEnded exitCode bytes =>
    .line .debug "tsc finished"
      [("exit_code", .text (exitCodeText exitCode)), ("output_bytes", .count bytes)]
  | passMade exitCode errors =>
    .line .debug "diagnostic pass"
      [("exit_code", .text (exitCodeText exitCode)), ("errors", .count errors)]
  | errorsFound errors => .line .info "found TypeScript error(s)" [("errors", .count errors)]
  | attemptBegins attempt attempts =>
    .span "fix_attempt" [("attempt", .count attempt), ("max_attempts", .count attempts)]
  | alreadyResolved => .line .info "all errors resolved" []
  | errorsRemaining attempt errors files =>
    .line .info "error(s) remaining"
      [("attempt", .count attempt), ("errors", .count errors), ("files", .count files)]
  | answerReceived file model =>
    .line .debug "received patch response" [("file", .text file), ("model", .text model)]
  | patchAdmitted file share =>
    .line .debug "patch admitted" [("file", .text file), ("diff_percentage", .share share)]
  | fixApplied file errorsTargeted changedLines =>
    .line .info "applied fix"
      [("file", .text file), ("errors_targeted", .count errorsTargeted),
        ("changed_lines", .count changedLines)]
  | fixNotWritten file fault =>
    .line .error "failed to write fix" [("file", .text file), ("error", .text fault.message)]
  | fileSkipped file reason => skipRecord file reason
  | allFixed attempts => .line .info "all errors fixed" [("attempts", .count attempts)]
  | errorsAfterAttempt attempt errors =>
    .line .debug "errors remain after attempt"
      [("attempt", .count attempt), ("remaining", .count errors)]
  | attemptsExhausted errors attempts =>
    .line .warn "error(s) remain after all attempts"
      [("remaining", .count errors), ("attempts", .count attempts)]
  | writeSkipped file bytes =>
    .line .info "dry run: skipping write" [("file", .text file), ("bytes", .count bytes)]
  | generationBegins model => .span "generate" [("model", .text model)]
  | providerCalled provider => .line .info ("calling " ++ provider.title ++ " API") []
  | replyRead provider inputTokens outputTokens =>
    .line .debug ("received " ++ provider.title ++ " response")
      [("input_tokens", .count inputTokens), ("output_tokens", .count outputTokens)]
  | reportBegins verdict markdownPath jsonPath =>
    .span "output"
      [("state", .text verdict.title),
        ("markdown_path", .text (Text.quotedOption markdownPath)),
        ("json_path", .text (Text.quotedOption jsonPath))]
  | reportToTerminal => .line .debug "writing summary to terminal" []
  | reportToMarkdown path => .line .debug "writing markdown summary" [("path", .text path)]
  | reportToJson path => .line .debug "writing JSON summary" [("path", .text path)]
  | configurationLoading => .line .info "loading configuration" []
  | settingsResolved settings =>
    .line .debug "resolved settings" [("settings", .text settings)]
  | loopBegins provider project dryRun =>
    .span "tsc_fix"
      [("provider", .text provider.title), ("tsconfig", .text project), ("dry_run", .flag dryRun)]
  | loopRunning attempts => .line .info "running fix loop" [("retries", .count attempts)]
  | loopFinished errorsBefore errorsAfter filesFixed =>
    .line .info "fix loop finished"
      [("errors_before", .count errorsBefore), ("errors_after", .count errorsAfter),
        ("files_fixed", .count filesFixed)]
  | finished verdict => .line .info "done" [("state", .text verdict.title)]

end Note

end TypeRepair
