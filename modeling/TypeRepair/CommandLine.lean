import TypeRepair.Report.Publish
import TypeRepair.Settings.Basic

/-!
# The command line

Arguments are read from left to right. A value is kept aside until the next option begins or the
arguments end, and only then checked; an argument that is not known is reported before that.
-/

namespace TypeRepair.CommandLine

/-- What the command line sets. -/
structure Options where
  maxRetries : Option Nat
  tsconfig : Option String
  provider : Option Provider
  model : Option String
  output : Option String
  json : Option String
  dryRun : Bool
deriving DecidableEq, Repr

/-- No option is set. -/
def Options.none : Options := ⟨.none, .none, .none, .none, .none, .none, false⟩

/-- What a usage error is about. -/
inductive UsageError
  /-- There is no such option, or an argument that belongs to none. -/
  | unknownArgument
  /-- A value is missing, empty where it must not be, or not among the possible ones. -/
  | invalidValue
  /-- A value is no number in the range. -/
  | valueValidation
  /-- An option is given twice. -/
  | argumentConflict
  /-- A flag is given a value. -/
  | tooManyValues
deriving DecidableEq, Repr

/-- Why the arguments set no options. -/
inductive Refusal
  | usage (error : UsageError)
  | help
  | version
deriving DecidableEq, Repr

/-- The options that take a value. -/
inductive Key
  | maxRetries
  | tsconfig
  | provider
  | model
  | output
  | json
deriving DecidableEq, Repr

/-- The flags. -/
inductive Flag
  | dryRun
  | help
  | version
deriving DecidableEq, Repr

/-- An option or a flag. -/
inductive Switch
  | key (key : Key)
  | flag (flag : Flag)
deriving DecidableEq, Repr

/-- The long names. -/
def longNames : List (String × Switch) :=
  [("max-retries", .key .maxRetries), ("tsconfig", .key .tsconfig), ("provider", .key .provider),
    ("model", .key .model), ("output", .key .output), ("json", .key .json),
    ("dry-run", .flag .dryRun), ("help", .flag .help), ("version", .flag .version)]

/-- The short names. -/
def shortNames : List (Char × Switch) :=
  [('o', .key .output), ('h', .flag .help), ('V', .flag .version)]

/-- What help says about an option or a flag. -/
structure Entry where
  short : Option Char
  long : String
  /-- The name of its value; empty for a flag. -/
  value : String
  about : String

/-- The entries of help. -/
def entries : List Entry :=
  [⟨none, "max-retries", "MAX_RETRIES",
      "Maximum fix attempts (default 3, or \x60fixer.max_retries\x60 in .tsc-fixer.toml)"⟩,
    ⟨none, "tsconfig", "TSCONFIG", "tsconfig passed to \x60tsc -p\x60 (default tsconfig.json)"⟩,
    ⟨none, "provider", "PROVIDER",
      "Text-generation provider [possible values: anthropic, openai]"⟩,
    ⟨none, "model", "MODEL", "Model override for the selected provider"⟩,
    ⟨some 'o', "output", "OUTPUT",
      "Optional output file path for a markdown summary (pull-request body)"⟩,
    ⟨none, "json", "JSON", "Optional output file path for a JSON summary"⟩,
    ⟨none, "dry-run", "", "Run the loop without writing any file"⟩,
    ⟨some 'h', "help", "", "Print help"⟩,
    ⟨some 'V', "version", "", "Print version"⟩]

/-- How help makes names and headings stand out. -/
structure Emphasis where
  name : String → String
  heading : String → String

/-- Help without emphasis. -/
def Emphasis.plain : Emphasis := ⟨id, id⟩

/-- Names in bold, headings in bold and underlined. -/
def Emphasis.strong : Emphasis where
  name text := "\x1b[1m" ++ text ++ "\x1b[0m"
  heading text := "\x1b[1m\x1b[4m" ++ text ++ "\x1b[0m"

/-- The names of an entry and that of its value. -/
def Entry.names (emphasis : Emphasis) (entry : Entry) : String :=
  let short := match entry.short with
    | some c => emphasis.name ("-" ++ c.toString) ++ ", "
    | none => "    "
  let value := if entry.value = "" then "" else " <" ++ entry.value ++ ">"
  short ++ emphasis.name ("--" ++ entry.long) ++ value

/-- The room that the names of an entry take; emphasis takes none. -/
def Entry.width (entry : Entry) : Nat :=
  (entry.names .plain).length

/-- The width of the widest names. -/
def namesWidth : Nat :=
  entries.foldl (fun width entry => max width entry.width) 0

/-- A line of help: the names, and in one column what they are for. -/
def Entry.line (emphasis : Emphasis) (entry : Entry) : String :=
  let gap := String.ofList (List.replicate (namesWidth - entry.width + 2) ' ')
  "  " ++ entry.names emphasis ++ gap ++ entry.about ++ "\n"

/-- The text that help prints. -/
def help (emphasis : Emphasis) : String :=
  "CLI tool that repairs TypeScript type-checker errors with a language model, one gated " ++
  "whole-file patch at a time\n\n" ++
  emphasis.heading "Usage:" ++ " " ++ emphasis.name "tsc-fixer" ++ " [OPTIONS]\n\n" ++
  emphasis.heading "Options:" ++ "\n" ++
  String.join (entries.map (Entry.line emphasis))

/-- The text that tells the version. -/
def version : String := "tsc-fixer 0.1.0\n"

/-- A whole number with an optional sign. -/
def readInt? (text : String) : Option Int :=
  match text.toList with
  | '+' :: digits => (Text.readNat? digits).map Int.ofNat
  | '-' :: digits => (Text.readNat? digits).map fun n => -Int.ofNat n
  | digits => (Text.readNat? digits).map Int.ofNat

/-- A whole number from 0 to 2³² - 1. -/
def readCount (text : String) : Except UsageError Nat :=
  match readInt? text with
  | some n => if 0 ≤ n ∧ n.toNat < Nat.pow 2 32 then .ok n.toNat else .error .valueValidation
  | none => .error .valueValidation

/-- A path, which must not be empty. -/
def readPath (text : String) : Except UsageError String :=
  if text = "" then .error .invalidValue else .ok text

/-- The name of a provider. -/
def readProvider (text : String) : Except UsageError Provider :=
  match Provider.ofName? text with
  | some provider => .ok provider
  | none => .error .invalidValue

namespace Options

/-- Whether an option is set. -/
def isSet (options : Options) : Key → Bool
  | .maxRetries => options.maxRetries.isSome
  | .tsconfig => options.tsconfig.isSome
  | .provider => options.provider.isSome
  | .model => options.model.isSome
  | .output => options.output.isSome
  | .json => options.json.isSome

/-- Sets an option to the value that a text stands for. -/
def store (options : Options) (key : Key) (text : String) : Except UsageError Options :=
  match key with
  | .maxRetries => (readCount text).map fun n => { options with maxRetries := some n }
  | .tsconfig => (readPath text).map fun path => { options with tsconfig := some path }
  | .provider => (readProvider text).map fun name => { options with provider := some name }
  | .model => .ok { options with model := some text }
  | .output => (readPath text).map fun path => { options with output := some path }
  | .json => (readPath text).map fun path => { options with json := some path }

end Options

/-- Where the reading of the arguments stands: the options that are set, and the last option with
its value, if it has been read, when it is still to be checked. -/
structure State where
  options : Options
  pending : Option (Key × Option String)

/-- Takes a value: it has to be there, the option must not be set yet, and the value has to be one
that it can have. -/
def take (options : Options) (key : Key) : Option String → Except UsageError Options
  | none => .error .invalidValue
  | some text => if options.isSet key then .error .argumentConflict else options.store key text

/-- Checks the value that is still to be checked. -/
def settle (state : State) : Except UsageError Options :=
  match state.pending with
  | none => .ok state.options
  | some (key, value) => take state.options key value

/-- Raises a flag. -/
def raise (state : State) (flag : Flag) : Except Refusal State :=
  match settle state with
  | .error error => .error (.usage error)
  | .ok options =>
    match flag with
    | .help => .error .help
    | .version => .error .version
    | .dryRun =>
      if options.dryRun then .error (.usage .argumentConflict)
      else .ok ⟨{ options with dryRun := true }, none⟩

/-- Begins an option, perhaps with a value attached to it. An attached value is checked at once. -/
def begin (state : State) (key : Key) (attached : Option String) : Except Refusal State :=
  match settle state with
  | .error error => .error (.usage error)
  | .ok options =>
    match attached with
    | none => .ok ⟨options, some (key, none)⟩
    | some text =>
      match take options key (some text) with
      | .error error => .error (.usage error)
      | .ok options => .ok ⟨options, none⟩

/-- The name and the attached value of a long option: the value follows an equals sign. -/
def splitEquals (cs : List Char) : String × Option String :=
  match cs.span (· ≠ '=') with
  | (name, '=' :: value) => (String.ofList name, some (String.ofList value))
  | (name, _) => (String.ofList name, none)

/-- Reads an argument with two dashes, without them. -/
def readLong (state : State) (cs : List Char) : Except Refusal State :=
  let (name, value) := splitEquals cs
  match longNames.lookup name with
  | none => .error (.usage .unknownArgument)
  | some (.key key) => begin state key value
  | some (.flag flag) =>
    match value with
    | some _ => .error (.usage .tooManyValues)
    | none => raise state flag

/-- Reads the letters of an argument with one dash. What follows an option's letter is its value,
in which an equals sign in front is left out. -/
def readShort : State → List Char → Except Refusal State
  | state, [] => .ok state
  | state, c :: cs =>
    match shortNames.lookup c with
    | none => .error (.usage .unknownArgument)
    | some (.flag flag) =>
      match raise state flag with
      | .error refusal => .error refusal
      | .ok state => readShort state cs
    | some (.key key) =>
      match cs with
      | [] => begin state key none
      | '=' :: value => begin state key (some (String.ofList value))
      | value => begin state key (some (String.ofList value))

/-- Reads an argument that is no option: it has to be the value of the option before it. -/
def readValue (state : State) (text : String) : Except Refusal State :=
  match state.pending with
  | some (key, none) => .ok ⟨state.options, some (key, some text)⟩
  | _ => .error (.usage .unknownArgument)

/-- Reads the arguments. After two dashes alone none is known any more. -/
def readAll : State → List String → Except Refusal State
  | state, [] => .ok state
  | state, argument :: rest =>
    match argument.toList with
    | ['-', '-'] => if rest = [] then .ok state else .error (.usage .unknownArgument)
    | '-' :: '-' :: cs =>
      match readLong state cs with
      | .error refusal => .error refusal
      | .ok state => readAll state rest
    | '-' :: c :: cs =>
      match readShort state (c :: cs) with
      | .error refusal => .error refusal
      | .ok state => readAll state rest
    | _ =>
      match readValue state argument with
      | .error refusal => .error refusal
      | .ok state => readAll state rest

/-- The options that arguments set. -/
def parse (arguments : List String) : Except Refusal Options :=
  match readAll ⟨.none, none⟩ arguments with
  | .error refusal => .error refusal
  | .ok state => (settle state).mapError .usage

/-- The settings among the options. -/
def Options.overrides (options : Options) : Overrides :=
  ⟨options.maxRetries, options.tsconfig, options.provider, options.model⟩

/-- The report files among the options. -/
def Options.targets (options : Options) : Report.Targets :=
  ⟨options.output, options.json⟩

end TypeRepair.CommandLine
