import TypeRepair.Provider.Client
import TypeRepair.Settings.Configuration
import TypeRepair.Text.Blank

/-!
# Settings

What a run goes by: for each setting the command line, else the configuration, else a default. The
key is that of the selected provider, which must not be blank.

* `resolve_error_iff`: settings are missing exactly if the selected provider has no usable key.
-/

namespace TypeRepair

/-- Settings on the command line. -/
structure Overrides where
  maxRetries : Option Nat
  tsconfigPath : Option String
  provider : Option Provider
  model : Option String
deriving DecidableEq, Repr

/-- All settings of a run. -/
structure Settings where
  maxRetries : Nat
  tsconfigPath : String
  provider : Provider
  credentials : Credentials
deriving DecidableEq

namespace Settings

/-- Why there are no settings. -/
inductive Fault
  /-- The configuration file cannot be read. -/
  | unreadable (fault : SystemFault)
  /-- The configuration file is malformed. -/
  | malformed
  /-- The provider has no key, or a blank one. -/
  | missingKey (provider : Provider)
deriving DecidableEq, Repr

/-- The fault in words. What is malformed is not said. -/
def Fault.message : Fault → String
  | unreadable fault => "Failed to read config file: " ++ fault.message
  | malformed => "Failed to parse config file"
  | missingKey provider =>
    "Missing API key for provider \"" ++ provider.title ++ "\". Set \x60llm." ++
      provider.keySetting ++ "\x60 in .tsc-fixer.toml or the " ++ provider.keyVariable ++
      " environment variable."

/-- The fault with all its parts; of a malformed file only that it is one. -/
def Fault.inFull : Fault → String
  | unreadable fault => "FileRead(" ++ fault.inFull ++ ")"
  | malformed => "Parse(...)"
  | missingKey provider =>
    "MissingApiKey \x7b provider: " ++ provider.identifier ++ ", setting: " ++
      Text.quoted provider.keySetting ++ ", env: " ++ Text.quoted provider.keyVariable ++ " \x7d"

/-- The number of attempts if none is set. -/
def defaultMaxRetries : Nat := 3

/-- The project configuration if none is set. -/
def defaultTsconfigPath : String := "tsconfig.json"

/-- Whether a key has a character that is not blank. -/
def isUsableKey (key : String) : Bool :=
  Text.trim key.toList != []

/-- The provider that is asked. -/
def selectProvider (configuration : Configuration) (overrides : Overrides) : Provider :=
  (overrides.provider <|> configuration.provider).getD .anthropic

/-- The settings of a run. -/
def resolve (configuration : Configuration) (overrides : Overrides) : Except Fault Settings :=
  let provider := selectProvider configuration overrides
  match (configuration.apiKey provider).filter isUsableKey with
  | none => .error (.missingKey provider)
  | some key => .ok
    { maxRetries := (overrides.maxRetries <|> configuration.maxRetries).getD defaultMaxRetries
      tsconfigPath :=
        (overrides.tsconfigPath <|> configuration.tsconfigPath).getD defaultTsconfigPath
      provider := provider
      credentials := ⟨key, overrides.model <|> configuration.model⟩ }

/-- The settings in full, with the key left out. -/
def inFull (settings : Settings) : String :=
  "Settings \x7b max_retries: " ++ toString settings.maxRetries ++ ", tsconfig_path: " ++
    Text.quoted settings.tsconfigPath ++ ", provider: " ++ settings.provider.identifier ++
    ", credentials: " ++ settings.credentials.inFull ++ " \x7d"

/-- The name of the configuration file. -/
def configurationFile : String := ".tsc-fixer.toml"

/-- The configuration of the working directory: what its file sets, which need not exist, and keys
from the environment. -/
def load (environment : String → Option String) : Host.Action (Except Fault Configuration) := do
  if ← Host.pathExists configurationFile then
    match ← Host.readText configurationFile with
    | .error fault => return .error (.unreadable fault)
    | .ok text =>
      match Configuration.read? text with
      | some configuration => return .ok (configuration.withEnvironment environment)
      | none => return .error .malformed
  else return .ok (Configuration.empty.withEnvironment environment)

theorem resolve_error_iff (configuration : Configuration) (overrides : Overrides)
    (fault : Fault) :
    resolve configuration overrides = .error fault ↔
      fault = .missingKey (selectProvider configuration overrides) ∧
        (configuration.apiKey (selectProvider configuration overrides)).filter isUsableKey =
          none := by
  simp only [resolve]
  split
  · rename_i h
    simp [h, eq_comm]
  · rename_i key h
    simp [h]

end Settings

end TypeRepair
