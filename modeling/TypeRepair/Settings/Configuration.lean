import TypeRepair.Provider.Basic
import TypeRepair.Toml.Document

/-!
# Configuration files

The two sections of a configuration file, `fixer` and `llm`. All keys may be left out and other keys
are ignored, but a key that is there has to have a value of its type. A section is a table; it may
also be given as the array of all its values in order, and a date counts as an empty section.
-/

namespace TypeRepair

/-- What a configuration file sets. -/
structure Configuration where
  maxRetries : Option Nat
  tsconfigPath : Option String
  provider : Option Provider
  model : Option String
  anthropicApiKey : Option String
  openAiApiKey : Option String
deriving DecidableEq

namespace Configuration

open Toml

/-- The configuration that sets nothing. -/
def empty : Configuration := ⟨none, none, none, none, none, none⟩

/-- The key for a provider. -/
def apiKey (configuration : Configuration) : Provider → Option String
  | .anthropic => configuration.anthropicApiKey
  | .openAi => configuration.openAiApiKey

/-- The values of a section by the names of its keys. -/
def sectionValues (names : List String) : Value → Option Entries
  | .table _ entries => some entries
  | .array items => if names.length ≤ items.length then some (names.zip items) else none
  | .tables elements =>
    if names.length ≤ elements.length then
      some (names.zip (elements.map (Value.table (.block false false))))
    else none
  | .date _ => some []
  | _ => none

/-- The values of the section with a name in a document. -/
def sectionOf (document : Entries) (name : String) (names : List String) : Option Entries :=
  match document.lookup name with
  | some value => sectionValues names value
  | none => some []

/-- The value of a key, if it is set. -/
def setting {α : Type} (section? : Entries) (name : String) (decode : Value → Option α) :
    Option (Option α) :=
  match section?.lookup name with
  | some value => (decode value).map some
  | none => some none

/-- A string. -/
def string? : Value → Option String
  | .string text => some text
  | _ => none

/-- A whole number from 0 to 2³² - 1. -/
def count? : Value → Option Nat
  | .integer n => if 0 ≤ n ∧ n.toNat < Nat.pow 2 32 then some n.toNat else none
  | _ => none

/-- A provider: its name, or a table with its name as the only key and nothing below it. -/
def provider? : Value → Option Provider
  | .string name => Provider.ofName? name
  | .table _ [(name, .table _ [])] => Provider.ofName? name
  | .table _ [(name, .array [])] => Provider.ofName? name
  | _ => none

/-- The configuration that a document describes. -/
def ofDocument? (document : Entries) : Option Configuration := do
  let fixer ← sectionOf document "fixer" ["max_retries", "tsconfig_path"]
  let llm ← sectionOf document "llm" ["provider", "model", "anthropic_api_key", "openai_api_key"]
  some
    { maxRetries := ← setting fixer "max_retries" count?
      tsconfigPath := ← setting fixer "tsconfig_path" string?
      provider := ← setting llm "provider" provider?
      model := ← setting llm "model" string?
      anthropicApiKey := ← setting llm "anthropic_api_key" string?
      openAiApiKey := ← setting llm "openai_api_key" string? }

/-- The configuration in the text of a file, `none` if it is malformed. -/
def read? (text : String) : Option Configuration :=
  (Toml.read? text).bind ofDocument?

/-- Takes keys that are not set from the environment. -/
def withEnvironment (configuration : Configuration) (environment : String → Option String) :
    Configuration :=
  { configuration with
    anthropicApiKey :=
      configuration.anthropicApiKey <|> environment (Provider.keyVariable .anthropic)
    openAiApiKey := configuration.openAiApiKey <|> environment (Provider.keyVariable .openAi) }

end Configuration

end TypeRepair
