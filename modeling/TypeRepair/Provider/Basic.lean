/-!
# Text providers

The services that can be asked for text.
-/

namespace TypeRepair

/-- A service that generates text. -/
inductive Provider
  | anthropic
  | openAi
deriving DecidableEq, Repr

namespace Provider

/-- All providers. -/
def all : List Provider := [anthropic, openAi]

/-- The name in configuration files and on the command line. -/
def name : Provider → String
  | anthropic => "anthropic"
  | openAi => "openai"

/-- The name in messages. -/
def title : Provider → String
  | anthropic => "Anthropic"
  | openAi => "OpenAI"

/-- The identifier in settings shown in full. -/
def identifier : Provider → String
  | anthropic => "Anthropic"
  | openAi => "OpenAi"

/-- The model that is asked if none is chosen. -/
def defaultModel : Provider → String
  | anthropic => "claude-sonnet-4-20250514"
  | openAi => "gpt-4o"

/-- The setting that holds the key. -/
def keySetting : Provider → String
  | anthropic => "anthropic_api_key"
  | openAi => "openai_api_key"

/-- The environment variable that holds the key if the configuration file does not. -/
def keyVariable : Provider → String
  | anthropic => "ANTHROPIC_API_KEY"
  | openAi => "OPENAI_API_KEY"

/-- The provider with a name. -/
def ofName? (name : String) : Option Provider :=
  all.find? fun provider => provider.name = name

/-- The provider with a name, where ASCII letters may be upper or lower case. -/
def ofNameIgnoringCase? (name : String) : Option Provider :=
  all.find? fun provider => provider.name = name.map Char.toLower

end Provider

end TypeRepair
