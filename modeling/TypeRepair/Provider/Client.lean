import TypeRepair.Host
import TypeRepair.Provider.Reading

/-!
# Clients

A provider together with a key and a model, which generates text by requests through the host.
-/

namespace TypeRepair

/-- The key for a provider and the model that was chosen, if one was. -/
structure Credentials where
  apiKey : String
  model : Option String
deriving DecidableEq

/-- The credentials in full, with the key left out. -/
def Credentials.inFull (credentials : Credentials) : String :=
  "Credentials \x7b api_key: \"<redacted>\", model: " ++ Text.quotedOption credentials.model ++
    " \x7d"

/-- A provider that can be asked. -/
structure Client where
  provider : Provider
  apiKey : String
  model : String
deriving DecidableEq

namespace Client

/-- The client for a provider; it asks the provider's default model if none is chosen. -/
def ofCredentials (provider : Provider) (credentials : Credentials) : Client where
  provider := provider
  apiKey := credentials.apiKey
  model := credentials.model.getD provider.defaultModel

/-- Sends an instruction and reads what comes back. A request whose key is no header value is not
sent. -/
def generate (client : Client) (instruction : String) :
    Host.Action (Except GenerationFault Generated) := do
  Host.note (.generationBegins client.model)
  Host.note (.providerCalled client.provider)
  let request := client.provider.request client.apiKey client.model instruction
  if request.isSendable then
    let delivery ← Host.send request
    match client.provider.readDelivery request delivery with
    | .error fault => return .error fault
    | .ok generated =>
      Host.note (.replyRead client.provider generated.inputTokens generated.outputTokens)
      return .ok generated
  else return .error (.request client.provider .unwritable)

end Client

end TypeRepair
