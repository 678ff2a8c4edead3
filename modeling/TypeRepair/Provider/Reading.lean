import TypeRepair.Provider.Anthropic
import TypeRepair.Provider.OpenAi

/-!
# Asking a provider

The request that a provider is sent, and what any delivery of it means. The checks go in this
order: whether there is a reply at all, its status, whether the body is a whole and well-shaped
JSON text, and whether it holds text.
-/

namespace TypeRepair.Provider

/-- The most tokens that a reply may take. -/
def maxTokens : Nat := 8192

/-- The request for an answer to an instruction. -/
def request (provider : Provider) (key model instruction : String) : Http.Request :=
  match provider with
  | anthropic => Anthropic.request key model maxTokens instruction
  | openAi => OpenAi.request key model maxTokens instruction

/-- The text in a well-shaped reply, `none` if the body is not one. -/
def readBody? (provider : Provider) (body : Bytes) : Option (Option Generated) := do
  let value ← Json.read? body
  match provider with
  | anthropic => (Anthropic.message value).map Anthropic.Message.generated?
  | openAi => (OpenAi.completion value).map OpenAi.Completion.generated?

/-- What a reply means. -/
def readReply (provider : Provider) (reply : Http.Reply) : Except GenerationFault Generated :=
  if Http.isSuccess reply.status then
    match reply.received.bind provider.readBody? with
    | none => .error (.request provider .undecodable)
    | some none => .error (.missingContent provider)
    | some (some generated) => .ok generated
  else .error (.status provider reply.status reply.wholeText)

/-- What a delivery means. -/
def readDelivery (provider : Provider) (request : Http.Request) :
    Http.Delivery → Except GenerationFault Generated
  | .unanswered => .error (.request provider (.unanswered request.url))
  | .answered reply => provider.readReply reply

end TypeRepair.Provider
