import TypeRepair.Provider.Generation
import TypeRepair.Provider.Shape

/-!
# The messages interface

Requests to Anthropic and the replies: a list of blocks, of which the first one of text counts.
-/

namespace TypeRepair.Anthropic

/-- A part of a reply. -/
structure Block where
  kind : String
  text : Option String
deriving DecidableEq, Repr

/-- A reply. -/
structure Message where
  content : List Block
  model : String
  inputTokens : Nat
  outputTokens : Nat
deriving DecidableEq, Repr

/-- The request for an answer to an instruction. -/
def request (key model : String) (maxTokens : Nat) (instruction : String) : Http.Request where
  host := "api.anthropic.com"
  path := "/v1/messages"
  headers :=
    [("x-api-key", key), ("anthropic-version", "2023-06-01"), ("content-type", "application/json")]
  body := .object
    [("model", .string model), ("max_tokens", .ofNat maxTokens),
      ("messages", .array
        [.object [("role", .string "user"), ("content", .string instruction)]])]

/-- The shape of a block. -/
def block : Shape.Decoder Block := fun value => do
  let fields ← Shape.fields ["type", "text"] value
  let kind ← fields.required "type" 0 Shape.string
  let text ← fields.optional "text" 1 Shape.string
  some ⟨kind, text⟩

/-- The shape of the token counters. -/
def usage : Shape.Decoder (Nat × Nat) := fun value => do
  let fields ← Shape.fields ["input_tokens", "output_tokens"] value
  let input ← fields.withDefault "input_tokens" 0 0 Shape.counter
  let output ← fields.withDefault "output_tokens" 1 0 Shape.counter
  some (input, output)

/-- The shape of a reply. -/
def message : Shape.Decoder Message := fun value => do
  let fields ← Shape.fields ["content", "model", "usage"] value
  let content ← fields.withDefault "content" 0 [] (Shape.list block)
  let model ← fields.withDefault "model" 1 "" Shape.string
  let usage ← fields.withDefault "usage" 2 none (Shape.nullable usage)
  let (input, output) := usage.getD (0, 0)
  some ⟨content, model, input, output⟩

/-- The text of a reply: that of the first block of kind `text`. -/
def Message.generated? (message : Message) : Option Generated := do
  let block ← message.content.find? fun block => block.kind = "text"
  let text ← block.text
  some ⟨text, message.model, message.inputTokens, message.outputTokens⟩

end TypeRepair.Anthropic
