import TypeRepair.Provider.Generation
import TypeRepair.Provider.Shape

/-!
# The chat interface

Requests to OpenAI and the replies: a list of choices, of which the first one counts.
-/

namespace TypeRepair.OpenAi

/-- A reply: the text of each choice, if it has one, and the counters. -/
structure Completion where
  choices : List (Option String)
  model : String
  inputTokens : Nat
  outputTokens : Nat
deriving DecidableEq, Repr

/-- What the model is told before each instruction. -/
def systemPrompt : String :=
  "You are a TypeScript expert. Fix only the type errors specified. " ++
  "Do not refactor, rename, or change any logic. " ++
  "Return the complete corrected file inside a single fenced code block."

/-- The request for an answer to an instruction. -/
def request (key model : String) (maxTokens : Nat) (instruction : String) : Http.Request where
  host := "api.openai.com"
  path := "/v1/chat/completions"
  headers := [("authorization", "Bearer " ++ key), ("content-type", "application/json")]
  body := .object
    [("model", .string model), ("max_tokens", .ofNat maxTokens),
      ("messages", .array
        [.object [("role", .string "system"), ("content", .string systemPrompt)],
          .object [("role", .string "user"), ("content", .string instruction)]])]

/-- The shape of a choice's message. -/
def choiceMessage : Shape.Decoder (Option String) := fun value => do
  let fields ← Shape.fields ["content"] value
  fields.optional "content" 0 Shape.string

/-- The shape of a choice. -/
def choice : Shape.Decoder (Option String) := fun value => do
  let fields ← Shape.fields ["message"] value
  return (← fields.optional "message" 0 choiceMessage).join

/-- The shape of the token counters. -/
def usage : Shape.Decoder (Nat × Nat) := fun value => do
  let fields ← Shape.fields ["prompt_tokens", "completion_tokens"] value
  let input ← fields.withDefault "prompt_tokens" 0 0 Shape.counter
  let output ← fields.withDefault "completion_tokens" 1 0 Shape.counter
  some (input, output)

/-- The shape of a reply. -/
def completion : Shape.Decoder Completion := fun value => do
  let fields ← Shape.fields ["choices", "model", "usage"] value
  let choices ← fields.withDefault "choices" 0 [] (Shape.list choice)
  let model ← fields.withDefault "model" 1 "" Shape.string
  let usage ← fields.withDefault "usage" 2 none (Shape.nullable usage)
  let (input, output) := usage.getD (0, 0)
  some ⟨choices, model, input, output⟩

/-- The text of a reply: that of the first choice, unless it is empty. -/
def Completion.generated? (completion : Completion) : Option Generated := do
  let text ← completion.choices.head?.join
  if text = "" then none
  else some ⟨text, completion.model, completion.inputTokens, completion.outputTokens⟩

end TypeRepair.OpenAi
