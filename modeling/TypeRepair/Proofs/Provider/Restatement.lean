import TypeRepair.Proofs.Provider.Classification
import TypeRepair.Proofs.Provider.Presentation

/-!
# Restated replies

The schemas of the replies of both providers, and that only what a reply says counts: however its
records are presented, it is read alike, and a field that is given twice makes it unreadable.

* `goesBy_usage`, `goesBy_reply`, `Provider.goesBy_schema`: the decoders go by the schemas.
* `Provider.readReply_restated`: restated and repeated replies.
-/

namespace TypeRepair

open Shape

/-! ## What both replies have in common -/

/-- Counters that say nothing if they are zero. -/
def usageSchema (input output : String) : Schema :=
  .record [⟨input, some (.number "0"), .count⟩, ⟨output, some (.number "0"), .count⟩]

/-- A list of items, the model and the counters: no items, no text and null say nothing. -/
def replySchema (items input output : String) (item : Schema) : Schema :=
  .record [⟨items, some (.array []), .list item⟩, ⟨"model", some (.string []), .text⟩,
    ⟨"usage", some .null, usageSchema input output⟩]

theorem goesBy_usage {input output : String} (hDistinct : [input, output].Nodup) :
    GoesBy (usageSchema input output) fun value => (fields [input, output] value).bind fun found =>
      (found.withDefault input 0 0 counter).bind fun first =>
        (found.withDefault output 1 0 counter).bind fun second => some (first, second) := by
  have hZero : counter (.number "0") = some 0 := by decide
  refine goesBy_record hDistinct ?_ ?_
  · intro found found' hSame
    have hInput : found.withDefault input 0 0 counter = found'.withDefault input 0 0 counter :=
      (hSame 0 rfl).withDefault rfl hZero goesBy_count
    have hOutput : found.withDefault output 1 0 counter = found'.withDefault output 1 0 counter :=
      (hSame 1 rfl).withDefault rfl hZero goesBy_count
    rw [hInput, hOutput]
  · intro position field found hField hHolds
    match position with
    | 0 =>
      obtain rfl := Option.some.inj hField
      have hNone : found.withDefault input 0 0 counter = none := hHolds.withDefault 0 goesBy_count
      rw [hNone, Option.bind_none]
    | 1 =>
      obtain rfl := Option.some.inj hField
      have hNone : found.withDefault output 1 0 counter = none := hHolds.withDefault 0 goesBy_count
      simp [hNone]

theorem goesBy_reply {α β : Type} {items input output : String} {item : Decoder α}
    {usage : Decoder (Nat × Nat)} {schema : Schema} {build : List α → String → Nat → Nat → β}
    (hDistinct : [items, "model", "usage"].Nodup) (hItem : GoesBy schema item)
    (hUsage : GoesBy (usageSchema input output) usage) :
    GoesBy (replySchema items input output schema) fun value =>
      (fields [items, "model", "usage"] value).bind fun found =>
        (found.withDefault items 0 [] (list item)).bind fun parts =>
          (found.withDefault "model" 1 "" string).bind fun model =>
            (found.withDefault "usage" 2 none (nullable usage)).bind fun counts =>
              some (build parts model (counts.getD (0, 0)).1 (counts.getD (0, 0)).2) := by
  refine goesBy_record hDistinct ?_ ?_
  · intro found found' hSame
    have hItems : found.withDefault items 0 [] (list item) =
        found'.withDefault items 0 [] (list item) :=
      (hSame 0 rfl).withDefault rfl rfl hItem.list
    have hModel : found.withDefault "model" 1 "" string =
        found'.withDefault "model" 1 "" string :=
      (hSame 1 rfl).withDefault rfl (by decide) goesBy_text
    have hCounts : found.withDefault "usage" 2 none (nullable usage) =
        found'.withDefault "usage" 2 none (nullable usage) :=
      (hSame 2 rfl).withDefault rfl rfl hUsage.nullable
    rw [hItems, hModel, hCounts]
  · intro position field found hField hHolds
    match position with
    | 0 =>
      obtain rfl := Option.some.inj hField
      have hNone : found.withDefault items 0 [] (list item) = none :=
        hHolds.withDefault [] hItem.list
      rw [hNone, Option.bind_none]
    | 1 =>
      obtain rfl := Option.some.inj hField
      have hNone : found.withDefault "model" 1 "" string = none :=
        hHolds.withDefault "" goesBy_text
      simp [hNone]
    | 2 =>
      obtain rfl := Option.some.inj hField
      have hNone : found.withDefault "usage" 2 none (nullable usage) = none :=
        hHolds.withDefault none hUsage.nullable
      simp [hNone]

/-! ## Messages -/

namespace Anthropic

/-- A block has to have a type, and null says that it has no text. -/
def blockSchema : Schema :=
  .record [⟨"type", none, .text⟩, ⟨"text", some .null, .text⟩]

theorem goesBy_block : GoesBy blockSchema block := by
  refine goesBy_record (by decide) ?_ ?_
  · intro found found' hSame
    have hKind : found.required "type" 0 string = found'.required "type" 0 string :=
      (hSame 0 rfl).required rfl goesBy_text
    have hText : found.optional "text" 1 string = found'.optional "text" 1 string :=
      (hSame 1 rfl).optional rfl goesBy_text
    rw [hKind, hText]
  · intro position field found hField hHolds
    match position with
    | 0 =>
      obtain rfl := Option.some.inj hField
      have hNone : found.required "type" 0 string = none := hHolds.required goesBy_text
      simp [hNone]
    | 1 =>
      obtain rfl := Option.some.inj hField
      have hNone : found.optional "text" 1 string = none := hHolds.optional goesBy_text
      simp [hNone]

end Anthropic

/-! ## Completions -/

namespace OpenAi

/-- Null says that a message has no content. -/
def choiceMessageSchema : Schema := .record [⟨"content", some .null, .text⟩]

/-- Null says that a choice has no message. -/
def choiceSchema : Schema := .record [⟨"message", some .null, choiceMessageSchema⟩]

theorem goesBy_choiceMessage : GoesBy choiceMessageSchema choiceMessage := by
  refine goesBy_record (by decide) ?_ ?_
  · intro found found' hSame
    exact (hSame 0 rfl).optional rfl goesBy_text
  · intro position field found hField hHolds
    match position with
    | 0 =>
      obtain rfl := Option.some.inj hField
      exact hHolds.optional goesBy_text

theorem goesBy_choice : GoesBy choiceSchema choice := by
  refine goesBy_record (by decide) ?_ ?_
  · intro found found' hSame
    have hMessage : found.optional "message" 0 choiceMessage =
        found'.optional "message" 0 choiceMessage :=
      (hSame 0 rfl).optional rfl goesBy_choiceMessage
    rw [hMessage]
  · intro position field found hField hHolds
    match position with
    | 0 =>
      obtain rfl := Option.some.inj hField
      have hNone : found.optional "message" 0 choiceMessage = none :=
        hHolds.optional goesBy_choiceMessage
      rw [hNone]
      rfl

end OpenAi

/-! ## Both providers -/

namespace Provider

/-- The schema of the replies. -/
def schema : Provider → Schema
  | anthropic => replySchema "content" "input_tokens" "output_tokens" Anthropic.blockSchema
  | openAi => replySchema "choices" "prompt_tokens" "completion_tokens" OpenAi.choiceSchema

/-- The text in a well-shaped value. -/
def readValue? : Provider → Decoder (Option Generated)
  | anthropic => fun value => (Anthropic.message value).map Anthropic.Message.generated?
  | openAi => fun value => (OpenAi.completion value).map OpenAi.Completion.generated?

theorem goesBy_schema (provider : Provider) : GoesBy provider.schema provider.readValue? := by
  cases provider with
  | anthropic =>
    have hUsage : GoesBy (usageSchema "input_tokens" "output_tokens") Anthropic.usage :=
      goesBy_usage (by decide)
    have hMessage : GoesBy (schema anthropic) Anthropic.message :=
      goesBy_reply (by decide) Anthropic.goesBy_block hUsage
    exact hMessage.map _
  | openAi =>
    have hUsage : GoesBy (usageSchema "prompt_tokens" "completion_tokens") OpenAi.usage :=
      goesBy_usage (by decide)
    have hCompletion : GoesBy (schema openAi) OpenAi.completion :=
      goesBy_reply (by decide) OpenAi.goesBy_choice hUsage
    exact hCompletion.map _

theorem readBody?_of_isText (provider : Provider) {value : Json Json.Raw} {body : Bytes}
    (hText : Json.IsText value body) : provider.readBody? body = provider.readValue? value := by
  have hRead := Json.read?_eq_some_iff.mpr hText
  cases provider <;> rw [readBody?, hRead] <;> rfl

/-- Any number of restatements, one after another and in either direction. -/
abbrev Restated (provider : Provider) : Json Json.Raw → Json Json.Raw → Prop :=
  Relation.EqvGen (At Restates provider.schema)

theorem readValue?_restated (provider : Provider) {value value' : Json Json.Raw}
    (h : provider.Restated value value') :
    provider.readValue? value = provider.readValue? value' := by
  induction h with
  | rel _ _ h => exact provider.goesBy_schema.restated h
  | refl => rfl
  | symm _ _ _ ih => exact ih.symm
  | trans _ _ _ _ _ ih ih' => exact ih.trans ih'

section

variable {provider : Provider} {reply : Http.Reply}

/-- Only what is read in the body counts. -/
theorem readReply_congr {reply' : Http.Reply} (hStatus : reply.status = reply'.status)
    (hComplete : reply.complete = reply'.complete)
    (hSuccess : 200 ≤ reply.status ∧ reply.status < 300)
    (hBody : provider.readBody? reply.body = provider.readBody? reply'.body) :
    provider.readReply reply = provider.readReply reply' := by
  have hReceived : reply.received.bind provider.readBody? =
      reply'.received.bind provider.readBody? := by
    unfold Http.Reply.received
    rw [hStatus, hComplete]
    split
    · rfl
    · split
      · exact hBody
      · rfl
  rw [readReply_of_success hSuccess, hReceived, ← readReply_of_success (hStatus ▸ hSuccess)]

theorem readReply_of_unread (hSuccess : 200 ≤ reply.status ∧ reply.status < 300)
    (hBody : provider.readBody? reply.body = none) :
    provider.readReply reply = .error (.request provider .undecodable) := by
  have hReceived : reply.received.bind provider.readBody? = none := by
    unfold Http.Reply.received
    split
    · cases provider <;> rfl
    · split
      · exact hBody
      · rfl
  rw [readReply_of_success hSuccess, hReceived]

end

/-- A reply of success is read by what it says, however it says it: every body that restates it is
read alike. A body in which a field of some record is repeated is not read at all. -/
theorem readReply_restated (provider : Provider) (reply : Http.Reply) (value : Json Json.Raw)
    (hSuccess : 200 ≤ reply.status ∧ reply.status < 300) (hText : Json.IsText value reply.body) :
    (∀ value' body, provider.Restated value value' → Json.IsText value' body →
      provider.readReply { reply with body } = provider.readReply reply) ∧
    (∀ value' body, At Repeats provider.schema value value' → Json.IsText value' body →
      provider.readReply { reply with body } = .error (.request provider .undecodable)) := by
  constructor
  · intro value' body hRestated hText'
    refine readReply_congr rfl rfl hSuccess ?_
    rw [readBody?_of_isText provider hText', readBody?_of_isText provider hText,
      readValue?_restated provider hRestated]
  · intro value' body hRepeats hText'
    refine readReply_of_unread hSuccess ?_
    rw [readBody?_of_isText provider hText', (goesBy_schema provider).repeated hRepeats]

def textBlock : Json Json.Raw :=
  .object [(Text.encode "type", .string (Text.encode "text")),
    (Text.encode "text", .string (Text.encode "a"))]

def plainValue : Json Json.Raw := .object [(Text.encode "content", .array [textBlock])]

/-- The same block as an array, behind a key that no field has. -/
def dressedValue : Json Json.Raw :=
  .object [(Text.encode "x", .bool true), (Text.encode "content", .array [.array
    [.string (Text.encode "text"), .string (Text.encode "a")]])]

/-- The blocks, and once more none. -/
def doubledValue : Json Json.Raw :=
  .object [(Text.encode "content", .array [textBlock]), (Text.encode "content", .array [])]

def plainReply : Http.Reply :=
  .ofText 200 "\x7b\"content\": [\x7b\"type\": \"text\", \"text\": \"a\"\x7d]\x7d"

def dressedBody : Bytes := Text.encode "\x7b\"x\": true, \"content\": [[\"text\",\"a\"]]\x7d"

def doubledBody : Bytes :=
  Text.encode
    "\x7b\"content\": [\x7b\"type\": \"text\", \"text\": \"a\"\x7d], \"content\": []\x7d"

theorem dressedValue_restates : Provider.anthropic.Restated plainValue dressedValue := by
  have hContent : Json.stringText? (Text.encode "content") = some "content" := by decide +kernel
  have hX : Json.stringText? (Text.encode "x") = some "x" := by decide +kernel
  have hType : Json.stringText? (Text.encode "type") = some "type" := by decide +kernel
  have hText : Json.stringText? (Text.encode "text") = some "text" := by decide +kernel
  have hListed : Restates Anthropic.blockSchema textBlock
      (.array [.string (Text.encode "text"), .string (Text.encode "a")]) :=
    .listed (.cons hType (.cons hText .nil))
  refine .trans _ _ _ (.rel _ _ (@At.member _ _ _ [] [] _ _ _ List.mem_cons_self hContent
    (@At.item _ _ [] [] _ _ (.here hListed)))) ?_
  refine .rel _ _ (.here (@Restates.extended _ [] _ _ _ _ hX ?_))
  decide

theorem plainReply_restated :
    (200 ≤ plainReply.status ∧ plainReply.status < 300) ∧
      Json.IsText plainValue plainReply.body ∧
      (Provider.anthropic.Restated plainValue dressedValue ∧
        Json.IsText dressedValue dressedBody ∧
        anthropic.readReply { plainReply with body := dressedBody } =
          anthropic.readReply plainReply ∧
        anthropic.readReply plainReply = .ok ⟨"a", "", 0, 0⟩) ∧
      At Repeats (schema .anthropic) plainValue doubledValue ∧
        Json.IsText doubledValue doubledBody ∧
        anthropic.readReply { plainReply with body := doubledBody } =
          .error (.request .anthropic .undecodable) := by
  have hContent : Json.stringText? (Text.encode "content") = some "content" := by decide +kernel
  have hSuccess : 200 ≤ plainReply.status ∧ plainReply.status < 300 := by decide
  have hPlain : Json.IsText plainValue plainReply.body :=
    Json.read?_eq_some_iff.mp (by decide +kernel)
  have hDressed : Json.IsText dressedValue dressedBody :=
    Json.read?_eq_some_iff.mp (by decide +kernel)
  have hDoubled : Json.IsText doubledValue doubledBody :=
    Json.read?_eq_some_iff.mp (by decide +kernel)
  have hRepeats : At Repeats (schema .anthropic) plainValue doubledValue :=
    .here (@Repeats.again _ [_] [] _ _ _ List.mem_cons_self hContent
      ⟨_, List.mem_singleton_self _, hContent⟩)
  obtain ⟨hAlike, hRefused⟩ := readReply_restated .anthropic plainReply plainValue hSuccess hPlain
  have hRead : anthropic.readReply plainReply = .ok ⟨"a", "", 0, 0⟩ := by decide +kernel
  exact ⟨hSuccess, hPlain,
    ⟨dressedValue_restates, hDressed, hAlike _ _ dressedValue_restates hDressed, hRead⟩,
    hRepeats, hDoubled, hRefused _ _ hRepeats hDoubled⟩

end Provider

end TypeRepair
