import TypeRepair.Proofs.Provider.Shape
import TypeRepair.Provider.Reading

/-!
# Well-shaped replies

The shapes of the replies of both providers, and the text that a reply holds.

* `Anthropic.decides_message`, `OpenAi.decides_completion`: the decoders decide the shapes.
* `Provider.gives_anthropic_iff`, `Provider.gives_openAi_iff`: which text a well-shaped reply gives.
-/

namespace TypeRepair

open Shape

/-! ## What both replies have in common -/

/-- The counters of a reply under their names; one that is left out is zero. -/
def IsUsage (input output : String) : Form (Nat × Nat) :=
  RecordOf [input, output] fun record counts =>
    record.Defaults input 0 IsCounter counts.1 ∧ record.Defaults output 0 IsCounter counts.2

/-- A list of items under a name, the model and the counters; everything may be left out. -/
def IsReply {α β : Type} (items input output : String) (item : Form α)
    (build : List α → String → Nat → Nat → β) : Form β :=
  RecordOf [items, "model", "usage"] fun record reply =>
    ∃ found model usage, record.Defaults items [] (IsList item) found ∧
      record.Defaults "model" "" IsString model ∧
      record.Defaults "usage" none (Nullable (IsUsage input output)) usage ∧
      reply = build found model (usage.getD (0, 0)).1 (usage.getD (0, 0)).2

theorem decides_usage {input output : String} (hDistinct : [input, output].Nodup) :
    Decides (fun value => (fields [input, output] value).bind fun found =>
      (found.withDefault input 0 0 counter).bind fun first =>
        (found.withDefault output 1 0 counter).bind fun second => some (first, second))
      (IsUsage input output) := by
  apply decides_record
  intro value found hFound counts
  constructor
  · intro h
    obtain ⟨first, hFirst, h⟩ := Option.bind_eq_some_iff.mp h
    obtain ⟨second, hSecond, h⟩ := Option.bind_eq_some_iff.mp h
    obtain rfl := Option.some.inj h
    exact ⟨(withDefault_eq_some_iff hDistinct hFound rfl decides_counter).mp hFirst,
      (withDefault_eq_some_iff hDistinct hFound rfl decides_counter).mp hSecond⟩
  · rintro ⟨hFirst, hSecond⟩
    refine Option.bind_eq_some_iff.mpr
      ⟨_, (withDefault_eq_some_iff hDistinct hFound rfl decides_counter).mpr hFirst, ?_⟩
    exact Option.bind_eq_some_iff.mpr
      ⟨_, (withDefault_eq_some_iff hDistinct hFound rfl decides_counter).mpr hSecond, rfl⟩

theorem decides_reply {α β : Type} {items input output : String} {itemDecoder : Decoder α}
    {usage : Decoder (Nat × Nat)} {item : Form α} {build : List α → String → Nat → Nat → β}
    (hDistinct : [items, "model", "usage"].Nodup) (hItem : Decides itemDecoder item)
    (hUsage : Decides usage (IsUsage input output)) :
    Decides (fun value => (fields [items, "model", "usage"] value).bind fun found =>
      (found.withDefault items 0 [] (list itemDecoder)).bind fun parts =>
        (found.withDefault "model" 1 "" string).bind fun model =>
          (found.withDefault "usage" 2 none (nullable usage)).bind fun counts =>
            some (build parts model (counts.getD (0, 0)).1 (counts.getD (0, 0)).2))
      (IsReply items input output item build) := by
  have hItems := decides_list hItem
  have hCounts := decides_nullable hUsage
  apply decides_record
  intro value found hFound reply
  constructor
  · intro h
    obtain ⟨parts, hParts, h⟩ := Option.bind_eq_some_iff.mp h
    obtain ⟨model, hModel, h⟩ := Option.bind_eq_some_iff.mp h
    obtain ⟨counts, hFields, h⟩ := Option.bind_eq_some_iff.mp h
    obtain rfl := Option.some.inj h
    exact ⟨parts, model, counts, (withDefault_eq_some_iff hDistinct hFound rfl hItems).mp hParts,
      (withDefault_eq_some_iff hDistinct hFound rfl decides_string).mp hModel,
      (withDefault_eq_some_iff hDistinct hFound rfl hCounts).mp hFields, rfl⟩
  · rintro ⟨parts, model, counts, hParts, hModel, hFields, rfl⟩
    refine Option.bind_eq_some_iff.mpr
      ⟨parts, (withDefault_eq_some_iff hDistinct hFound rfl hItems).mpr hParts, ?_⟩
    refine Option.bind_eq_some_iff.mpr
      ⟨model, (withDefault_eq_some_iff hDistinct hFound rfl decides_string).mpr hModel, ?_⟩
    exact Option.bind_eq_some_iff.mpr
      ⟨counts, (withDefault_eq_some_iff hDistinct hFound rfl hCounts).mpr hFields, rfl⟩

/-! ## Messages -/

namespace Anthropic

def IsBlock : Form Block :=
  RecordOf ["type", "text"] fun record block =>
    record.Requires "type" IsString block.kind ∧ record.Allows "text" IsString block.text

def IsMessage : Form Message :=
  IsReply "content" "input_tokens" "output_tokens" IsBlock Message.mk

theorem decides_block : Decides block IsBlock := by
  apply decides_record
  intro value found hFound b
  constructor
  · intro h
    obtain ⟨kind, hKind, h⟩ := Option.bind_eq_some_iff.mp h
    obtain ⟨text, hText, h⟩ := Option.bind_eq_some_iff.mp h
    obtain rfl := Option.some.inj h
    exact ⟨(required_eq_some_iff (by decide) hFound rfl decides_string).mp hKind,
      (optional_eq_some_iff (by decide) hFound rfl decides_string).mp hText⟩
  · rintro ⟨hKind, hText⟩
    refine Option.bind_eq_some_iff.mpr
      ⟨_, (required_eq_some_iff (by decide) hFound rfl decides_string).mpr hKind, ?_⟩
    exact Option.bind_eq_some_iff.mpr
      ⟨_, (optional_eq_some_iff (by decide) hFound rfl decides_string).mpr hText, rfl⟩

theorem decides_message : Decides message IsMessage :=
  decides_reply (by decide) decides_block (decides_usage (by decide))

/-- The block is the first one of text. -/
def IsFirstText (content : List Block) (block : Block) : Prop :=
  ∃ before after, content = before ++ block :: after ∧ block.kind = "text" ∧
    ∀ earlier ∈ before, earlier.kind ≠ "text"

theorem find?_eq_some_iff {content : List Block} {block : Block} :
    (content.find? fun block => block.kind = "text") = some block ↔
      IsFirstText content block := by
  rw [List.find?_eq_some_iff_append]
  constructor
  · rintro ⟨hKind, before, after, hContent, hBefore⟩
    exact ⟨before, after, hContent, of_decide_eq_true hKind, fun earlier hEarlier => by
      simpa using hBefore earlier hEarlier⟩
  · rintro ⟨before, after, hContent, hKind, hBefore⟩
    exact ⟨decide_eq_true hKind, before, after, hContent, fun earlier hEarlier => by
      simpa using hBefore earlier hEarlier⟩

theorem Message.generated?_eq_some_iff {message : Message} {generated : Generated} :
    message.generated? = some generated ↔
      ∃ block text, IsFirstText message.content block ∧ block.text = some text ∧
        generated = ⟨text, message.model, message.inputTokens, message.outputTokens⟩ := by
  constructor
  · intro h
    obtain ⟨block, hBlock, h⟩ := Option.bind_eq_some_iff.mp h
    obtain ⟨text, hText, h⟩ := Option.bind_eq_some_iff.mp h
    exact ⟨block, text, find?_eq_some_iff.mp hBlock, hText, (Option.some.inj h).symm⟩
  · rintro ⟨block, text, hBlock, hText, rfl⟩
    refine Option.bind_eq_some_iff.mpr ⟨block, find?_eq_some_iff.mpr hBlock, ?_⟩
    exact Option.bind_eq_some_iff.mpr ⟨text, hText, rfl⟩

end Anthropic

/-! ## Completions -/

namespace OpenAi

def IsChoiceMessage : Form (Option String) :=
  RecordOf ["content"] fun record text => record.Allows "content" IsString text

def IsChoice : Form (Option String) :=
  RecordOf ["message"] fun record text =>
    ∃ message, record.Allows "message" IsChoiceMessage message ∧ text = message.join

def IsCompletion : Form Completion :=
  IsReply "choices" "prompt_tokens" "completion_tokens" IsChoice Completion.mk

theorem decides_choiceMessage : Decides choiceMessage IsChoiceMessage := by
  apply decides_record
  intro value found hFound text
  exact optional_eq_some_iff (by decide) hFound rfl decides_string

theorem decides_choice : Decides choice IsChoice := by
  apply decides_record
  intro value found hFound text
  constructor
  · intro h
    obtain ⟨message, hMessage, h⟩ := Option.bind_eq_some_iff.mp h
    obtain rfl := Option.some.inj h
    exact ⟨message,
      (optional_eq_some_iff (by decide) hFound rfl decides_choiceMessage).mp hMessage, rfl⟩
  · rintro ⟨message, hMessage, rfl⟩
    exact Option.bind_eq_some_iff.mpr
      ⟨_, (optional_eq_some_iff (by decide) hFound rfl decides_choiceMessage).mpr hMessage, rfl⟩

theorem decides_completion : Decides completion IsCompletion :=
  decides_reply (by decide) decides_choice (decides_usage (by decide))

theorem Completion.generated?_eq_some_iff {completion : Completion} {generated : Generated} :
    completion.generated? = some generated ↔
      ∃ text others, completion.choices = some text :: others ∧ text ≠ "" ∧
        generated =
          ⟨text, completion.model, completion.inputTokens, completion.outputTokens⟩ := by
  constructor
  · intro h
    obtain ⟨text, hText, h⟩ := Option.bind_eq_some_iff.mp h
    split at h
    · cases h
    · rename_i hSome
      cases hChoices : completion.choices with
      | nil => simp [hChoices] at hText
      | cons choice others =>
        rw [hChoices] at hText
        obtain rfl : choice = some text := by simpa using hText
        exact ⟨text, others, rfl, hSome, (Option.some.inj h).symm⟩
  · rintro ⟨text, others, hChoices, hSome, rfl⟩
    refine Option.bind_eq_some_iff.mpr ⟨text, by simp [hChoices], ?_⟩
    rw [if_neg hSome]

end OpenAi

/-! ## Both providers -/

namespace Provider

/-- A well-shaped reply and its text, if it holds one. The text of a message is that of its first
block of text; the text of a completion is that of its first choice, unless it is empty. -/
inductive Gives : Provider → Form (Option Generated)
  | text {value : Json Json.Raw} {message : Anthropic.Message} {block : Anthropic.Block}
    {text : String} (hShape : Anthropic.IsMessage value message)
    (hFirst : Anthropic.IsFirstText message.content block) (hText : block.text = some text) :
    Gives .anthropic value
      (some ⟨text, message.model, message.inputTokens, message.outputTokens⟩)
  | noText {value : Json Json.Raw} {message : Anthropic.Message}
    (hShape : Anthropic.IsMessage value message)
    (hNone : ∀ block, Anthropic.IsFirstText message.content block → block.text = none) :
    Gives .anthropic value none
  | content {value : Json Json.Raw} {completion : OpenAi.Completion} {text : String}
    {others : List (Option String)} (hShape : OpenAi.IsCompletion value completion)
    (hFirst : completion.choices = some text :: others) (hSome : text ≠ "") :
    Gives .openAi value
      (some ⟨text, completion.model, completion.inputTokens, completion.outputTokens⟩)
  | noContent {value : Json Json.Raw} {completion : OpenAi.Completion}
    (hShape : OpenAi.IsCompletion value completion)
    (hNone : ∀ text others, completion.choices = some text :: others → text = "") :
    Gives .openAi value none

theorem gives_anthropic_iff {value : Json Json.Raw} {result : Option Generated} :
    Gives .anthropic value result ↔
      ∃ message, Anthropic.IsMessage value message ∧ message.generated? = result := by
  constructor
  · intro h
    cases h with
    | text hShape hFirst hText =>
      exact ⟨_, hShape, Anthropic.Message.generated?_eq_some_iff.mpr ⟨_, _, hFirst, hText, rfl⟩⟩
    | @noText _ message hShape hNone =>
      refine ⟨message, hShape, Option.eq_none_iff_forall_ne_some.mpr fun generated h => ?_⟩
      obtain ⟨block, text, hFirst, hText, -⟩ := Anthropic.Message.generated?_eq_some_iff.mp h
      rw [hNone block hFirst] at hText
      cases hText
  · rintro ⟨message, hShape, rfl⟩
    cases h : message.generated? with
    | none =>
      refine .noText hShape fun block hFirst => Option.eq_none_iff_forall_ne_some.mpr ?_
      intro text hText
      rw [Anthropic.Message.generated?_eq_some_iff.mpr ⟨block, text, hFirst, hText, rfl⟩] at h
      cases h
    | some generated =>
      obtain ⟨block, text, hFirst, hText, rfl⟩ := Anthropic.Message.generated?_eq_some_iff.mp h
      exact .text hShape hFirst hText

theorem gives_openAi_iff {value : Json Json.Raw} {result : Option Generated} :
    Gives .openAi value result ↔
      ∃ completion, OpenAi.IsCompletion value completion ∧ completion.generated? = result := by
  constructor
  · intro h
    cases h with
    | content hShape hFirst hSome =>
      exact ⟨_, hShape, OpenAi.Completion.generated?_eq_some_iff.mpr ⟨_, _, hFirst, hSome, rfl⟩⟩
    | @noContent _ completion hShape hNone =>
      refine ⟨completion, hShape, Option.eq_none_iff_forall_ne_some.mpr fun generated h => ?_⟩
      obtain ⟨text, others, hFirst, hSome, -⟩ := OpenAi.Completion.generated?_eq_some_iff.mp h
      exact hSome (hNone text others hFirst)
  · rintro ⟨completion, hShape, rfl⟩
    cases h : completion.generated? with
    | none =>
      refine .noContent hShape fun text others hFirst => ?_
      by_cases hEmpty : text = ""
      · exact hEmpty
      · rw [OpenAi.Completion.generated?_eq_some_iff.mpr ⟨text, others, hFirst, hEmpty, rfl⟩] at h
        cases h
    | some generated =>
      obtain ⟨text, others, hFirst, hSome, rfl⟩ := OpenAi.Completion.generated?_eq_some_iff.mp h
      exact .content hShape hFirst hSome

end Provider

end TypeRepair
