import TypeRepair.Proofs.Provider.Classification
import TypeRepair.Proofs.Repair.Blocks

/-!
# The choice of the provider

What a provider answers can be delivered by the other one as well, in a reply of its own shape. The
decoders differ: an empty text is a text for one provider and none for the other. The loop does
not: with either provider it makes the same passes, reads and writes the same, and gives the same
instructions.

* `Delivers`: an answer as each provider delivers it.
* `delivers_heard`: every delivery is some answer.
* `Delivers.usable_eq`: the loop can use the same block of an answer, whoever delivers it.
* `provider_makes_no_difference`: the runs with both providers.
-/

namespace TypeRepair.Provider

open Host Procedure Repair

/-! ## Answers -/

/-- What comes of a request, whichever provider is asked. -/
inductive Answer
  /-- A text, which may be empty. -/
  | text (text : String)
  /-- A well-shaped reply that holds no text. -/
  | noText
  /-- A status that is none of success. -/
  | status (status : Nat)
  /-- A body that is cut short, no JSON text, or of another shape. -/
  | undecodable
  /-- No reply. -/
  | dropped
deriving DecidableEq

/-- The reply has a status of success, and its whole body is a JSON text of this value. -/
def Holds (reply : Http.Reply) (value : Json Json.Raw) : Prop :=
  (200 ≤ reply.status ∧ reply.status < 300) ∧
    ∃ body, reply.received = some body ∧ Json.IsText value body

/-- A provider delivers this answer: as the first block of text in a message, or as the content of
the first choice in a completion. -/
inductive Delivers : Provider → Answer → Http.Delivery → Prop
  | message {reply : Http.Reply} {value : Json Json.Raw} {message : Anthropic.Message}
    {block : Anthropic.Block} {text : String} (hReply : Holds reply value)
    (hShape : Anthropic.IsMessage value message)
    (hFirst : Anthropic.IsFirstText message.content block) (hText : block.text = some text) :
    Delivers .anthropic (.text text) (.answered reply)
  | messageWithout {reply : Http.Reply} {value : Json Json.Raw} {message : Anthropic.Message}
    (hReply : Holds reply value) (hShape : Anthropic.IsMessage value message)
    (hNone : ∀ block, Anthropic.IsFirstText message.content block → block.text = none) :
    Delivers .anthropic .noText (.answered reply)
  | completion {reply : Http.Reply} {value : Json Json.Raw} {completion : OpenAi.Completion}
    {text : String} {others : List (Option String)} (hReply : Holds reply value)
    (hShape : OpenAi.IsCompletion value completion)
    (hFirst : completion.choices = some text :: others) :
    Delivers .openAi (.text text) (.answered reply)
  | completionWithout {reply : Http.Reply} {value : Json Json.Raw}
    {completion : OpenAi.Completion} (hReply : Holds reply value)
    (hShape : OpenAi.IsCompletion value completion)
    (hNone : ∀ text others, completion.choices ≠ some text :: others) :
    Delivers .openAi .noText (.answered reply)
  | refused (provider : Provider) {reply : Http.Reply}
    (hStatus : reply.status < 200 ∨ 300 ≤ reply.status) :
    Delivers provider (.status reply.status) (.answered reply)
  | undecodable {provider : Provider} {reply : Http.Reply}
    (hSuccess : 200 ≤ reply.status ∧ reply.status < 300)
    (hBody : ∀ value result, Holds reply value → ¬Gives provider value result) :
    Delivers provider .undecodable (.answered reply)
  | dropped (provider : Provider) : Delivers provider .dropped .unanswered

/-- The text in a JSON value that is a reply of the provider: `none` if it is of another shape. -/
def textIn : Provider → Json Json.Raw → Option (Option String)
  | .anthropic, value => (Anthropic.message value).map fun message =>
      (message.content.find? fun block => block.kind = "text").bind Anthropic.Block.text
  | .openAi, value =>
    (OpenAi.completion value).map fun completion => completion.choices.head?.join

/-- The answer that a delivery of the provider is. -/
def heard (provider : Provider) : Http.Delivery → Answer
  | .unanswered => .dropped
  | .answered reply =>
    if Http.isSuccess reply.status then
      match (reply.received.bind Json.read?).bind provider.textIn with
      | none => .undecodable
      | some none => .noText
      | some (some text) => .text text
    else .status reply.status

theorem textIn_anthropic_eq_some_iff {value : Json Json.Raw} {text : Option String} :
    textIn .anthropic value = some text ↔ ∃ message, Anthropic.IsMessage value message ∧
      (message.content.find? fun block => block.kind = "text").bind Anthropic.Block.text =
        text := by
  rw [textIn, Option.map_eq_some_iff]
  exact exists_congr fun message => and_congr_left' (Anthropic.decides_message _ _)

theorem textIn_openAi_eq_some_iff {value : Json Json.Raw} {text : Option String} :
    textIn .openAi value = some text ↔ ∃ completion, OpenAi.IsCompletion value completion ∧
      completion.choices.head?.join = text := by
  rw [textIn, Option.map_eq_some_iff]
  exact exists_congr fun completion => and_congr_left' (OpenAi.decides_completion _ _)

theorem Gives.exists_textIn {provider : Provider} {value : Json Json.Raw}
    {result : Option Generated} (h : Gives provider value result) :
    ∃ text, provider.textIn value = some text := by
  cases provider with
  | anthropic =>
    obtain ⟨message, hShape, -⟩ := gives_anthropic_iff.mp h
    exact ⟨_, textIn_anthropic_eq_some_iff.mpr ⟨message, hShape, rfl⟩⟩
  | openAi =>
    obtain ⟨completion, hShape, -⟩ := gives_openAi_iff.mp h
    exact ⟨_, textIn_openAi_eq_some_iff.mpr ⟨completion, hShape, rfl⟩⟩

theorem delivers_text {provider : Provider} {reply : Http.Reply} {value : Json Json.Raw}
    {text : String} (hReply : Holds reply value) (h : provider.textIn value = some (some text)) :
    Delivers provider (.text text) (.answered reply) := by
  cases provider with
  | anthropic =>
    obtain ⟨message, hShape, hFound⟩ := textIn_anthropic_eq_some_iff.mp h
    obtain ⟨block, hBlock, hText⟩ := Option.bind_eq_some_iff.mp hFound
    exact .message hReply hShape (Anthropic.find?_eq_some_iff.mp hBlock) hText
  | openAi =>
    obtain ⟨completion, hShape, hFirst⟩ := textIn_openAi_eq_some_iff.mp h
    rw [Option.join_eq_some_iff, List.head?_eq_some_iff] at hFirst
    obtain ⟨others, hChoices⟩ := hFirst
    exact .completion hReply hShape hChoices

theorem delivers_noText {provider : Provider} {reply : Http.Reply} {value : Json Json.Raw}
    (hReply : Holds reply value) (h : provider.textIn value = some none) :
    Delivers provider .noText (.answered reply) := by
  cases provider with
  | anthropic =>
    obtain ⟨message, hShape, hFound⟩ := textIn_anthropic_eq_some_iff.mp h
    refine .messageWithout hReply hShape fun block hFirst => ?_
    rwa [Anthropic.find?_eq_some_iff.mpr hFirst, Option.bind_some] at hFound
  | openAi =>
    obtain ⟨completion, hShape, hFirst⟩ := textIn_openAi_eq_some_iff.mp h
    refine .completionWithout hReply hShape fun text others hChoices => ?_
    rw [hChoices] at hFirst
    cases hFirst

/-- Every delivery is an answer. -/
theorem delivers_heard (provider : Provider) (delivery : Http.Delivery) :
    Delivers provider (provider.heard delivery) delivery := by
  cases delivery with
  | unanswered => exact .dropped provider
  | answered reply =>
    unfold heard
    dsimp only
    by_cases hSuccess : 200 ≤ reply.status ∧ reply.status < 300
    · rw [if_pos (isSuccess_iff.mpr hSuccess)]
      have hHolds : ∀ {value}, reply.received.bind Json.read? = some value ↔ Holds reply value := by
        intro value
        rw [Option.bind_eq_some_iff, Holds]
        simp only [Json.read?_eq_some_iff, hSuccess, and_self, true_and]
      cases hRead : (reply.received.bind Json.read?).bind provider.textIn with
      | none =>
        refine .undecodable hSuccess fun value result hReply hGives => ?_
        obtain ⟨text, hText⟩ := hGives.exists_textIn
        rw [hHolds.mpr hReply, Option.bind_some, hText] at hRead
        cases hRead
      | some found =>
        obtain ⟨value, hValue, hFound⟩ := Option.bind_eq_some_iff.mp hRead
        cases found with
        | none => exact delivers_noText (hHolds.mp hValue) hFound
        | some text => exact delivers_text (hHolds.mp hValue) hFound
    · rw [if_neg (fun h => hSuccess (isSuccess_iff.mp h))]
      exact .refused provider (by omega)

/-! ## Blocks -/

/-- The block that the loop can use of an answer. -/
def Answer.block? : Answer → Option String
  | .text content => (Patch.block? content).filter (· ≠ "")
  | _ => none

theorem readDelivery_message {reply : Http.Reply} {value : Json Json.Raw}
    {message : Anthropic.Message} {block : Anthropic.Block} {text : String}
    (hReply : Holds reply value) (hShape : Anthropic.IsMessage value message)
    (hFirst : Anthropic.IsFirstText message.content block) (hText : block.text = some text)
    (request : Http.Request) :
    anthropic.readDelivery request (.answered reply) =
      .ok ⟨text, message.model, message.inputTokens, message.outputTokens⟩ := by
  obtain ⟨hSuccess, body, hBody, hValue⟩ := hReply
  exact readReply_of_gives hSuccess hBody hValue (.text hShape hFirst hText)

/-- An empty text of a completion counts as none. -/
theorem readDelivery_completion {reply : Http.Reply} {value : Json Json.Raw}
    {completion : OpenAi.Completion} {text : String} {others : List (Option String)}
    (hReply : Holds reply value) (hShape : OpenAi.IsCompletion value completion)
    (hFirst : completion.choices = some text :: others) (request : Http.Request) :
    openAi.readDelivery request (.answered reply) =
      if text = "" then .error (.missingContent .openAi)
      else .ok ⟨text, completion.model, completion.inputTokens, completion.outputTokens⟩ := by
  obtain ⟨hSuccess, body, hBody, hValue⟩ := hReply
  split
  · rename_i hEmpty
    refine readReply_of_gives hSuccess hBody hValue (.noContent hShape ?_)
    intro other others hOther
    rw [hFirst] at hOther
    cases hOther
    exact hEmpty
  · rename_i hSome
    exact readReply_of_gives hSuccess hBody hValue (.content hShape hFirst hSome)

theorem Delivers.usable_eq {provider : Provider} {answer : Answer} {delivery : Http.Delivery}
    (h : Delivers provider answer delivery) (request : Http.Request) :
    usable (provider.readDelivery request delivery) = answer.block? := by
  cases h with
  | message hReply hShape hFirst hText =>
    rw [readDelivery_message hReply hShape hFirst hText]
    rfl
  | messageWithout hReply hShape hNone =>
    obtain ⟨hSuccess, body, hBody, hValue⟩ := hReply
    rw [readDelivery, readReply_of_gives hSuccess hBody hValue (.noText hShape hNone)]
    rfl
  | completion hReply hShape hFirst =>
    rw [readDelivery_completion hReply hShape hFirst]
    split
    · rename_i hEmpty
      subst hEmpty
      -- There is no block in an empty text.
      rfl
    · rfl
  | completionWithout hReply hShape hNone =>
    obtain ⟨hSuccess, body, hBody, hValue⟩ := hReply
    rw [readDelivery, readReply_of_gives hSuccess hBody hValue (.noContent hShape
      fun text others hFirst => absurd hFirst (hNone text others))]
    rfl
  | refused provider hStatus =>
    rw [readDelivery, readReply_of_failure hStatus]
    rfl
  | undecodable hSuccess hBody =>
    rw [readDelivery, readReply_of_gives_nothing hSuccess fun body value result hReceived hValue =>
      hBody value result ⟨hSuccess, body, hReceived, hValue⟩]
    rfl
  | dropped provider => rfl

/-! ## Runs -/

/-- A checker and a store on states of type `σ`. -/
structure Project (σ : Type) where
  check : σ → Except Checker.Failure Checker.Pass × σ
  read : String → σ → Except SystemFault String × σ
  write : String → String → σ → Except SystemFault Unit × σ

/-- A host on which nothing works but sending requests, which get these deliveries in order. -/
def delivering (deliveries : Nat → Http.Delivery) : Handler Host.calls Nat
  | .send _, n => (deliveries n, n + 1)
  | .note _, n => ((), n)
  | .print _, n => ((), n)
  | .pathExists _, n => (false, n)
  | .read _, n => (.error .notFound, n)
  | .write _ _, n => (.error .notFound, n)
  | .execute _ _, n => (.error .notFound, n)

/-- The collaborators of a project with a client whose requests get these deliveries in order. The
state counts the requests. -/
def Project.asking {σ : Type} (project : Project σ) (client : Client)
    (deliveries : Nat → Http.Delivery) : Repair.Collaborators (σ × Nat) where
  check state := ((project.check state.1).1, (project.check state.1).2, state.2)
  read file state := ((project.read file state.1).1, (project.read file state.1).2, state.2)
  generate instruction state :=
    let run := (client.generate instruction).run (delivering deliveries) state.2
    (run.result, state.1, run.state)
  write file body state :=
    ((project.write file body state.1).1, (project.write file body state.1).2, state.2)

/-- A client whose key can be sent takes the next delivery, and the loop can use its block; another
one takes none. -/
theorem usable_generate (client : Client) {answers : Nat → Answer}
    {deliveries : Nat → Http.Delivery}
    (h : ∀ n, Delivers client.provider (answers n) (deliveries n)) (instruction : String)
    (n : Nat) :
    let run := (client.generate instruction).run (delivering deliveries) n
    (usable run.result, run.state) =
      if Http.isSendable client.apiKey then ((answers n).block?, n + 1) else (none, n) := by
  intro run
  have hRun : run = (client.generate instruction).run (delivering deliveries) n := rfl
  rw [generate_eq] at hRun
  split
  · rename_i hKey
    rw [if_pos hKey] at hRun
    have hReceive : ∀ request delivery m,
        let received := (client.provider.receive request delivery).run (delivering deliveries) m
        received.result = client.provider.readDelivery request delivery ∧ received.state = m := by
      intro request delivery m
      unfold receive
      cases client.provider.readDelivery request delivery <;> exact ⟨rfl, rfl⟩
    obtain ⟨hResult, hState⟩ := hReceive
      (client.provider.request client.apiKey client.model instruction) (deliveries n) (n + 1)
    rw [← (h n).usable_eq, ← hResult, hRun]
    exact congrArg (Prod.mk _) hState
  · rename_i hKey
    rw [if_neg hKey] at hRun
    rw [hRun]
    rfl

/-- Clients that get the same answers, each in its provider's replies, are of the same use. -/
theorem asking_alike {σ : Type} (project : Project σ) (client other : Client)
    (hKeys : Http.isSendable client.apiKey = Http.isSendable other.apiKey)
    {answers : Nat → Answer} {deliveries replies : Nat → Http.Delivery}
    (hDeliveries : ∀ n, Delivers client.provider (answers n) (deliveries n))
    (hReplies : ∀ n, Delivers other.provider (answers n) (replies n)) :
    Alike (project.asking client deliveries) (project.asking other replies) := by
  intro call state
  cases call with
  | generate instruction =>
    have hFirst := usable_generate client hDeliveries instruction state.2
    have hSecond := usable_generate other hReplies instruction state.2
    rw [hKeys, ← hSecond] at hFirst
    obtain ⟨hUsable, hState⟩ := Prod.mk.inj hFirst
    exact ⟨hUsable, congrArg (Prod.mk state.1) hState⟩
  | _ => exact ⟨rfl, rfl⟩

/-- An empty text is a text for one provider and none for the other. -/
theorem readDelivery_emptyText {delivery reply : Http.Delivery}
    (hDelivery : Delivers .anthropic (.text "") delivery)
    (hReply : Delivers .openAi (.text "") reply) (request : Http.Request) :
    (∃ generated, anthropic.readDelivery request delivery = .ok generated ∧
      generated.content = "") ∧
    openAi.readDelivery request reply = .error (.missingContent .openAi) := by
  cases hDelivery with
  | message hHolds hShape hFirst hText =>
    cases hReply with
    | completion hHolds' hShape' hFirst' =>
      exact ⟨⟨_, readDelivery_message hHolds hShape hFirst hText request, rfl⟩,
        readDelivery_completion hHolds' hShape' hFirst' request⟩

/-- With answers that are delivered by either provider, and keys that can both be sent or both not,
a run makes the same passes, reads and writes the same, gives the same instructions, and ends with
the same summary and in the same state; all the same, the clients disagree about empty texts. -/
theorem provider_makes_no_difference {σ : Type} (project : Project σ) (attempts : Nat)
    (credentials others : Credentials)
    (hKeys : Http.isSendable credentials.apiKey = Http.isSendable others.apiKey)
    {answers : Nat → Answer} {deliveries replies : Nat → Http.Delivery}
    (hDeliveries : ∀ n, Delivers .anthropic (answers n) (deliveries n))
    (hReplies : ∀ n, Delivers .openAi (answers n) (replies n)) (state : σ) :
    let run := (project.asking (.ofCredentials .anthropic credentials) deliveries).repair attempts
      (state, 0)
    let other := (project.asking (.ofCredentials .openAi others) replies).repair attempts (state, 0)
    (run.result = other.result ∧ run.state = other.state ∧
      deeds run.events = deeds other.events) ∧
    ∀ n request, answers n = .text "" →
      (∃ generated, anthropic.readDelivery request (deliveries n) = .ok generated ∧
        generated.content = "") ∧
      openAi.readDelivery request (replies n) = .error (.missingContent .openAi) := by
  intro run other
  have hAlike := asking_alike project (.ofCredentials .anthropic credentials)
    (.ofCredentials .openAi others) hKeys hDeliveries hReplies
  refine ⟨hAlike.repair_eq attempts (state, 0), fun n request hEmpty => ?_⟩
  have hDelivery := hDeliveries n
  have hReply := hReplies n
  rw [hEmpty] at hDelivery hReply
  exact readDelivery_emptyText hDelivery hReply request

/-- A project with errors in two files. -/
def twoFiles : Project Rehearsal where
  check := Repair.scripted.check
  read := Repair.scripted.read
  write := Repair.scripted.write

/-- The first answer mends a file, and the others are empty texts. -/
def oneMend : Nat → Answer
  | 0 => .text "```\na\nc\n```"
  | _ + 1 => .text ""

def jsonReply (body : String) : Http.Delivery :=
  .answered (.ofText 200 body)

def oneMendMessages : Nat → Http.Delivery
  | 0 => jsonReply
    "\x7b\"content\": [\x7b\"type\": \"text\", \"text\": \"```\\na\\nc\\n```\"\x7d]\x7d"
  | _ + 1 => jsonReply "\x7b\"content\": [\x7b\"type\": \"text\", \"text\": \"\"\x7d]\x7d"

def oneMendCompletions : Nat → Http.Delivery
  | 0 => jsonReply
    "\x7b\"choices\": [\x7b\"message\": \x7b\"content\": \"```\\na\\nc\\n```\"\x7d\x7d]\x7d"
  | _ + 1 => jsonReply "\x7b\"choices\": [\x7b\"message\": \x7b\"content\": \"\"\x7d\x7d]\x7d"

theorem oneMend_makes_no_difference :
    let run := (twoFiles.asking (.ofCredentials .anthropic ⟨"key", none⟩) oneMendMessages).repair 1
      (Rehearsal.twoFiles, 0)
    let other := (twoFiles.asking (.ofCredentials .openAi ⟨"other key", none⟩)
      oneMendCompletions).repair 1 (Rehearsal.twoFiles, 0)
    run.result = other.result ∧
    other.result = .ok ⟨2, 0, ["a.ts"], [⟨"a.ts", "a\nb", "a\nc", 1⟩], true⟩ ∧
    deeds run.events = deeds other.events ∧
    ∀ request, openAi.readDelivery request (oneMendCompletions 1) =
      .error (.missingContent .openAi) := by
  intro run other
  have hMessages : ∀ n, Delivers .anthropic (oneMend n) (oneMendMessages n) := by
    have hFirst : anthropic.heard (oneMendMessages 0) = oneMend 0 := by decide +kernel
    have hLater : anthropic.heard (oneMendMessages 1) = oneMend 1 := by decide +kernel
    intro n
    cases n with
    | zero => exact hFirst ▸ delivers_heard .anthropic (oneMendMessages 0)
    | succ n => exact hLater ▸ delivers_heard .anthropic (oneMendMessages 1)
  have hCompletions : ∀ n, Delivers .openAi (oneMend n) (oneMendCompletions n) := by
    have hFirst : openAi.heard (oneMendCompletions 0) = oneMend 0 := by decide +kernel
    have hLater : openAi.heard (oneMendCompletions 1) = oneMend 1 := by decide +kernel
    intro n
    cases n with
    | zero => exact hFirst ▸ delivers_heard .openAi (oneMendCompletions 0)
    | succ n => exact hLater ▸ delivers_heard .openAi (oneMendCompletions 1)
  have hKeys : Http.isSendable "key" = Http.isSendable "other key" := by decide
  obtain ⟨⟨hResult, -, hDeeds⟩, hEmpty⟩ := provider_makes_no_difference twoFiles 1
    ⟨"key", none⟩ ⟨"other key", none⟩ hKeys hMessages hCompletions Rehearsal.twoFiles
  have hOther : other.result = .ok ⟨2, 0, ["a.ts"], [⟨"a.ts", "a\nb", "a\nc", 1⟩], true⟩ := by
    decide +kernel
  exact ⟨hResult, hOther, hDeeds, fun request => (hEmpty 1 request rfl).2⟩

end TypeRepair.Provider
