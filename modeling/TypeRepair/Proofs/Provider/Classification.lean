import TypeRepair.Program.Rehearsal
import TypeRepair.Proofs.Host.Trace
import TypeRepair.Proofs.Json.Reading
import TypeRepair.Proofs.Procedure.Path
import TypeRepair.Proofs.Provider.Reply
import TypeRepair.Provider.Client

/-!
# What replies mean

What comes of asking a provider, by what comes of the one request: the status first, then the whole
body as one JSON text of the reply's shape, then the text in it. The body of a refusal is read as
text by some decoder, given the content type and the bytes; nothing is assumed of it.

* `Classified`: the cases, in terms of the grammar of JSON and the shapes of replies.
* `classified_iff`: they exclude each other, and there is always one of them.
* `generate_classified`: every run with a key that can be sent.
-/

namespace TypeRepair.Provider

open Host Procedure

/-! ## Bodies -/

theorem readBody?_eq_some_iff {provider : Provider} {body : Bytes} {result : Option Generated} :
    provider.readBody? body = some result ↔
      ∃ value, Json.IsText value body ∧ Gives provider value result := by
  constructor
  · intro h
    obtain ⟨value, hValue, h⟩ := Option.bind_eq_some_iff.mp h
    refine ⟨value, Json.read?_eq_some_iff.mp hValue, ?_⟩
    cases provider with
    | anthropic =>
      obtain ⟨message, hMessage, hText⟩ := Option.map_eq_some_iff.mp h
      exact gives_anthropic_iff.mpr ⟨message, (Anthropic.decides_message _ _).mp hMessage, hText⟩
    | openAi =>
      obtain ⟨completion, hCompletion, hText⟩ := Option.map_eq_some_iff.mp h
      exact gives_openAi_iff.mpr ⟨completion, (OpenAi.decides_completion _ _).mp hCompletion, hText⟩
  · rintro ⟨value, hValue, hGives⟩
    refine Option.bind_eq_some_iff.mpr ⟨value, Json.read?_eq_some_iff.mpr hValue, ?_⟩
    cases provider with
    | anthropic =>
      obtain ⟨message, hMessage, hText⟩ := gives_anthropic_iff.mp hGives
      exact Option.map_eq_some_iff.mpr
        ⟨message, (Anthropic.decides_message _ _).mpr hMessage, hText⟩
    | openAi =>
      obtain ⟨completion, hCompletion, hText⟩ := gives_openAi_iff.mp hGives
      exact Option.map_eq_some_iff.mpr
        ⟨completion, (OpenAi.decides_completion _ _).mpr hCompletion, hText⟩

/-! ## Replies -/

/-- What comes of asking a provider at an address, with this decoder for the texts of bodies. -/
inductive Classified (decode : String → Bytes → String) (provider : Provider) (url : String) :
    Http.Delivery → Except GenerationFault Generated → Prop
  -- There is no reply.
  | unanswered :
    Classified decode provider url .unanswered (.error (.request provider (.unanswered url)))
  -- The status is none of success, whatever the body is; one that is cut short counts as empty.
  | refused {reply : Http.Reply} {body : Bytes} (hStatus : reply.status < 200 ∨ 300 ≤ reply.status)
    (hBody : reply.received = some body) :
    Classified decode provider url (.answered reply)
      (.error (.status provider reply.status (decode reply.contentType body)))
  | refusedShort {reply : Http.Reply} (hStatus : reply.status < 200 ∨ 300 ≤ reply.status)
    (hBody : reply.received = none) :
    Classified decode provider url (.answered reply) (.error (.status provider reply.status ""))
  -- The body is cut short, or no JSON text, or one of another shape.
  | undecodable {reply : Http.Reply} (hSuccess : 200 ≤ reply.status ∧ reply.status < 300)
    (hBody : ∀ body value result, reply.received = some body → Json.IsText value body →
      ¬Gives provider value result) :
    Classified decode provider url (.answered reply) (.error (.request provider .undecodable))
  | missing {reply : Http.Reply} {body : Bytes} {value : Json Json.Raw}
    (hSuccess : 200 ≤ reply.status ∧ reply.status < 300) (hBody : reply.received = some body)
    (hText : Json.IsText value body) (hGives : Gives provider value none) :
    Classified decode provider url (.answered reply) (.error (.missingContent provider))
  | generated {reply : Http.Reply} {body : Bytes} {value : Json Json.Raw} {generated : Generated}
    (hSuccess : 200 ≤ reply.status ∧ reply.status < 300) (hBody : reply.received = some body)
    (hText : Json.IsText value body) (hGives : Gives provider value (some generated)) :
    Classified decode provider url (.answered reply) (.ok generated)

theorem isSuccess_iff {status : Nat} :
    Http.isSuccess status = true ↔ 200 ≤ status ∧ status < 300 := by
  simp [Http.isSuccess]

section

variable {provider : Provider} {reply : Http.Reply}

theorem readReply_of_failure (hStatus : reply.status < 200 ∨ 300 ≤ reply.status) :
    provider.readReply reply = .error (.status provider reply.status reply.wholeText) := by
  have hFailure : ¬Http.isSuccess reply.status = true := by
    rw [isSuccess_iff]
    omega
  rw [readReply, if_neg hFailure]

theorem readReply_of_success (hSuccess : 200 ≤ reply.status ∧ reply.status < 300) :
    provider.readReply reply =
      match reply.received.bind provider.readBody? with
      | none => .error (.request provider .undecodable)
      | some none => .error (.missingContent provider)
      | some (some generated) => .ok generated :=
  if_pos (isSuccess_iff.mpr hSuccess)

/-- A whole body of the right shape is read by the text that it gives. -/
theorem readReply_of_gives {body : Bytes} {value : Json Json.Raw} {result : Option Generated}
    (hSuccess : 200 ≤ reply.status ∧ reply.status < 300) (hBody : reply.received = some body)
    (hText : Json.IsText value body) (hGives : Gives provider value result) :
    provider.readReply reply =
      match result with
      | none => .error (.missingContent provider)
      | some generated => .ok generated := by
  rw [readReply_of_success hSuccess, hBody, Option.bind_some,
    readBody?_eq_some_iff.mpr ⟨value, hText, hGives⟩]
  cases result <;> rfl

theorem readReply_of_gives_nothing (hSuccess : 200 ≤ reply.status ∧ reply.status < 300)
    (hBody : ∀ body value result, reply.received = some body → Json.IsText value body →
      ¬Gives provider value result) :
    provider.readReply reply = .error (.request provider .undecodable) := by
  have hNone : reply.received.bind provider.readBody? = none := by
    apply Option.eq_none_iff_forall_ne_some.mpr
    intro result hResult
    obtain ⟨body, hReceived, hRead⟩ := Option.bind_eq_some_iff.mp hResult
    obtain ⟨value, hText, hGives⟩ := readBody?_eq_some_iff.mp hRead
    exact hBody body value result hReceived hText hGives
  rw [readReply_of_success hSuccess, hNone]

end

theorem classified_iff {decode : String → Bytes → String} {provider : Provider}
    {request : Http.Request} {delivery : Http.Delivery} {result : Except GenerationFault Generated}
    (hDecoded : delivery.DecodedBy decode) :
    Classified decode provider request.url delivery result ↔
      provider.readDelivery request delivery = result := by
  constructor
  · intro h
    cases h with
    | unanswered => rfl
    | refused hStatus hBody =>
      rw [readDelivery, readReply_of_failure hStatus, Http.Reply.wholeText, hBody,
        Option.isSome_some, if_pos rfl, hDecoded _ hBody]
    | refusedShort hStatus hBody =>
      rw [readDelivery, readReply_of_failure hStatus, Http.Reply.wholeText, hBody,
        Option.isSome_none, if_neg Bool.false_ne_true]
    | undecodable hSuccess hBody => exact readReply_of_gives_nothing hSuccess hBody
    | missing hSuccess hBody hText hGives => exact readReply_of_gives hSuccess hBody hText hGives
    | generated hSuccess hBody hText hGives => exact readReply_of_gives hSuccess hBody hText hGives
  · rintro rfl
    cases delivery with
    | unanswered => exact .unanswered
    | answered reply =>
      by_cases hSuccess : 200 ≤ reply.status ∧ reply.status < 300
      · rw [readDelivery, readReply_of_success hSuccess]
        cases hRead : reply.received.bind provider.readBody? with
        | none =>
          refine .undecodable hSuccess fun body value result hBody hText hGives => ?_
          rw [hBody, Option.bind_some, readBody?_eq_some_iff.mpr ⟨value, hText, hGives⟩] at hRead
          cases hRead
        | some result =>
          obtain ⟨body, hBody, hRead⟩ := Option.bind_eq_some_iff.mp hRead
          obtain ⟨value, hText, hGives⟩ := readBody?_eq_some_iff.mp hRead
          cases result with
          | none => exact .missing hSuccess hBody hText hGives
          | some generated => exact .generated hSuccess hBody hText hGives
      · have hStatus : reply.status < 200 ∨ 300 ≤ reply.status := by omega
        rw [readDelivery, readReply_of_failure hStatus, Http.Reply.wholeText]
        cases hBody : reply.received with
        | none => exact .refusedShort hStatus hBody
        | some body =>
          rw [Option.isSome_some, if_pos rfl, hDecoded body hBody]
          exact .refused hStatus hBody

/-! ## Asking -/

theorem isSendable_request (provider : Provider) (key model instruction : String) :
    (provider.request key model instruction).isSendable = Http.isSendable key := by
  have hVersion : Http.isSendable "2023-06-01" = true := by decide
  have hType : Http.isSendable "application/json" = true := by decide
  have hScheme : Http.isSendable "Bearer " = true := by decide
  cases provider with
  | anthropic =>
    simp [request, Anthropic.request, Http.Request.isSendable, hVersion, hType]
  | openAi =>
    simp [request, OpenAi.request, Http.Request.isSendable, hType, hScheme,
      Http.isSendable_append]

/-- What a client does with the delivery of its request. -/
def receive (provider : Provider) (request : Http.Request) (delivery : Http.Delivery) :
    Host.Action (Except GenerationFault Generated) :=
  match provider.readDelivery request delivery with
  | .error fault => .done (.error fault)
  | .ok generated =>
    (Host.note (.replyRead provider generated.inputTokens generated.outputTokens)).bind fun _ =>
      .done (.ok generated)

/-- The key decides whether a request is sent. -/
theorem generate_eq (client : Client) (instruction : String) :
    client.generate instruction =
      (Host.note (.generationBegins client.model)).bind fun _ =>
        (Host.note (.providerCalled client.provider)).bind fun _ =>
          if Http.isSendable client.apiKey then
            (Host.send (client.provider.request client.apiKey client.model instruction)).bind
              (client.provider.receive
                (client.provider.request client.apiKey client.model instruction))
          else .done (.error (.request client.provider .unwritable)) := by
  unfold Client.generate
  simp only [isSendable_request]
  rfl

/-- A client whose key can be sent sends one request, and what it returns is what its delivery
means. -/
theorem yields_generate {client : Client} {instruction : String} {events : List (Event Host.calls)}
    {result : Except GenerationFault Generated} (hKey : Http.isSendable client.apiKey = true)
    (h : (client.generate instruction).Yields events result) :
    ∃ delivery, sendings events =
        [(client.provider.request client.apiKey client.model instruction, delivery)] ∧
      client.provider.readDelivery
        (client.provider.request client.apiKey client.model instruction) delivery = result := by
  rw [generate_eq, if_pos hKey] at h
  obtain ⟨_, _, rfl, hCall⟩ := yields_call h
  obtain ⟨_, _, rfl, hAsk⟩ := yields_call hCall
  obtain ⟨delivery, rest, rfl, hRead⟩ := yields_call hAsk
  refine ⟨delivery, ?_⟩
  unfold receive at hRead
  split at hRead
  · rename_i fault hFault
    obtain ⟨rfl, rfl⟩ := hRead
    exact ⟨rfl, hFault⟩
  · rename_i generated hGenerated
    obtain ⟨_, _, rfl, rfl, rfl⟩ := yields_call hRead
    exact ⟨rfl, hGenerated⟩

/-- With a key that can be sent, every run sends one request and no other, and returns what the
delivery of that request is classified as, with whatever decoder read the text of its body. -/
theorem generate_classified {σ : Type} (handler : Handler Host.calls σ) (client : Client)
    (hKey : Http.isSendable client.apiKey = true) (instruction : String) (state : σ) :
    let request := client.provider.request client.apiKey client.model instruction
    let run := (client.generate instruction).run handler state
    ∃ delivery, sendings run.events = [(request, delivery)] ∧
      ∀ decode, delivery.DecodedBy decode → ∀ result,
        Classified decode client.provider request.url delivery result ↔ run.result = result := by
  intro request run
  obtain ⟨delivery, hSent, hRead⟩ := yields_generate hKey (yields_run handler _ state)
  refine ⟨delivery, hSent, fun decode hDecoded result => ?_⟩
  rw [classified_iff hDecoded, hRead]

-- The first block of text has none, and the later one does not count.
def nullText : Http.Reply :=
  .ofText 200
    "\x7b\"content\": [\x7b\"type\": \"text\", \"text\": null\x7d, [\"text\", \"late\"]]\x7d"

-- Well-shaped as the body is, the status comes first.
def tooMany : Http.Reply := .ofText 429 "\x7b\"content\": [[\"text\", \"later\"]]\x7d"

def twoReplies : Machine Script :=
  ⟨⟨[], []⟩, ⟨⟨true, [], []⟩, ⟨true, [.answered nullText, .answered tooMany], []⟩⟩, ""⟩

/-- The decoder for bodies in UTF-8 without a byte order mark. -/
def asUtf8 (_ : String) (body : Bytes) : String := Text.decodeLossy body

theorem twoReplies_classified :
    let client : Client := ⟨.anthropic, "key", "model"⟩
    let request := client.provider.request client.apiKey client.model "instruction"
    let first := (client.generate "instruction").run scripted.handler twoReplies
    let second := (client.generate "instruction").run scripted.handler first.state
    Http.isSendable client.apiKey = true ∧
      (sendings first.events = [(request, .answered nullText)] ∧
        Classified asUtf8 .anthropic request.url (.answered nullText)
          (.error (.missingContent .anthropic))) ∧
      sendings second.events = [(request, .answered tooMany)] ∧
        Classified asUtf8 .anthropic request.url (.answered tooMany)
          (.error (.status .anthropic 429 "\x7b\"content\": [[\"text\", \"later\"]]\x7d")) := by
  intro client request first second
  have hKey : Http.isSendable client.apiKey = true := by decide
  have hFirst : (sendings first.events).map Prod.snd = [.answered nullText] := by decide +kernel
  have hSecond : (sendings second.events).map Prod.snd = [.answered tooMany] := by decide +kernel
  have hNull : (Http.Delivery.answered nullText).DecodedBy asUtf8 := by
    intro body hBody
    cases hBody
    decide +kernel
  have hMany : (Http.Delivery.answered tooMany).DecodedBy asUtf8 := by
    intro body hBody
    cases hBody
    decide +kernel
  obtain ⟨delivery, hSent, hClassified⟩ :=
    generate_classified scripted.handler client hKey "instruction" twoReplies
  obtain ⟨other, hSentNext, hClassifiedNext⟩ :=
    generate_classified scripted.handler client hKey "instruction" first.state
  obtain rfl : delivery = .answered nullText := by
    rw [hSent] at hFirst
    exact List.singleton_inj.mp hFirst
  obtain rfl : other = .answered tooMany := by
    rw [hSentNext] at hSecond
    exact List.singleton_inj.mp hSecond
  exact ⟨hKey, ⟨hSent, (hClassified asUtf8 hNull _).mpr (by decide +kernel)⟩, hSentNext,
    (hClassifiedNext asUtf8 hMany _).mpr (by decide +kernel)⟩

end TypeRepair.Provider
