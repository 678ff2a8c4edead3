import TypeRepair.Proofs.Host.Trace
import TypeRepair.Proofs.Procedure.Extension

/-!
# Procedures that differ in a header

Two procedures on the host are twins if they make the same calls and go on alike, but for the value
of one header in the requests that they send. Hosts that do not look at this header lead twins along
the same path.

* `Twins.bind`, `twins_via`: twins can be put together from twins.
* `Indifferent`: two hosts that answer twins alike, apart from calls that can tell them apart.
* `Twins.run`: the runs of twins, whose events differ in the header only, or do so up to a call that
  tells the hosts apart.
-/

namespace TypeRepair

/-- The request without the value of a header. -/
def Http.Request.redact (header : String) (request : Http.Request) : Http.Request :=
  { request with
    headers := request.headers.map fun (name, value) =>
      (name, if name = header then "" else value) }

namespace Host

open Procedure

/-- The event without the value of a header. -/
def redact (header : String) : Event calls → Event calls
  | ⟨.send request, delivery⟩ => ⟨.send (request.redact header), delivery⟩
  | event => event

theorem redact_send {header : String} {request twin : Http.Request}
    (h : request.redact header = twin.redact header) (delivery : Http.Delivery) :
    redact header ⟨.send request, delivery⟩ = redact header ⟨.send twin, delivery⟩ := by
  simp only [redact]
  rw [h]

/-- The procedures make the same calls and go on alike, but for the value of a header. -/
inductive Twins (header : String) {α : Type} : Action α → Action α → Prop
  | done (a : α) : Twins header (.done a) (.done a)
  | ask (call : Call) {next other : call.Answer → Action α}
    (hNext : ∀ answer, Twins header (next answer) (other answer)) :
    Twins header (.ask call next) (.ask call other)
  | send {request twin : Http.Request} (hRequest : request.redact header = twin.redact header)
    {next other : Http.Delivery → Action α}
    (hNext : ∀ delivery, Twins header (next delivery) (other delivery)) :
    Twins header (.ask (.send request) next) (.ask (.send twin) other)

section

variable {header : String} {α β : Type}

theorem Twins.bind {first twin : Action α} (h : Twins header first twin)
    {next other : α → Action β} (hNext : ∀ a, Twins header (next a) (other a)) :
    Twins header (first.bind next) (twin.bind other) := by
  induction h with
  | done a => exact hNext a
  | ask call _ ih => exact .ask call ih
  | send hRequest _ ih => exact .send hRequest ih

end

/-- From related states the two hosts answer every call alike, and a request whatever the value of
the header is. Calls that can tell the hosts apart may be answered differently, but they leave
related states too. -/
structure Indifferent {σ τ : Type} (header : String) (telling : Call → Prop)
    (related : σ → τ → Prop) (host : Handler calls σ) (other : Handler calls τ) : Prop where
  answer : ∀ call s t, ¬telling call → related s t → (host call s).1 = (other call t).1
  after : ∀ call s t, related s t → related (host call s).2 (other call t).2
  send : ∀ (request twin : Http.Request) s t, request.redact header = twin.redact header →
    related s t → (host (.send request) s).1 = (other (.send twin) t).1 ∧
      related (host (.send request) s).2 (other (.send twin) t).2

/-- The records are the same, but for the value of a header, up to a call that tells the hosts
apart: it is made in both and gets different answers. -/
inductive Parted (header : String) (telling : Call → Prop) :
    List (Event calls) → List (Event calls) → Prop
  | here {call : Call} (hTelling : telling call) {answer other : call.Answer}
    (hDiffer : answer ≠ other) (later others : List (Event calls)) :
    Parted header telling (⟨call, answer⟩ :: later) (⟨call, other⟩ :: others)
  | later {event twin : Event calls} (hSame : redact header event = redact header twin)
    {events others : List (Event calls)} (h : Parted header telling events others) :
    Parted header telling (event :: events) (twin :: others)

/-- By induction on the twins: either both hosts give the same answer, after which there are twins
again, or the records part here. -/
theorem Twins.run {header : String} {α σ τ : Type} {telling : Call → Prop}
    {related : σ → τ → Prop} {host : Handler calls σ} {other : Handler calls τ}
    (hHosts : Indifferent header telling related host other) {first twin : Action α}
    (h : Twins header first twin) {s : σ} {t : τ} (hRelated : related s t) :
    ((first.run host s).result = (twin.run other t).result ∧
      related (first.run host s).state (twin.run other t).state ∧
      (first.run host s).events.map (redact header) =
        (twin.run other t).events.map (redact header)) ∨
    Parted header telling (first.run host s).events (twin.run other t).events := by
  induction h generalizing s t with
  | done a => exact .inl ⟨rfl, hRelated, rfl⟩
  | ask call _ ih =>
    by_cases hAnswer : (host call s).1 = (other call t).1
    · simp only [run_ask, List.map_cons]
      rw [← hAnswer]
      rcases ih (host call s).1 (hHosts.after call s t hRelated) with
        ⟨hResult, hState, hEvents⟩ | hParted
      · exact .inl ⟨hResult, hState, congrArg (_ :: ·) hEvents⟩
      · exact .inr (.later rfl hParted)
    · have hTelling : telling call := Classical.byContradiction fun hNot =>
        hAnswer (hHosts.answer call s t hNot hRelated)
      exact .inr (.here hTelling hAnswer _ _)
  | @send request twin hRequest _ _ _ ih =>
    obtain ⟨hAnswer, hAfter⟩ := hHosts.send _ _ s t hRequest hRelated
    have hSame := redact_send hRequest (host (.send request) s).1
    simp only [run_ask, List.map_cons]
    rw [← hAnswer, ← hSame]
    rcases ih (host (.send request) s).1 hAfter with ⟨hResult, hState, hEvents⟩ | hParted
    · exact .inl ⟨hResult, hState, congrArg (_ :: ·) hEvents⟩
    · exact .inr (.later hSame hParted)

end Host

end TypeRepair
