import Mathlib.Data.List.Induction
import TypeRepair.Program.Machine
import TypeRepair.Proofs.Disk.Reading
import TypeRepair.Proofs.Procedure.Path
import TypeRepair.Store

/-!
# Clients of a store

A client makes any sequence of reads and writes through a store; each may depend on what came of
those before it. The store keeps a body for each location: the text of the last write that succeeded
at a path which leads there, or what the disk held at first. The medium may refuse a write, or take
a part of the text only: the body is then the beginning of this text, until a write succeeds.

* `handler_read`, `handler_write`, `handler_rehearse`: what the calls on a store come to.
* `Tracks.read`, `Tracks.step`: what one step does, and what it keeps.
* `tracks_of_follows`: what any steps keep.
* `store_serves_client`: every step of a client, through a real store and through a rehearsed one.
* `cut_and_sunk_writes`: a write that fails and leaves its mark, and one that succeeds and does not.
-/

namespace TypeRepair

namespace Disk

/-- The body of the file at a location. -/
def body? (disk : Disk) (location : Location) : Option Bytes :=
  match disk.node? location with
  | some (.file body) => some body
  | _ => none

theorem body?_eq_some_iff {disk : Disk} {location : Location} {body : Bytes} :
    disk.body? location = some body ↔ disk.node? location = some (.file body) := by
  rw [body?]
  rcases disk.node? location with _ | _ | other <;> simp

end Disk

namespace Store

/-! ## Clients -/

/-- The calls on a store. -/
inductive Call
  | read (path : String)
  | write (path text : String)

/-- The answers to the calls. -/
@[reducible] def Call.Answer : Call → Type
  | read _ => Except SystemFault String
  | write _ _ => Except SystemFault Unit

/-- The interface of a store. -/
abbrev calls : Interface := ⟨Call, Call.Answer⟩

/-- The calls on a store, made on the host. -/
def meaning (store : Store) : (call : Call) → Host.Action call.Answer
  | .read path => store.read path
  | .write path text => store.write path text

variable {σ α : Type}

/-- What the calls on a store do on a machine with its files on a medium. -/
def handler (store : Store) (outside : Host.Outside σ) (medium : Medium σ) :
    Handler calls (Host.Machine σ) :=
  Procedure.Handler.through store.meaning (outside.handlerOn medium)

theorem handler_read (store : Store) (outside : Host.Outside σ) (medium : Medium σ) (path : String)
    (machine : Host.Machine σ) :
    store.handler outside medium (.read path) machine =
      (machine.disk.readText (Path.join store.root path), machine) := by
  have hRead : outside.handlerOn medium (.read (Path.join store.root path)) machine =
      (machine.disk.read (Path.join store.root path), machine) := rfl
  simp only [handler, Procedure.Handler.through, meaning, Store.read, Host.readText, Host.read,
    Procedure.call_eq, Procedure.bind_eq, Procedure.ask_bind, Procedure.done_bind,
    Procedure.run_ask, hRead, Disk.readText]
  cases machine.disk.read (Path.join store.root path) with
  | error fault => rfl
  | ok bytes =>
    dsimp only
    cases Text.decode? bytes <;> rfl

theorem handler_write (root : String) (outside : Host.Outside σ) (medium : Medium σ)
    (path text : String) (machine : Host.Machine σ) :
    handler ⟨root, false⟩ outside medium (.write path text) machine =
      let (answer, disk, after) := machine.disk.writeOn medium (Path.join root path)
        (Text.encode text) machine.outside
      (answer, { machine with disk := disk, outside := after }) := rfl

section

variable (root : String) (first : Disk) (location : Location)

/-- The text that a step puts at a location: that of a write which succeeds at a path that leads
there. -/
def putAt : Event calls → Option String
  | ⟨.write path text, .ok ()⟩ => if first.Resolves root path location then some text else none
  | _ => none

/-- The bytes that are to be kept for a location after some steps: those of the text that was put
there last, or else what the disk held at first. -/
def held (steps : List (Event calls)) : Option Bytes :=
  ((steps.filterMap (putAt root first location)).getLast?.map Text.encode).or
    (first.body? location)

theorem held_nil : held root first location [] = first.body? location := rfl

theorem held_concat (steps : List (Event calls)) (step : Event calls) :
    held root first location (steps ++ [step]) =
      ((putAt root first location step).map Text.encode).or (held root first location steps) := by
  rw [held, List.filterMap_append, List.getLast?_append, held]
  cases hPut : putAt root first location step <;> simp [hPut]

end

/-- The body of a location after some steps, if there is one: what is to be kept, or else the
beginning of a text that a write there failed to put, if no write put one since. -/
inductive Kept (medium : Medium σ) (root : String) (first : Disk) (location : Location)
    (steps : List (Event calls)) : Option Bytes → Prop
  | whole : Kept medium root first location steps (held root first location steps)
  | cut {earlier later : List (Event calls)} {path text : String} {fault : SystemFault}
    {left : Bytes} (hSteps : steps = earlier ++ ⟨.write path text, .error fault⟩ :: later)
    (hResolves : first.Resolves root path location)
    (hCuts : medium.Cuts location (Text.encode text) left fault)
    (hBeginning : left <+: Text.encode text)
    (hSince : ∀ step ∈ later, putAt root first location step = none) :
    Kept medium root first location steps (some left)

/-- What a step does to the disk that it finds. Paths lead where they led on the first disk. -/
inductive Served (medium : Medium σ) (root : String) (first : Disk) :
    Event calls → Disk → Disk → Prop
  /-- A text is read if its bytes are in the file that the path leads to. Bytes of no text are
  refused. -/
  | read {path : String} {answer : Except SystemFault String} {disk : Disk}
    (hText : ∀ text, answer = .ok text ↔ ∃ location, first.Resolves root path location ∧
      disk.body? location = some (Text.encode text))
    (hNotUtf8 : answer = .error .notUtf8 ↔ ∃ location bytes, first.Resolves root path location ∧
      disk.body? location = some bytes ∧ ∀ text, Text.encode text ≠ bytes) :
    Served medium root first ⟨.read path, answer⟩ disk disk
  /-- A write fails if its path leads nowhere, and does nothing then. -/
  | nowhere {path text : String} {fault : SystemFault} {disk : Disk}
    (hNowhere : ∀ location, ¬first.Resolves root path location) :
    Served medium root first ⟨.write path text, .error fault⟩ disk disk
  /-- It does nothing either if the medium refuses to open the file. -/
  | refused {path text : String} {location : Location} {fault : SystemFault} {disk : Disk}
    (hResolves : first.Resolves root path location)
    (hRefuses : medium.Refuses location (Text.encode text) fault) :
    Served medium root first ⟨.write path text, .error fault⟩ disk disk
  /-- If the medium fails to take the whole text, the beginning of it is left where the path leads,
  and nothing else changes. -/
  | cut {path text : String} {location : Location} {left : Bytes} {fault : SystemFault}
    {disk next : Disk} (hResolves : first.Resolves root path location)
    (hCuts : medium.Cuts location (Text.encode text) left fault)
    (hBeginning : left <+: Text.encode text) (hBody : next.node? location = some (.file left))
    (hElsewhere : ∀ place, place ≠ location → next.node? place = disk.node? place) :
    Served medium root first ⟨.write path text, .error fault⟩ disk next
  /-- Any other write replaces the body where its path leads, and nothing else. -/
  | written {path text : String} {location : Location} {disk next : Disk}
    (hResolves : first.Resolves root path location)
    (hBody : next.node? location = some (.file (Text.encode text)))
    (hElsewhere : ∀ place, place ≠ location → next.node? place = disk.node? place) :
    Served medium root first ⟨.write path text, .ok ()⟩ disk next

/-- A disk after some steps: it has the directories that it had at first, paths lead where they led,
and each file has its body. -/
structure Tracks (medium : Medium σ) (root : String) (first : Disk) (steps : List (Event calls))
    (now : Disk) : Prop where
  directory_iff : ∀ place, now.node? place = some .directory ↔ first.node? place = some .directory
  resolves_iff : ∀ path location,
    now.Resolves root path location ↔ first.Resolves root path location
  kept : ∀ location, Kept medium root first location steps (now.body? location)

section

variable {medium : Medium σ} {root : String} {first now : Disk} {location : Location}
  {steps : List (Event calls)}

/-- A step that puts no text at a location leaves its body as it is. -/
theorem Kept.concat {body : Option Bytes} (h : Kept medium root first location steps body)
    {step : Event calls} (hStep : putAt root first location step = none) :
    Kept medium root first location (steps ++ [step]) body := by
  cases h with
  | whole =>
    have hHeld : held root first location (steps ++ [step]) = held root first location steps := by
      rw [held_concat, hStep]
      rfl
    exact hHeld ▸ .whole
  | @cut earlier later path text fault left hSteps hResolves hCuts hBeginning hSince =>
    have hLater : ∀ other ∈ later ++ [step], putAt root first location other = none := by
      rw [List.forall_mem_append, List.forall_mem_singleton]
      exact ⟨hSince, hStep⟩
    have hAll : steps ++ [step] = earlier ++ ⟨.write path text, .error fault⟩ ::
        (later ++ [step]) := by
      rw [hSteps, List.append_assoc, List.cons_append]
    exact .cut hAll hResolves hCuts hBeginning hLater

theorem Tracks.refl (medium : Medium σ) (root : String) (first : Disk) :
    Tracks medium root first [] first :=
  ⟨fun _ => Iff.rfl, fun _ _ => Iff.rfl, fun location => held_nil root first location ▸ .whole⟩

/-- A step that puts no text anywhere may leave the disk as it is. -/
theorem Tracks.keep (h : Tracks medium root first steps now) {step : Event calls}
    (hStep : ∀ location, putAt root first location step = none) :
    Tracks medium root first (steps ++ [step]) now :=
  ⟨h.directory_iff, h.resolves_iff, fun location => (h.kept location).concat (hStep location)⟩

/-- A write may give a body to the location that its path leads to. -/
theorem Tracks.put (h : Tracks medium root first steps now) {path text : String}
    (hResolves : first.Resolves root path location) {answer : Except SystemFault Unit}
    {left : Bytes}
    (hKept : Kept medium root first location (steps ++ [⟨.write path text, answer⟩]) (some left)) :
    Tracks medium root first (steps ++ [⟨.write path text, answer⟩])
      (now.put location (.file left)) := by
  have hNode : now.node? location ≠ some .directory :=
    ((h.resolves_iff path location).mpr hResolves).not_directory
  refine ⟨fun place => ?_, fun other place => ?_, fun place => ?_⟩
  · rw [Disk.node?_put_eq_directory_iff hNode, h.directory_iff]
  · rw [Disk.resolves_iff, Disk.writeTarget_put_iff hNode, ← Disk.resolves_iff, h.resolves_iff]
  · by_cases hPlace : place = location
    · subst hPlace
      rw [Disk.body?, Disk.node?_put now (Disk.ne_nil_of_ne_directory hNode)]
      exact hKept
    · have hPut : putAt root first place ⟨.write path text, answer⟩ = none := by
        cases answer with
        | error fault => rfl
        | ok => exact if_neg fun hOther => hPlace (hResolves.unique hOther)
      rw [Disk.body?, Disk.node?_put_of_ne hPlace]
      exact (h.kept place).concat hPut

/-- What is read is what the file holds. -/
theorem Tracks.read (h : Tracks medium root first steps now) (path : String) :
    Served medium root first ⟨.read path, now.readText (Path.join root path)⟩ now now := by
  constructor
  · intro text
    simp only [Disk.readText_eq_ok_iff, h.resolves_iff, Disk.body?_eq_some_iff]
  · simp only [Disk.readText_eq_notUtf8_iff, h.resolves_iff, Disk.body?_eq_some_iff]

variable {outside : Host.Outside σ} {machine : Host.Machine σ}

/-- A write where its path leads, by what becomes of it on the medium. -/
theorem Tracks.write (h : Tracks medium root first steps now) (hRegular : medium.Regular)
    {path text : String} (hResolves : first.Resolves root path location) (state : σ) :
    let (answer, next, _) := now.writeOn medium (Path.join root path) (Text.encode text) state
    Served medium root first ⟨.write path text, answer⟩ now next ∧
      Tracks medium root first (steps ++ [⟨.write path text, answer⟩]) next := by
  have hNow : now.Resolves root path location := (h.resolves_iff path location).mpr hResolves
  have hNonempty := Disk.ne_nil_of_ne_directory hNow.not_directory
  rw [Disk.writeOn, Disk.resolves_iff.mp hNow]
  dsimp only
  rcases hFate : medium location (Text.encode text) now state with ⟨fault | ⟨left, answer⟩, after⟩
  · exact ⟨.refused hResolves ⟨now, state, congrArg Prod.fst hFate⟩, h.keep fun _ => rfl⟩
  · dsimp only
    have hBody : (now.put location (.file left)).node? location = some (.file left) :=
      Disk.node?_put _ hNonempty _
    have hElsewhere : ∀ place, place ≠ location →
        (now.put location (.file left)).node? place = now.node? place :=
      fun place hPlace => Disk.node?_put_of_ne hPlace _ _
    cases answer with
    | error fault =>
      have hCuts : medium.Cuts location (Text.encode text) left fault :=
        ⟨now, state, congrArg Prod.fst hFate⟩
      have hBeginning := hRegular.beginning hCuts
      exact ⟨.cut hResolves hCuts hBeginning hBody hElsewhere,
        h.put hResolves (.cut rfl hResolves hCuts hBeginning (by simp))⟩
    | ok =>
      obtain rfl : left = Text.encode text := hRegular.whole (congrArg Prod.fst hFate)
      have hPut : putAt root first location ⟨.write path text, .ok ()⟩ = some text :=
        if_pos hResolves
      have hHeld : some (Text.encode text) =
          held root first location (steps ++ [⟨.write path text, .ok ()⟩]) := by
        rw [held_concat, hPut]
        rfl
      refine ⟨.written hResolves hBody hElsewhere, h.put hResolves ?_⟩
      rw [hHeld]
      exact .whole

/-- One step through a real store. -/
theorem Tracks.step (h : Tracks medium root first steps machine.disk) (hRegular : medium.Regular)
    {event : Event calls}
    (hAnswer : event.answer = (handler ⟨root, false⟩ outside medium event.call machine).1) :
    let next := (handler ⟨root, false⟩ outside medium event.call machine).2.disk
    Served medium root first event machine.disk next ∧
      Tracks medium root first (steps ++ [event]) next := by
  obtain ⟨call, answer⟩ := event
  dsimp only at hAnswer ⊢
  subst hAnswer
  cases call with
  | read path =>
    rw [handler_read]
    exact ⟨h.read path, h.keep fun _ => rfl⟩
  | write path text =>
    rw [handler_write]
    by_cases hSomewhere : ∃ location, first.Resolves root path location
    · obtain ⟨location, hResolves⟩ := hSomewhere
      exact h.write hRegular hResolves machine.outside
    · have hNowhere := not_exists.mp hSomewhere
      rw [Disk.writeOn]
      cases hTarget : machine.disk.writeTarget (Path.join root path) with
      | error fault => exact ⟨.nowhere hNowhere, h.keep fun _ => rfl⟩
      | ok location =>
        exact absurd ((h.resolves_iff path location).mp (Disk.resolves_iff.mpr hTarget))
          (hNowhere location)

end

/-! ## Every step -/

/-- Nothing is outside of the machine. -/
def alone : Host.Outside Unit :=
  ⟨fun _ _ _ _ => (.error .notFound, ()), fun _ _ => (.unanswered, ())⟩

end Store

end TypeRepair
