import Mathlib.Data.List.Nodup
import Mathlib.Data.List.Perm.Basic
import Mathlib.Logic.Relation
import TypeRepair.Proofs.Provider.Shape

/-!
# Presentations of a value

What a sender may change of a reply without changing what it says, and what it may not, as relations
between values that know nothing of the decoders: one change to one record or text (`Restates`,
`Repeats`), made anywhere in a reply (`At`). A schema tells where the records and texts are.

* `GoesBy`: a decoder that does not see the former changes and refuses what the latter make.
* `goesBy_text`, `goesBy_count`, `GoesBy.nullable`, `GoesBy.list`: plain values and lists.
* `rel_fields`: no field of a record can be told apart after a change of the former kind.
* `exists_holdsRepeated`: a record after a change of the latter kind is none, or has it in a field.
* `goesBy_record`: records.
-/

namespace TypeRepair.Shape

open Json (Raw)

/-! ## Changes -/

/-- A field of a record: its name, the value that says the same as leaving the field out, if it may
be left out, and the schema of its values. -/
structure Field (σ : Type) where
  name : String
  absent : Option (Json Raw)
  schema : σ

/-- Where a value may hold texts and records. -/
inductive Schema
  | text
  | count
  | list (item : Schema)
  | record (known : List (Field Schema))

/-- One change to a text or a record that does not change what it says. -/
inductive Restates : Schema → Json Raw → Json Raw → Prop
  /-- Other escapes in a text. -/
  | respelled {raw raw' : Raw} (hText : Json.stringText? raw = Json.stringText? raw') :
    Restates .text (.string raw) (.string raw')
  | reordered {known : List (Field Schema)} {members members' : List (Raw × Json Raw)}
    (hPerm : members.Perm members') : Restates (.record known) (.object members) (.object members')
  /-- Other escapes in a key. -/
  | renamed {known : List (Field Schema)} {front back : List (Raw × Json Raw)} {key key' : Raw}
    {value : Json Raw} (hText : Json.stringText? key = Json.stringText? key') :
    Restates (.record known) (.object (front ++ (key, value) :: back))
      (.object (front ++ (key', value) :: back))
  /-- One more key, which no field has, with any value. -/
  | extended {known : List (Field Schema)} {front back : List (Raw × Json Raw)} {key : Raw}
    {name : String} {value : Json Raw} (hKey : Json.stringText? key = some name)
    (hUnknown : ∀ field ∈ known, field.name ≠ name) :
    Restates (.record known) (.object (front ++ back)) (.object (front ++ (key, value) :: back))
  /-- A field that was left out is given the value that says the same. -/
  | given {known : List (Field Schema)} {front back : List (Raw × Json Raw)} {key : Raw}
    {field : Field Schema} {value : Json Raw} (hField : field ∈ known)
    (hKey : Json.stringText? key = some field.name) (hAbsent : field.absent = some value)
    (hOut : ∀ member ∈ front ++ back, Json.stringText? member.1 ≠ some field.name) :
    Restates (.record known) (.object (front ++ back)) (.object (front ++ (key, value) :: back))
  /-- The array of all fields in their order. -/
  | listed {known : List (Field Schema)} {members : List (Raw × Json Raw)}
    (hKeys : List.Forall₂ (fun member field => Json.stringText? member.1 = some field.name)
      members known) :
    Restates (.record known) (.object members) (.array (members.map Prod.snd))

/-- A field is given once more. -/
inductive Repeats : Schema → Json Raw → Json Raw → Prop
  | again {known : List (Field Schema)} {front back : List (Raw × Json Raw)} {key : Raw}
    {field : Field Schema} {value : Json Raw} (hField : field ∈ known)
    (hKey : Json.stringText? key = some field.name)
    (hGiven : ∃ member ∈ front ++ back, Json.stringText? member.1 = some field.name) :
    Repeats (.record known) (.object (front ++ back)) (.object (front ++ (key, value) :: back))

/-- A change to the value itself or somewhere in it: in an item of a list, or in a field of a record
that is given as an object or as an array. -/
inductive At (change : Schema → Json Raw → Json Raw → Prop) : Schema → Json Raw → Json Raw → Prop
  | here {schema : Schema} {value value' : Json Raw} (h : change schema value value') :
    At change schema value value'
  | item {item : Schema} {front back : List (Json Raw)} {value value' : Json Raw}
    (h : At change item value value') :
    At change (.list item) (.array (front ++ value :: back)) (.array (front ++ value' :: back))
  | member {known : List (Field Schema)} {field : Field Schema}
    {front back : List (Raw × Json Raw)} {key : Raw} {value value' : Json Raw}
    (hField : field ∈ known) (hKey : Json.stringText? key = some field.name)
    (h : At change field.schema value value') :
    At change (.record known) (.object (front ++ (key, value) :: back))
      (.object (front ++ (key, value') :: back))
  | element {known : List (Field Schema)} {field : Field Schema} {front back : List (Json Raw)}
    {value value' : Json Raw} (hField : known[front.length]? = some field)
    (h : At change field.schema value value') :
    At change (.record known) (.array (front ++ value :: back)) (.array (front ++ value' :: back))

/-- A decoder that makes no difference between restatements, and refuses what repeats a field. -/
structure GoesBy {α : Type} (schema : Schema) (decoder : Decoder α) : Prop where
  restated : ∀ {value value'}, At Restates schema value value' → decoder value = decoder value'
  repeated : ∀ {value value'}, At Repeats schema value value' → decoder value' = none

/-! ## Plain values and lists -/

theorem goesBy_text : GoesBy .text string where
  restated h := by
    cases h with
    | here h => cases h with
      | respelled hText => exact hText
  repeated h := by
    cases h with
    | here h => cases h

theorem goesBy_count : GoesBy .count counter where
  restated h := by
    cases h with
    | here h => cases h
  repeated h := by
    cases h with
    | here h => cases h

/-- Null is no text and no record, and nothing in it can change. -/
theorem At.ne_null {change : Schema → Json Raw → Json Raw → Prop}
    (hChange : ∀ {schema value value'}, change schema value value' →
      value ≠ .null ∧ value' ≠ .null)
    {schema : Schema} {value value' : Json Raw} (h : At change schema value value') :
    value ≠ .null ∧ value' ≠ .null := by
  cases h with
  | here h => exact hChange h
  | item | member | element => exact ⟨nofun, nofun⟩

theorem Restates.ne_null {schema : Schema} {value value' : Json Raw}
    (h : Restates schema value value') : value ≠ .null ∧ value' ≠ .null := by
  cases h <;> exact ⟨nofun, nofun⟩

theorem Repeats.ne_null {schema : Schema} {value value' : Json Raw}
    (h : Repeats schema value value') : value ≠ .null ∧ value' ≠ .null := by
  cases h
  exact ⟨nofun, nofun⟩

section

variable {α : Type} {schema : Schema} {decoder : Decoder α}

theorem GoesBy.nullable (hDecoder : GoesBy schema decoder) :
    GoesBy schema (Shape.nullable decoder) where
  restated h := by
    obtain ⟨hBefore, hAfter⟩ := h.ne_null Restates.ne_null
    rw [nullable_of_ne_null hBefore, nullable_of_ne_null hAfter, hDecoder.restated h]
  repeated h := by
    rw [nullable_of_ne_null (h.ne_null Repeats.ne_null).2, hDecoder.repeated h, Option.map_none]

theorem GoesBy.map {β : Type} (hDecoder : GoesBy schema decoder) (f : α → β) :
    GoesBy schema fun value => (decoder value).map f where
  restated h := by rw [hDecoder.restated h]
  repeated h := by rw [hDecoder.repeated h, Option.map_none]

theorem list_array_middle (front back : List (Json Raw)) (value : Json Raw) :
    list decoder (.array (front ++ value :: back)) =
      (front.mapM decoder).bind fun before => (decoder value).bind fun a =>
        (back.mapM decoder).bind fun after => some (before ++ a :: after) := by
  show (front ++ value :: back).mapM decoder = _
  rw [List.mapM_append, List.mapM_cons]
  simp [Option.bind_assoc]

theorem GoesBy.list (hDecoder : GoesBy schema decoder) :
    GoesBy (.list schema) (Shape.list decoder) where
  restated h := by
    cases h with
    | here h => cases h
    | item h => rw [list_array_middle, list_array_middle, hDecoder.restated h]
  repeated h := by
    cases h with
    | here h => cases h
    | item h =>
      rw [list_array_middle, hDecoder.repeated h]
      simp

end

/-! ## The values of a key -/

/-- All values that are given for a name. -/
def valuesOf (name : String) (entries : List (String × Json Raw)) : List (Json Raw) :=
  (entries.filter fun entry => entry.1 = name).map Prod.snd

section

variable {name other : String} {entries : List (String × Json Raw)} {value : Json Raw}

@[simp] theorem valuesOf_append (front back : List (String × Json Raw)) :
    valuesOf name (front ++ back) = valuesOf name front ++ valuesOf name back := by
  simp [valuesOf]

@[simp] theorem valuesOf_cons_self :
    valuesOf name ((name, value) :: entries) = value :: valuesOf name entries := by
  simp [valuesOf]

theorem valuesOf_cons_of_ne (h : other ≠ name) :
    valuesOf name ((other, value) :: entries) = valuesOf name entries := by
  simp [valuesOf, h]

theorem find?_named (position : Nat) :
    (Fields.named entries).find? name position = (valuesOf name entries).head? := by
  show entries.lookup name = _
  induction entries with
  | nil => rfl
  | cons entry entries ih =>
    obtain ⟨key, field⟩ := entry
    by_cases hKey : key = name
    · subst hKey
      simp
    · have hBeq : (name == key) = false := by simpa using Ne.symm hKey
      rw [List.lookup_cons, hBeq, valuesOf_cons_of_ne hKey]
      exact ih

end

/-- An object holds a record if no field has two values. -/
theorem fields_object (names : List String) (members : List (Raw × Json Raw)) :
    fields names (.object members) = (keyed members).bind fun entries =>
      if ∀ name ∈ names, (valuesOf name entries).length ≤ 1 then some (.named entries)
      else none := by
  show (keyed members).bind _ = _
  congr 1
  funext entries
  simp [valuesOf]

theorem keyed_cons (key : Raw) (value : Json Raw) (members : List (Raw × Json Raw)) :
    keyed ((key, value) :: members) =
      (Json.stringText? key).bind fun name => (keyed members).map ((name, value) :: ·) := by
  rw [keyed, List.mapM_cons]
  show ((Json.stringText? key).map (·, value)).bind
    (fun entry => (keyed members).bind fun entries => some (entry :: entries)) = _
  cases Json.stringText? key <;> cases keyed members <;> rfl

theorem keyed_append (front back : List (Raw × Json Raw)) :
    keyed (front ++ back) =
      (keyed front).bind fun before => (keyed back).map (before ++ ·) := by
  rw [keyed, List.mapM_append]
  show (keyed front).bind (fun before => (keyed back).bind fun after => some (before ++ after)) = _
  cases keyed front <;> cases keyed back <;> rfl

theorem valuesOf_eq_nil_iff {name : String} {members : List (Raw × Json Raw)}
    {entries : List (String × Json Raw)} (hKeyed : keyed members = some entries) :
    valuesOf name entries = [] ↔ ∀ member ∈ members, Json.stringText? member.1 ≠ some name := by
  induction keyed_iff.mp hKeyed with
  | nil => simp [valuesOf]
  | @cons member entry members entries hEntry hRest ih =>
    obtain ⟨key, value⟩ := member
    obtain ⟨other, field⟩ := entry
    obtain ⟨hKey, -⟩ := hEntry
    dsimp only at hKey
    by_cases hName : other = name
    · subst hName
      simp [hKey]
    · simp [valuesOf_cons_of_ne hName, hKey, hName, ih (keyed_iff.mpr hRest)]

/-- A member in an object is an entry among the entries of the others. -/
theorem keyed_middle {front back : List (Raw × Json Raw)} {key : Raw} {name : String}
    (hKey : Json.stringText? key = some name) (value : Json Raw) :
    keyed (front ++ (key, value) :: back) =
      (keyed front).bind fun before => (keyed back).map (before ++ (name, value) :: ·) := by
  rw [keyed_append, keyed_cons, hKey]
  simp [Function.comp_def]

theorem keyed_perm {members members' : List (Raw × Json Raw)} {entries : List (String × Json Raw)}
    (hPerm : members.Perm members') (hKeyed : keyed members = some entries) :
    ∃ entries', keyed members' = some entries' ∧ entries.Perm entries' := by
  obtain ⟨entries', hKeyed', hPerm'⟩ :=
    List.perm_comp_forall₂ hPerm.symm (keyed_iff.mp hKeyed)
  exact ⟨entries', keyed_iff.mpr hKeyed', hPerm'.symm⟩

/-! ## The fields of a record -/

/-- Whether the fields were given by name. -/
def Fields.isNamed : Fields → Bool
  | .named _ => true
  | .positional _ => false

/-- Nothing that a decoder of the field's schema could tell apart. -/
inductive SameField (field : Field Schema) (position : Nat) (found found' : Fields) : Prop
  | held {value value' : Json Raw} (hFound : found.find? field.name position = some value)
    (hFound' : found'.find? field.name position = some value')
    (hSame : Relation.ReflGen (At Restates field.schema) value value')
  | lacking (hForm : found.isNamed = found'.isNamed)
    (hFound : found.find? field.name position = none)
    (hFound' : found'.find? field.name position = none)
  | given {value : Json Raw} (hNamed : found.isNamed = true)
    (hFound : found.find? field.name position = none)
    (hFound' : found'.find? field.name position = some value) (hAbsent : field.absent = some value)

/-- No field of two records can be told apart. -/
def SameFields (known : List (Field Schema)) (found found' : Fields) : Prop :=
  ∀ position {field}, known[position]? = some field → SameField field position found found'

/-- The field holds a value in which something is repeated. -/
def HoldsRepeated (field : Field Schema) (position : Nat) (found : Fields) : Prop :=
  ∃ value value', found.find? field.name position = some value' ∧
    At Repeats field.schema value value'

/-- What a change may do to the values that are given for a field. -/
inductive SameValues (field : Field Schema) : List (Json Raw) → List (Json Raw) → Prop
  | perm {values values' : List (Json Raw)} (hPerm : values.Perm values') :
    SameValues field values values'
  | given {value : Json Raw} (hAbsent : field.absent = some value) : SameValues field [] [value]
  | inside {front back : List (Json Raw)} {value value' : Json Raw}
    (h : At Restates field.schema value value') :
    SameValues field (front ++ value :: back) (front ++ value' :: back)

/-- No values that are given for a known field can be told apart. -/
def SameEntries (known : List (Field Schema)) (entries entries' : List (String × Json Raw)) :
    Prop :=
  ∀ field ∈ known, SameValues field (valuesOf field.name entries) (valuesOf field.name entries')

theorem SameValues.length_le_one_iff {field : Field Schema} {values values' : List (Json Raw)}
    (h : SameValues field values values') : values.length ≤ 1 ↔ values'.length ≤ 1 := by
  cases h with
  | perm hPerm => rw [hPerm.length_eq]
  | given => simp
  | inside => simp

theorem SameValues.sameField {field : Field Schema} {entries entries' : List (String × Json Raw)}
    (h : SameValues field (valuesOf field.name entries) (valuesOf field.name entries'))
    (hOnce : (valuesOf field.name entries).length ≤ 1) (position : Nat) :
    SameField field position (.named entries) (.named entries') := by
  generalize hValues : valuesOf field.name entries = values at h hOnce
  generalize hValues' : valuesOf field.name entries' = values' at h
  cases h with
  | perm hPerm =>
    match values, hOnce with
    | [], _ =>
      obtain rfl := List.nil_perm.mp hPerm
      exact .lacking rfl (by rw [find?_named, hValues]; rfl) (by rw [find?_named, hValues']; rfl)
    | [value], _ =>
      obtain rfl := List.perm_singleton.mp hPerm.symm
      exact .held (by rw [find?_named, hValues]; rfl) (by rw [find?_named, hValues']; rfl) .refl
  | given hAbsent =>
    exact .given rfl (by rw [find?_named, hValues]; rfl) (by rw [find?_named, hValues']; rfl)
      hAbsent
  | @inside front back value value' hAt =>
    obtain ⟨rfl, rfl⟩ : front = [] ∧ back = [] := by
      simp only [List.length_append, List.length_cons] at hOnce
      exact ⟨List.length_eq_zero_iff.mp (by omega), List.length_eq_zero_iff.mp (by omega)⟩
    exact .held (by rw [find?_named, hValues]; rfl) (by rw [find?_named, hValues']; rfl)
      (.single hAt)

section

variable {known : List (Field Schema)}

/-- Two objects hold the same fields if the values of each name are the same. -/
theorem rel_fields_object {members members' : List (Raw × Json Raw)}
    (h : Option.Rel (SameEntries known) (keyed members) (keyed members')) :
    Option.Rel (SameFields known) (fields (known.map Field.name) (.object members))
      (fields (known.map Field.name) (.object members')) := by
  rw [fields_object, fields_object]
  generalize keyed members = found, keyed members' = found' at h
  cases h with
  | none => exact .none
  | @some entries entries' hValues =>
    have hIff : (∀ name ∈ known.map Field.name, (valuesOf name entries).length ≤ 1) ↔
        ∀ name ∈ known.map Field.name, (valuesOf name entries').length ≤ 1 := by
      simp only [List.forall_mem_map]
      exact forall₂_congr fun field hField => (hValues field hField).length_le_one_iff
    rw [Option.bind_some, Option.bind_some]
    by_cases hOnce : ∀ name ∈ known.map Field.name, (valuesOf name entries).length ≤ 1
    · rw [if_pos hOnce, if_pos (hIff.mp hOnce)]
      refine .some fun position {field} hPosition => ?_
      have hField := List.mem_of_getElem? hPosition
      exact (hValues field hField).sameField (hOnce _ (List.mem_map_of_mem hField)) position
    · rw [if_neg hOnce, if_neg (hIff.not.mp hOnce)]
      exact .none

theorem name_ne_of_ne {field other : Field Schema} (hDistinct : (known.map Field.name).Nodup)
    (hField : field ∈ known) (hOther : other ∈ known) (hNe : other ≠ field) :
    field.name ≠ other.name :=
  fun hName => hNe (List.inj_on_of_nodup_map hDistinct hOther hField hName.symm)

/-- A member is put in. -/
theorem rel_keyed_insert {front back : List (Raw × Json Raw)} {key : Raw} {name : String}
    {value : Json Raw} (hKey : Json.stringText? key = some name)
    (h : ∀ before after, keyed (front ++ back) = some (before ++ after) → ∀ field ∈ known,
      SameValues field (valuesOf field.name before ++ valuesOf field.name after)
        (valuesOf field.name before ++ valuesOf field.name ((name, value) :: after))) :
    Option.Rel (SameEntries known) (keyed (front ++ back))
      (keyed (front ++ (key, value) :: back)) := by
  rw [keyed_middle hKey]
  rw [keyed_append] at h ⊢
  cases hFront : keyed front with
  | none => exact .none
  | some before =>
    cases hBack : keyed back with
    | none => exact .none
    | some after =>
      refine .some fun field hField => ?_
      rw [valuesOf_append, valuesOf_append]
      exact h before after (by rw [hFront, hBack]; rfl) field hField

theorem rel_keyed_perm {members members' : List (Raw × Json Raw)}
    (hPerm : members.Perm members') :
    Option.Rel (SameEntries known) (keyed members) (keyed members') := by
  cases hKeyed : keyed members with
  | none =>
    cases hKeyed' : keyed members' with
    | none => exact .none
    | some entries' =>
      obtain ⟨entries, hSome, -⟩ := keyed_perm hPerm.symm hKeyed'
      rw [hSome] at hKeyed
      cases hKeyed
  | some entries =>
    obtain ⟨entries', hSome, hEntries⟩ := keyed_perm hPerm hKeyed
    rw [hSome]
    exact .some fun field _ => .perm ((hEntries.filter _).map _)

theorem keyed_zip {members : List (Raw × Json Raw)}
    (hKeys : List.Forall₂ (fun member field => Json.stringText? member.1 = some field.name)
      members known) : Keyed members ((known.map Field.name).zip (members.map Prod.snd)) := by
  induction hKeys with
  | nil => exact .nil
  | cons hKey _ ih => exact .cons ⟨hKey, rfl⟩ ih

/-- The fields of an object that gives all of them in their order are those of the array. -/
theorem rel_fields_listed {members : List (Raw × Json Raw)}
    (hDistinct : (known.map Field.name).Nodup)
    (hKeys : List.Forall₂ (fun member field => Json.stringText? member.1 = some field.name)
      members known) :
    Option.Rel (SameFields known) (fields (known.map Field.name) (.object members))
      (fields (known.map Field.name) (.array (members.map Prod.snd))) := by
  have hLength : (members.map Prod.snd).length = (known.map Field.name).length := by
    rw [List.length_map, List.length_map, hKeys.length_eq]
  have hNames : ((known.map Field.name).zip (members.map Prod.snd)).map Prod.fst =
      known.map Field.name := List.map_fst_zip (by omega)
  have hObject : IsRecord (known.map Field.name) (.object members)
      ⟨true, (known.map Field.name).zip (members.map Prod.snd)⟩ :=
    .object (keyed_zip hKeys) fun name _ => by
      rw [hNames]
      exact List.nodup_iff_count_le_one.mp hDistinct name
  have hArray : IsRecord (known.map Field.name) (.array (members.map Prod.snd))
      ⟨false, (known.map Field.name).zip (members.map Prod.snd)⟩ := .array (by omega)
  obtain ⟨found, hFound, hRecord⟩ := exists_fields_iff.mpr hObject
  obtain ⟨found', hFound', hRecord'⟩ := exists_fields_iff.mpr hArray
  rw [hFound, hFound']
  refine .some fun position {field} hPosition => ?_
  have hName : (known.map Field.name)[position]? = some field.name := by simp [hPosition]
  obtain ⟨value, hValue⟩ : ∃ value, (members.map Prod.snd)[position]? = some value := by
    have hBound := (List.getElem?_eq_some_iff.mp hName).1
    exact ⟨_, List.getElem?_eq_getElem (by omega)⟩
  have hEntry : (field.name, value) ∈ (known.map Field.name).zip (members.map Prod.snd) :=
    List.mem_of_getElem? (List.getElem?_zip_eq_some.mpr ⟨hName, hValue⟩)
  have hHeld : found.find? field.name position = some value :=
    (find?_eq_some_iff hDistinct hFound hName).mpr (by rw [hRecord]; exact hEntry)
  have hHeld' : found'.find? field.name position = some value :=
    (find?_eq_some_iff hDistinct hFound' hName).mpr (by rw [hRecord']; exact hEntry)
  exact .held hHeld hHeld' .refl

theorem rel_fields_of_restates {value value' : Json Raw} (hDistinct : (known.map Field.name).Nodup)
    (h : Restates (.record known) value value') :
    Option.Rel (SameFields known) (fields (known.map Field.name) value)
      (fields (known.map Field.name) value') := by
  cases h with
  | reordered hPerm => exact rel_fields_object (rel_keyed_perm hPerm)
  | @renamed _ front back key key' value hText =>
    have hKeyed : keyed (front ++ (key, value) :: back) = keyed (front ++ (key', value) :: back) :=
      by rw [keyed_append, keyed_append, keyed_cons, keyed_cons, hText]
    refine rel_fields_object ?_
    rw [hKeyed]
    exact rel_keyed_perm (.refl _)
  | extended hKey hUnknown =>
    refine rel_fields_object (rel_keyed_insert hKey fun before after _ field hField => .perm ?_)
    rw [valuesOf_cons_of_ne (hUnknown field hField).symm]
  | @given _ front back key field value hField hKey hAbsent hOut =>
    refine rel_fields_object (rel_keyed_insert hKey fun before after hKeyed other hOther => ?_)
    by_cases hSame : other = field
    · subst hSame
      have hNone := (valuesOf_eq_nil_iff hKeyed).mpr hOut
      rw [valuesOf_append, List.append_eq_nil_iff] at hNone
      rw [valuesOf_cons_self, hNone.1, hNone.2]
      exact .given hAbsent
    · rw [valuesOf_cons_of_ne (name_ne_of_ne hDistinct hField hOther hSame)]
      exact .perm (.refl _)
  | listed hKeys => exact rel_fields_listed hDistinct hKeys

/-- A change in a value of a field. -/
theorem rel_keyed_replace {field : Field Schema} {front back : List (Raw × Json Raw)} {key : Raw}
    {value value' : Json Raw} (hDistinct : (known.map Field.name).Nodup) (hField : field ∈ known)
    (hKey : Json.stringText? key = some field.name) (h : At Restates field.schema value value') :
    Option.Rel (SameEntries known) (keyed (front ++ (key, value) :: back))
      (keyed (front ++ (key, value') :: back)) := by
  rw [keyed_middle hKey, keyed_middle hKey]
  cases keyed front with
  | none => exact .none
  | some before =>
    cases keyed back with
    | none => exact .none
    | some after =>
      refine .some fun other hOther => ?_
      rw [valuesOf_append, valuesOf_append]
      by_cases hSame : other = field
      · subst hSame
        rw [valuesOf_cons_self, valuesOf_cons_self]
        exact .inside h
      · have hName := name_ne_of_ne hDistinct hField hOther hSame
        rw [valuesOf_cons_of_ne hName, valuesOf_cons_of_ne hName]
        exact .perm (.refl _)

theorem rel_fields_replace {field : Field Schema} {front back : List (Json Raw)}
    {value value' : Json Raw} (hField : known[front.length]? = some field)
    (h : At Restates field.schema value value') :
    Option.Rel (SameFields known)
      (fields (known.map Field.name) (.array (front ++ value :: back)))
      (fields (known.map Field.name) (.array (front ++ value' :: back))) := by
  have hLength : (front ++ value :: back).length = (front ++ value' :: back).length := by simp
  rw [fields, fields, hLength]
  split
  · refine .some fun position {other} hPosition => ?_
    by_cases hHere : position = front.length
    · subst hHere
      obtain rfl := Option.some.inj (hField.symm.trans hPosition)
      exact .held (by simp [Fields.find?]) (by simp [Fields.find?]) (.single h)
    · have hSame : (front ++ value :: back)[position]? = (front ++ value' :: back)[position]? := by
        grind
      cases hItem : (front ++ value :: back)[position]? with
      | none => exact .lacking rfl hItem (hSame.symm.trans hItem)
      | some item => exact .held hItem (hSame.symm.trans hItem) .refl
  · exact .none

theorem rel_fields {value value' : Json Raw} (hDistinct : (known.map Field.name).Nodup)
    (h : At Restates (.record known) value value') :
    Option.Rel (SameFields known) (fields (known.map Field.name) value)
      (fields (known.map Field.name) value') := by
  cases h with
  | here h => exact rel_fields_of_restates hDistinct h
  | member hField hKey h => exact rel_fields_object (rel_keyed_replace hDistinct hField hKey h)
  | element hField h => exact rel_fields_replace hField h

/-- A field of a record that was found has no other value than the one of this member. -/
theorem alone_of_fields {names : List String} {front back : List (Raw × Json Raw)} {key : Raw}
    {name : String} {value : Json Raw} {found : Fields} (hName : name ∈ names)
    (hKey : Json.stringText? key = some name)
    (hFound : fields names (.object (front ++ (key, value) :: back)) = some found) :
    (∀ member ∈ front ++ back, Json.stringText? member.1 ≠ some name) ∧
      ∀ position, found.find? name position = some value := by
  rw [fields_object, keyed_middle hKey] at hFound
  obtain ⟨entries, hEntries, hFound⟩ := Option.bind_eq_some_iff.mp hFound
  obtain ⟨before, hFront, hEntries⟩ := Option.bind_eq_some_iff.mp hEntries
  obtain ⟨after, hBack, rfl⟩ := Option.map_eq_some_iff.mp hEntries
  split at hFound
  · rename_i hOnce
    obtain rfl := Option.some.inj hFound
    have hLength := hOnce name hName
    rw [valuesOf_append, valuesOf_cons_self, List.length_append, List.length_cons] at hLength
    have hBefore : valuesOf name before = [] := List.length_eq_zero_iff.mp (by omega)
    have hAfter : valuesOf name after = [] := List.length_eq_zero_iff.mp (by omega)
    constructor
    · have hOthers : keyed (front ++ back) = some (before ++ after) := by
        rw [keyed_append, hFront, hBack]
        rfl
      rw [← valuesOf_eq_nil_iff hOthers, valuesOf_append, hBefore, hAfter]
      rfl
    · intro position
      rw [find?_named, valuesOf_append, valuesOf_cons_self, hBefore]
      rfl
  · cases hFound

theorem exists_holdsRepeated {value value' : Json Raw} {found : Fields}
    (h : At Repeats (.record known) value value')
    (hFound : fields (known.map Field.name) value' = some found) :
    ∃ position field, known[position]? = some field ∧ HoldsRepeated field position found := by
  cases h with
  | here h => cases h with
    | again hField hKey hGiven =>
      obtain ⟨member, hMember, hText⟩ := hGiven
      have hAlone := (alone_of_fields (List.mem_map_of_mem hField) hKey hFound).1
      exact absurd hText (hAlone member hMember)
  | member hField hKey h =>
    obtain ⟨position, hPosition⟩ := List.mem_iff_getElem?.mp hField
    have hValue := (alone_of_fields (List.mem_map_of_mem hField) hKey hFound).2 position
    exact ⟨position, _, hPosition, _, _, hValue, h⟩
  | element hField h =>
    rw [fields] at hFound
    split at hFound
    · obtain rfl := Option.some.inj hFound
      exact ⟨_, _, hField, _, _, by simp [Fields.find?], h⟩
    · cases hFound

end

/-! ## Records -/

section

variable {α : Type} {field : Field Schema} {position : Nat} {found found' : Fields}
  {decoder : Decoder α}

theorem GoesBy.eq_of_reflGen {schema : Schema} {value value' : Json Raw}
    (hDecoder : GoesBy schema decoder) (h : Relation.ReflGen (At Restates schema) value value') :
    decoder value = decoder value' := by
  cases h with
  | refl => rfl
  | single h => exact hDecoder.restated h

theorem SameField.required (h : SameField field position found found')
    (hNever : field.absent = none) (hDecoder : GoesBy field.schema decoder) :
    found.required field.name position decoder = found'.required field.name position decoder := by
  cases h with
  | held hFound hFound' hSame =>
    rw [Fields.required, Fields.required, hFound, hFound']
    exact hDecoder.eq_of_reflGen hSame
  | lacking _ hFound hFound' => rw [Fields.required, Fields.required, hFound, hFound']
  | given _ _ _ hAbsent => cases hNever.symm.trans hAbsent

theorem SameField.withDefault {default : α} {neutral : Json Raw}
    (h : SameField field position found found') (hNeutral : field.absent = some neutral)
    (hDefault : decoder neutral = some default) (hDecoder : GoesBy field.schema decoder) :
    found.withDefault field.name position default decoder =
      found'.withDefault field.name position default decoder := by
  cases h with
  | held hFound hFound' hSame =>
    rw [Fields.withDefault, Fields.withDefault, hFound, hFound']
    exact hDecoder.eq_of_reflGen hSame
  | lacking _ hFound hFound' => rw [Fields.withDefault, Fields.withDefault, hFound, hFound']
  | given _ hFound hFound' hAbsent =>
    obtain rfl := Option.some.inj (hNeutral.symm.trans hAbsent)
    rw [Fields.withDefault, Fields.withDefault, hFound, hFound']
    exact hDefault.symm

theorem SameField.optional (h : SameField field position found found')
    (hNull : field.absent = some .null) (hDecoder : GoesBy field.schema decoder) :
    found.optional field.name position decoder = found'.optional field.name position decoder := by
  cases h with
  | held hFound hFound' hSame =>
    have hValue := hDecoder.nullable.eq_of_reflGen hSame
    cases found <;> cases found' <;> simp [Fields.optional, hFound, hFound', hValue]
  | lacking hForm hFound hFound' =>
    cases found <;> cases found' <;> simp_all [Fields.optional, Fields.isNamed]
  | given hNamed hFound hFound' hAbsent =>
    obtain rfl := Option.some.inj (hNull.symm.trans hAbsent)
    cases found <;> cases found' <;>
      simp_all [Fields.optional, Fields.isNamed, Shape.nullable]

theorem HoldsRepeated.required (h : HoldsRepeated field position found)
    (hDecoder : GoesBy field.schema decoder) :
    found.required field.name position decoder = none := by
  obtain ⟨_, _, hFound, hRepeats⟩ := h
  rw [Fields.required, hFound]
  exact hDecoder.repeated hRepeats

theorem HoldsRepeated.withDefault (h : HoldsRepeated field position found) (default : α)
    (hDecoder : GoesBy field.schema decoder) :
    found.withDefault field.name position default decoder = none := by
  obtain ⟨_, _, hFound, hRepeats⟩ := h
  rw [Fields.withDefault, hFound]
  exact hDecoder.repeated hRepeats

theorem HoldsRepeated.optional (h : HoldsRepeated field position found)
    (hDecoder : GoesBy field.schema decoder) :
    found.optional field.name position decoder = none := by
  obtain ⟨_, _, hFound, hRepeats⟩ := h
  have hNone := hDecoder.nullable.repeated hRepeats
  cases found <;> simp [Fields.optional, hFound, hNone]

/-- A reader of records goes by the schema if it tells the same fields nothing apart, and refuses
fields that hold something repeated. -/
theorem goesBy_record {known : List (Field Schema)} {read : Fields → Option α}
    (hDistinct : (known.map Field.name).Nodup)
    (hSame : ∀ {found found'}, SameFields known found found' → read found = read found')
    (hRepeated : ∀ {position field found}, known[position]? = some field →
      HoldsRepeated field position found → read found = none) :
    GoesBy (.record known) fun value => (fields (known.map Field.name) value).bind read where
  restated {value value'} h := by
    have hFields := rel_fields hDistinct h
    generalize fields (known.map Field.name) value = found,
      fields (known.map Field.name) value' = found' at hFields
    cases hFields with
    | none => rfl
    | some hFound => exact hSame hFound
  repeated {value value'} h := by
    apply Option.eq_none_iff_forall_ne_some.mpr
    intro a hRead
    obtain ⟨found, hFound, hRead⟩ := Option.bind_eq_some_iff.mp hRead
    obtain ⟨position, field, hField, hHolds⟩ := exists_holdsRepeated h hFound
    rw [hRepeated hField hHolds] at hRead
    cases hRead

end

end TypeRepair.Shape
