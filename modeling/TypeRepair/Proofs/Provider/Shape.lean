import Mathlib.Algebra.Group.Nat.Defs
import Mathlib.Data.List.Forall2
import TypeRepair.Provider.Shape
import TypeRepair.Text.Digit

/-!
# Shapes as relations

What it means that a value has a shape and gives a result, said without the decoders, and that the
decoders decide it. A record is a list of names with values, whether it was given as an object or as
an array; all that is asked of it is asked of that list.

* `Decides`: the decoder succeeds exactly on the values of the shape, with their results.
* `decides_string`, `decides_counter`, `decides_nullable`, `decides_list`: plain values and lists.
* `find?_eq_some_iff`, `decides_record`: the fields of a record, and records.
-/

namespace TypeRepair.Shape

open Json (Raw)

/-- A relation between the values of a shape and what they give. -/
abbrev Form (α : Type) := Json Raw → α → Prop

/-- The decoder gives a result exactly for the values of the shape. -/
def Decides {α : Type} (decoder : Decoder α) (form : Form α) : Prop :=
  ∀ value a, decoder value = some a ↔ form value a

/-! ## Plain values -/

/-- A string whose bytes and escapes are those of a text. -/
def IsString : Form String := fun value text =>
  ∃ raw, value = .string raw ∧ Json.stringText? raw = some text

/-- Digits that denote a number below 2⁶⁴. -/
def IsCounter : Form Nat := fun value n =>
  ∃ written, value = .number written ∧ written.toList ≠ [] ∧ (∀ c ∈ written.toList, c.isDigit) ∧
    Text.digitsValue written.toList = n ∧ n < 2 ^ 64

/-- Null, or a value of the shape. -/
def Nullable {α : Type} (form : Form α) : Form (Option α) := fun value result =>
  (value = .null ∧ result = none) ∨ (value ≠ .null ∧ ∃ a, form value a ∧ result = some a)

/-- An array of values of the shape. -/
def IsList {α : Type} (form : Form α) : Form (List α) := fun value results =>
  ∃ items, value = .array items ∧ List.Forall₂ form items results

theorem decides_string : Decides string IsString := by
  intro value text
  constructor
  · intro h
    cases value with
    | string raw => exact ⟨raw, rfl, h⟩
    | _ => cases h
  · rintro ⟨raw, rfl, h⟩
    exact h

theorem nullable_of_ne_null {α : Type} {decoder : Decoder α} {value : Json Raw}
    (h : value ≠ .null) : nullable decoder value = (decoder value).map some := by
  cases value with
  | null => exact absurd rfl h
  | _ => rfl

theorem decides_nullable {α : Type} {decoder : Decoder α} {form : Form α}
    (h : Decides decoder form) : Decides (nullable decoder) (Nullable form) := by
  intro value result
  by_cases hNull : value = .null
  · subst hNull
    simp [nullable, Nullable, eq_comm]
  · rw [nullable_of_ne_null hNull, Option.map_eq_some_iff]
    constructor
    · rintro ⟨a, hDecoded, rfl⟩
      exact .inr ⟨hNull, a, (h value a).mp hDecoded, rfl⟩
    · rintro (⟨hEq, -⟩ | ⟨-, a, hShape, rfl⟩)
      · exact absurd hEq hNull
      · exact ⟨a, (h value a).mpr hShape, rfl⟩

theorem mapM_eq_some_iff {α β : Type} {f : α → Option β} {xs : List α} {ys : List β} :
    xs.mapM f = some ys ↔ List.Forall₂ (fun x y => f x = some y) xs ys := by
  induction xs generalizing ys with
  | nil => simp [eq_comm]
  | cons x xs ih =>
    rw [List.mapM_cons]
    constructor
    · intro h
      obtain ⟨y, hFirst, h⟩ := Option.bind_eq_some_iff.mp h
      obtain ⟨rest, hRest, h⟩ := Option.bind_eq_some_iff.mp h
      obtain rfl := Option.some.inj h
      exact .cons hFirst (ih.mp hRest)
    · intro h
      cases h with
      | cons hFirst hRest => simp [hFirst, ih.mpr hRest]

theorem decides_list {α : Type} {decoder : Decoder α} {form : Form α}
    (h : Decides decoder form) : Decides (list decoder) (IsList form) := by
  intro value results
  constructor
  · intro hList
    cases value with
    | array items =>
      refine ⟨items, rfl, (mapM_eq_some_iff.mp hList).imp fun item a hItem => ?_⟩
      exact (h item a).mp hItem
    | _ => cases hList
  · rintro ⟨items, rfl, hItems⟩
    exact mapM_eq_some_iff.mpr (hItems.imp fun item a hItem => (h item a).mpr hItem)

theorem decides_counter : Decides counter IsCounter := by
  intro value n
  constructor
  · intro h
    cases value with
    | number written =>
      obtain ⟨hRead, hBound⟩ := Option.filter_eq_some_iff.mp h
      unfold Text.readNat? at hRead
      split at hRead
      · rename_i hDigits
        exact ⟨written, rfl, hDigits.1, List.all_eq_true.mp hDigits.2, Option.some.inj hRead,
          of_decide_eq_true hBound⟩
      · cases hRead
    | _ => cases h
  · rintro ⟨written, rfl, hSome, hDigits, hValue, hBound⟩
    have hRead : Text.readNat? written.toList = some n := by
      rw [Text.readNat?, if_pos ⟨hSome, List.all_eq_true.mpr hDigits⟩, hValue]
    exact Option.filter_eq_some_iff.mpr ⟨hRead, decide_eq_true hBound⟩

/-! ## Records -/

/-- The members of an object with their keys as texts. -/
def Keyed (members : List (Raw × Json Raw)) (entries : List (String × Json Raw)) : Prop :=
  List.Forall₂ (fun member entry => Json.stringText? member.1 = some entry.1 ∧ member.2 = entry.2)
    members entries

/-- The names and values of a record, and whether the names were given with them. -/
structure Record where
  named : Bool
  entries : List (String × Json Raw)

/-- A value that holds a record with these names: an object in which none of them is repeated, or an
array that is not too long, whose items go by the order of the names. -/
inductive IsRecord (names : List String) : Form Record
  | object {members : List (Raw × Json Raw)} {entries : List (String × Json Raw)}
    (hKeys : Keyed members entries)
    (hOnce : ∀ name ∈ names, (entries.map Prod.fst).count name ≤ 1) :
    IsRecord names (.object members) ⟨true, entries⟩
  | array {items : List (Json Raw)} (hLength : items.length ≤ names.length) :
    IsRecord names (.array items) ⟨false, names.zip items⟩

namespace Record

variable {α : Type} (record : Record) (name : String)

/-- The field has a value of the shape. -/
def Requires (form : Form α) (a : α) : Prop :=
  ∃ field, (name, field) ∈ record.entries ∧ form field a

/-- The field is not there. -/
def Lacks : Prop := ∀ field, (name, field) ∉ record.entries

/-- The field has a value of the shape, or it is not there and the default counts. -/
def Defaults (default : α) (form : Form α) (a : α) : Prop :=
  record.Requires name form a ∨ (record.Lacks name ∧ a = default)

/-- The field has a value of the shape or null, or an object leaves it out. -/
def Allows (form : Form α) (result : Option α) : Prop :=
  record.Requires name (Nullable form) result ∨
    (record.named = true ∧ record.Lacks name ∧ result = none)

end Record

/-- The record that was found. -/
def Fields.record (names : List String) : Fields → Record
  | .named members => ⟨true, members⟩
  | .positional items => ⟨false, names.zip items⟩

theorem keyed_iff {members : List (Raw × Json Raw)} {entries : List (String × Json Raw)} :
    keyed members = some entries ↔ Keyed members entries := by
  rw [keyed, mapM_eq_some_iff, Keyed]
  have hEntry : ∀ (member : Raw × Json Raw) (entry : String × Json Raw),
      (Json.stringText? member.1).map (·, member.2) = some entry ↔
        Json.stringText? member.1 = some entry.1 ∧ member.2 = entry.2 := by
    rintro ⟨key, value⟩ ⟨name, field⟩
    simp [Option.map_eq_some_iff]
  simp only [hEntry]

theorem count_keys (entries : List (String × Json Raw)) (name : String) :
    (entries.map Prod.fst).count name = (entries.filter fun entry => entry.1 = name).length := by
  rw [List.count, List.countP_map, List.countP_eq_length_filter]
  rfl

theorem exists_fields_iff {names : List String} {value : Json Raw} {record : Record} :
    (∃ found, fields names value = some found ∧ found.record names = record) ↔
      IsRecord names value record := by
  constructor
  · rintro ⟨found, h, rfl⟩
    cases value with
    | object members =>
      obtain ⟨entries, hKeys, h⟩ := Option.bind_eq_some_iff.mp h
      split at h
      · rename_i hOnce
        obtain rfl := Option.some.inj h
        refine .object (keyed_iff.mp hKeys) fun name hName => ?_
        rw [count_keys]
        simpa using List.all_eq_true.mp hOnce name hName
      · cases h
    | array items =>
      dsimp only [fields] at h
      split at h
      · rename_i hLength
        obtain rfl := Option.some.inj h
        exact .array hLength
      · cases h
    | _ => cases h
  · intro h
    cases h with
    | @object members entries hKeys hOnce =>
      have hAll : (names.all fun name =>
          (entries.filter fun entry => entry.1 = name).length ≤ 1) = true := by
        rw [List.all_eq_true]
        intro name hName
        rw [← count_keys]
        exact decide_eq_true (hOnce name hName)
      refine ⟨.named entries, ?_, rfl⟩
      show (keyed members).bind _ = _
      rw [keyed_iff.mpr hKeys]
      exact if_pos hAll
    | @array items hLength => exact ⟨.positional items, if_pos hLength, rfl⟩

theorem lookup_eq_some_iff {entries : List (String × Json Raw)} {name : String} {value : Json Raw}
    (hOnce : (entries.map Prod.fst).count name ≤ 1) :
    entries.lookup name = some value ↔ (name, value) ∈ entries := by
  induction entries with
  | nil => simp
  | cons entry entries ih =>
    obtain ⟨key, field⟩ := entry
    by_cases hKey : key = name
    · subst hKey
      have hNone : key ∉ entries.map Prod.fst := by
        rw [← List.count_eq_zero]
        simp only [List.map_cons, List.count_cons_self] at hOnce
        omega
      have hOther : (key, value) ∉ entries := fun hMem =>
        hNone (List.mem_map_of_mem (f := Prod.fst) hMem)
      simp [hOther, eq_comm]
    · have hLess : (entries.map Prod.fst).count name ≤ 1 := by
        simpa [List.count_cons, hKey] using hOnce
      have hBeq : (name == key) = false := by simpa using Ne.symm hKey
      rw [List.lookup_cons, hBeq, ih hLess]
      simp [Ne.symm hKey]

section

variable {names : List String} {value : Json Raw} {found : Fields} {name : String} {position : Nat}
  {α : Type} {decoder : Decoder α} {form : Form α}

theorem find?_eq_some_iff (hDistinct : names.Nodup) (hFound : fields names value = some found)
    (hName : names[position]? = some name) {field : Json Raw} :
    found.find? name position = some field ↔ (name, field) ∈ (found.record names).entries := by
  have hRecord := exists_fields_iff.mp ⟨found, hFound, rfl⟩
  cases found with
  | named entries =>
    cases hRecord with
    | object hKeys hOnce => exact lookup_eq_some_iff (hOnce name (List.mem_of_getElem? hName))
  | positional items =>
    show items[position]? = some field ↔ (name, field) ∈ names.zip items
    rw [List.mem_iff_getElem?]
    simp only [List.getElem?_zip_eq_some]
    constructor
    · intro hItem
      exact ⟨position, hName, hItem⟩
    · rintro ⟨i, hSame, hItem⟩
      have hShort : i < names.length := List.getElem?_eq_some_iff.mp hSame |>.1
      have hPosition : i = position := (List.getElem?_inj hShort hDistinct).mp
        (hSame.trans hName.symm)
      rwa [← hPosition]

theorem find?_eq_none_iff (hDistinct : names.Nodup) (hFound : fields names value = some found)
    (hName : names[position]? = some name) :
    found.find? name position = none ↔ (found.record names).Lacks name := by
  rw [Option.eq_none_iff_forall_ne_some]
  simp only [ne_eq, find?_eq_some_iff hDistinct hFound hName]
  rfl

theorem required_eq_some_iff (hDistinct : names.Nodup) (hFound : fields names value = some found)
    (hName : names[position]? = some name) (hDecides : Decides decoder form) {a : α} :
    found.required name position decoder = some a ↔
      (found.record names).Requires name form a := by
  rw [Fields.required, Option.bind_eq_some_iff]
  simp only [find?_eq_some_iff hDistinct hFound hName, hDecides _ _]
  rfl

theorem withDefault_eq_some_iff (hDistinct : names.Nodup)
    (hFound : fields names value = some found) (hName : names[position]? = some name)
    (hDecides : Decides decoder form) {default a : α} :
    found.withDefault name position default decoder = some a ↔
      (found.record names).Defaults name default form a := by
  rw [Record.Defaults, ← required_eq_some_iff hDistinct hFound hName hDecides,
    ← find?_eq_none_iff hDistinct hFound hName, Fields.withDefault, Fields.required]
  cases found.find? name position with
  | none => simp [eq_comm]
  | some field => simp

theorem optional_eq_some_iff (hDistinct : names.Nodup) (hFound : fields names value = some found)
    (hName : names[position]? = some name) (hDecides : Decides decoder form)
    {result : Option α} :
    found.optional name position decoder = some result ↔
      (found.record names).Allows name form result := by
  rw [Record.Allows, ← required_eq_some_iff hDistinct hFound hName (decides_nullable hDecides),
    ← find?_eq_none_iff hDistinct hFound hName, Fields.required]
  unfold Fields.optional
  cases hField : found.find? name position with
  | none => cases found <;> simp [Fields.record, eq_comm]
  | some field => cases found <;> simp

end

/-- A record with these names that gives a result as `form` says. -/
def RecordOf {α : Type} (names : List String) (form : Record → α → Prop) : Form α :=
  fun value a => ∃ record, IsRecord names value record ∧ form record a

theorem decides_record {α : Type} {names : List String} {read : Fields → Option α}
    {form : Record → α → Prop}
    (h : ∀ {value found}, fields names value = some found → ∀ a,
      read found = some a ↔ form (found.record names) a) :
    Decides (fun value => (fields names value).bind read) (RecordOf names form) := by
  intro value a
  constructor
  · intro hRead
    obtain ⟨found, hFound, hRead⟩ := Option.bind_eq_some_iff.mp hRead
    exact ⟨_, exists_fields_iff.mp ⟨found, hFound, rfl⟩, (h hFound a).mp hRead⟩
  · rintro ⟨record, hRecord, hForm⟩
    obtain ⟨found, hFound, rfl⟩ := exists_fields_iff.mpr hRecord
    exact Option.bind_eq_some_iff.mpr ⟨found, hFound, (h hFound a).mpr hForm⟩

end TypeRepair.Shape
