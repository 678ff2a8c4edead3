/-!
# JSON values

Values over a type `σ` of strings: `String` for values that are written, the bytes between the
quotes for values as they were read. Values can be told apart if their strings can.
-/

namespace TypeRepair

/-- A JSON value whose strings, keys included, have type `σ`. Numbers keep their written form, and
objects the order and the repetitions of their keys. -/
inductive Json (σ : Type) : Type
  | null
  | bool (value : Bool)
  | number (written : String)
  | string (text : σ)
  | array (items : List (Json σ))
  | object (members : List (σ × Json σ))

namespace Json

variable {σ : Type}

/-- A whole number. -/
def ofNat (n : Nat) : Json σ :=
  .number (toString n)

section

variable [DecidableEq σ]

mutual

/-- Whether two values are the same, part by part. -/
def same : Json σ → Json σ → Bool
  | null, null => true
  | bool a, bool b => a == b
  | number a, number b => a == b
  | string a, string b => a == b
  | array items, array others => sameItems items others
  | object members, object others => sameMembers members others
  | _, _ => false

def sameItems : List (Json σ) → List (Json σ) → Bool
  | [], [] => true
  | a :: items, b :: others => same a b && sameItems items others
  | _, _ => false

def sameMembers : List (σ × Json σ) → List (σ × Json σ) → Bool
  | [], [] => true
  | (key, a) :: members, (other, b) :: others =>
    key == other && same a b && sameMembers members others
  | _, _ => false

end

mutual

theorem same_iff : ∀ a b : Json σ, same a b = true ↔ a = b
  | null, b | bool _, b | number _, b | string _, b => by cases b <;> simp [same]
  | array items, b => by cases b <;> simp [same, sameItems_iff items]
  | object members, b => by cases b <;> simp [same, sameMembers_iff members]

theorem sameItems_iff : ∀ items others : List (Json σ),
    sameItems items others = true ↔ items = others
  | [], others => by cases others <;> simp [sameItems]
  | a :: items, others => by
    cases others <;> simp [sameItems, same_iff a, sameItems_iff items]

theorem sameMembers_iff : ∀ members others : List (σ × Json σ),
    sameMembers members others = true ↔ members = others
  | [], others => by cases others <;> simp [sameMembers]
  | (key, a) :: members, others => by
    cases others <;> simp [sameMembers, same_iff a, sameMembers_iff members, Prod.ext_iff]

end

instance : DecidableEq (Json σ) :=
  fun a b => decidable_of_iff _ (same_iff a b)

end

end Json

end TypeRepair
