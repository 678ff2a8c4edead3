import TypeRepair.Json.Reader
import TypeRepair.Text.Digit

/-!
# Shapes of replies

Readers that take a JSON value apart by an expected shape. A record is given as an object, whose
unknown keys are ignored and whose known keys may occur once, or as the array of its fields in
order. A field is required, or has a default and may be left out, or is optional: then an object may
leave it out and it may be null, while the array form has to hold it.
-/

namespace TypeRepair.Shape

open Json (Raw)

/-- A reader of values of a shape. -/
abbrev Decoder (α : Type) := Json Raw → Option α

/-- A string that is text. -/
def string : Decoder String
  | .string raw => Json.stringText? raw
  | _ => none

/-- A whole number from 0 to 2⁶⁴ - 1, written without fraction or exponent. -/
def counter : Decoder Nat
  | .number written => (Text.readNat? written.toList).filter (· < Nat.pow 2 64)
  | _ => none

/-- A value that may be null. -/
def nullable {α : Type} (decoder : Decoder α) : Decoder (Option α)
  | .null => some none
  | value => (decoder value).map some

/-- An array of values of one shape. -/
def list {α : Type} (decoder : Decoder α) : Decoder (List α)
  | .array items => items.mapM decoder
  | _ => none

/-- Where the fields of a record are found. -/
inductive Fields
  | named (members : List (String × Json Raw))
  | positional (items : List (Json Raw))

/-- The members of an object whose keys are all text. -/
def keyed (members : List (Raw × Json Raw)) : Option (List (String × Json Raw)) :=
  members.mapM fun (key, value) => (Json.stringText? key).map (·, value)

/-- The fields of a record with these names: a name may occur once, and an array may not be longer
than the list of names. -/
def fields (names : List String) : Decoder Fields
  | .object members => do
    let members ← keyed members
    if names.all fun name => (members.filter fun member => member.1 = name).length ≤ 1 then
      some (.named members)
    else none
  | .array items => if items.length ≤ names.length then some (.positional items) else none
  | _ => none

/-- The value of the field with a name and a position, if it is there. -/
def Fields.find? (name : String) (position : Nat) : Fields → Option (Json Raw)
  | .named members => members.lookup name
  | .positional items => items[position]?

/-- A field that has to be there. -/
def Fields.required {α : Type} (fields : Fields) (name : String) (position : Nat)
    (decoder : Decoder α) : Option α :=
  (fields.find? name position).bind decoder

/-- A field with a default. -/
def Fields.withDefault {α : Type} (fields : Fields) (name : String) (position : Nat) (default : α)
    (decoder : Decoder α) : Option α :=
  match fields.find? name position with
  | some value => decoder value
  | none => some default

/-- An optional field without a default: an object may leave it out. -/
def Fields.optional {α : Type} (fields : Fields) (name : String) (position : Nat)
    (decoder : Decoder α) : Option (Option α) :=
  match fields, fields.find? name position with
  | _, some value => nullable decoder value
  | .named _, none => some none
  | .positional _, none => none

end TypeRepair.Shape
