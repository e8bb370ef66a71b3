import HttpConformance.Text.Basic

/-!
# JSON values

A JSON value as it was written, with the members of an object in their order and repeated names
kept, since a reader of records must be able to refuse a repeated field.

Main definitions:

- `Json`: the values.
- `Json.text?`, `Json.nat?`, …: a value seen as one of the simple types.
- `Json.fields?`: the fields of a record, written as an object or as an array.
- `Json.ofOption`: an optional value, `null` when there is none.
-/

namespace HttpConformance

/-- A JSON value. A number that is not written as an integer keeps no value, for no reader of this
library takes one; a string that holds half of a surrogate pair is not a text and is kept only as
the fact that it was there. -/
inductive Json where
  | null
  | bool (value : Bool)
  | int (value : Int)
  | fraction
  | string (value : Text)
  | brokenString
  | array (items : List Json)
  | object (members : List (Option Text × Json))

namespace Json

/-! ## Writing values -/

/-- A member of an object, under a name that is a text. -/
def member (name : String) (value : Json) : Option Text × Json :=
  (some name.toList, value)

/-- An object with the given members. -/
def record (members : List (String × Json)) : Json :=
  .object (members.map fun (name, value) => member name value)

/-- A natural number. -/
def nat (n : Nat) : Json :=
  .int n

/-- A literal string. -/
def literal (value : String) : Json :=
  .string value.toList

/-- The value, or `null` when there is none. -/
def ofOption {α : Type} (write : α → Json) : Option α → Json
  | none => .null
  | some a => write a

/-- An array of the values written by `write`. -/
def ofList {α : Type} (write : α → Json) (items : List α) : Json :=
  .array (items.map write)

/-! ## Reading values -/

/-- The text of a string. -/
def text? : Json → Option Text
  | .string value => some value
  | _ => none

/-- The truth value. -/
def bool? : Json → Option Bool
  | .bool value => some value
  | _ => none

/-- An integer from `low` to `high`. -/
def int? (low high : Int) : Json → Option Int
  | .int value => if low ≤ value ∧ value ≤ high then some value else none
  | _ => none

/-- A natural number up to `high`. -/
def nat? (high : Nat) (json : Json) : Option Nat :=
  (int? 0 high json).map Int.toNat

/-- A value that may be `null`. -/
def nullable? {α : Type} (read : Json → Option α) : Json → Option (Option α)
  | .null => some none
  | json => (read json).map some

/-- An array whose items can all be read. -/
def list? {α : Type} (read : Json → Option α) : Json → Option (List α)
  | .array items => items.mapM read
  | _ => none

/-- An object whose names are texts and whose values can all be read, in the order written. -/
def members? {α : Type} (read : Json → Option α) : Json → Option (List (Text × α))
  | .object members => members.mapM fun (name, value) => do return (← name, ← read value)
  | _ => none

/-- The value of a member. -/
def get? (name : Text) : Json → Option Json
  | .object members => members.lookup (some name)
  | _ => none

/-! ## Records -/

/-- The fields of a record, in the order of `names`; a field that is not given is `none`. A record
is an object, where every name must be a text, unknown names are passed over and a known name may
not be repeated; or an array of the fields in order, from which the last ones may be missing. -/
def fields? (names : List Text) : Json → Option (List (Option Json))
  | .object members =>
    let given := members.map (·.1)
    if given.all Option.isSome && names.all fun name => given.count (some name) ≤ 1 then
      some (names.map fun name => members.lookup (some name))
    else none
  | .array items =>
    if items.length ≤ names.length then
      some (items.map some ++ List.replicate (names.length - items.length) none)
    else none
  | _ => none

/-- A field that must be given. -/
def required {α : Type} (read : Json → Option α) : Option Json → Option α
  | none => none
  | some json => read json

/-- A field that takes `default` when it is not given. -/
def field {α : Type} (default : α) (read : Json → Option α) : Option Json → Option α
  | none => some default
  | some json => read json

end Json

end HttpConformance
