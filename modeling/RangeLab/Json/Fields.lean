import RangeLab.Json.Reader
import RangeLab.Table

/-!
# Records written in JSON

A record with fields in a fixed order is written as an object with a member for each field, or as
the list of its fields. `Json.fields?` brings both to one form, what was given for each field, and
three readers of a field say what it means that nothing was.

* In an object, members with other names are passed over, but no field may be given twice.
* In a list, fields may be missing at the end only, and nothing may follow the last one.
-/

namespace RangeLab.Json

/-- What a record gives for one field. -/
inductive Slot where
  | given (v : Json)
  /-- The object has no member for the field. -/
  | leftOut
  /-- The list ends before the field. -/
  | cutOff

abbrev Fields := List (String × Slot)

/-- What an object gives for one field, unless it gives it twice. -/
def slot? (members : List (Text × Json)) (name : String) : Option (String × Slot) :=
  match members.filter fun m => m.1 == some name with
  | [] => some (name, .leftOut)
  | [m] => some (name, .given m.2)
  | _ => none

/-- What a value gives for the fields with these names, if it is a record of them. -/
def fields? (names : List String) : Json → Option Fields
  | .object members =>
    if members.all fun m => m.1.isSome then names.mapM (slot? members) else none
  | .list items =>
    if items.length ≤ names.length then
      some (names.zip (items.map .given ++ List.replicate names.length .cutOff))
    else none
  | _ => none

namespace Fields

def slot (f : Fields) (name : String) : Slot := (f.lookup name).getD .cutOff

variable {α : Type}

/-- A field that must be given. -/
def required (f : Fields) (name : String) (read : Json → Option α) : Option α :=
  match f.slot name with
  | .given v => read v
  | .leftOut | .cutOff => none

/-- A field with a value for the case that it is not given. -/
def withDefault (f : Fields) (name : String) (read : Json → Option α) (default : α) : Option α :=
  match f.slot name with
  | .given v => read v
  | .leftOut | .cutOff => some default

/-- A field that is `null` or left out of an object when it has no value. -/
def optional (f : Fields) (name : String) (read : Json → Option α) : Option (Option α) :=
  match f.slot name with
  | .given .null => some none
  | .given v => (read v).map some
  | .leftOut => some none
  | .cutOff => none

end Fields

/-! ## Values of fields -/

def bool? : Json → Option Bool
  | .bool b => some b
  | _ => none

def natural? : Json → Option Nat
  | .natural n => some n
  | _ => none

def uint8? (v : Json) : Option UInt8 := v.natural?.bind word8?

def uint32? (v : Json) : Option UInt32 := v.natural?.bind word32?

def uint64? (v : Json) : Option UInt64 := v.natural?.bind word64?

def string? : Json → Option String
  | .string text => text
  | _ => none

def list? {α : Type} (read : Json → Option α) : Json → Option (List α)
  | .list items => items.mapM read
  | _ => none

def option? {α : Type} (read : Json → Option α) : Json → Option (Option α)
  | .null => some none
  | v => (read v).map some

/-- An object as a table: each name once, with the value last given for it. -/
def table? {α : Type} (read : Json → Option α) : Json → Option (List (String × α))
  | .object members => do
    let entries ← members.mapM fun (key, v) => return (← key, ← read v)
    return Table.ofEntries entries
  | _ => none

end RangeLab.Json
