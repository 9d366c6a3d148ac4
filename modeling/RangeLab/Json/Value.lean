/-!
# JSON values

The tree that a JSON text stands for. Objects keep the order and the repetitions of their members:
whether a repeated member is a mistake is for the reader of a record to say.
-/

namespace RangeLab

/-- The text of a string literal; `none` when the literal escapes one half of a surrogate pair
without the other, which no text contains. -/
abbrev Json.Text := Option String

inductive Json where
  | null
  | bool (b : Bool)
  /-- A number written by digits alone. -/
  | natural (n : Nat)
  /-- A number with a sign, a fraction or an exponent. Nothing in a lab is described by one, so
  which number it is is not kept. -/
  | otherNumber
  | string (text : Json.Text)
  | list (items : List Json)
  | object (members : List (Json.Text × Json))
  deriving Inhabited

namespace Json

def ofString (s : String) : Json := .string (some s)

def ofMembers (members : List (String × Json)) : Json :=
  .object (members.map fun (key, v) => (some key, v))

/-- A value that may be absent, `null` when it is. -/
def ofOption {α : Type} (f : α → Json) : Option α → Json
  | none => .null
  | some a => f a

def ofList {α : Type} (f : α → Json) (as : List α) : Json := .list (as.map f)

end Json

end RangeLab
