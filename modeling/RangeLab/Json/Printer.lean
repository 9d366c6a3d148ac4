import RangeLab.Json.Value
import RangeLab.Numeral

/-!
# Writing JSON

The text of a JSON value in a given layout. A layout only decides the blanks between tokens, so
every layout of a value reads back as that value.
-/

namespace RangeLab.Json

/-! ## Leaves -/

/-- The written form of one character of a string: the quote, the backslash and the characters
below the space are escaped, by a letter where there is one. -/
def escapedForm (c : Char) : List Char :=
  match c with
  | '"' => ['\\', '"']
  | '\\' => ['\\', '\\']
  | '\x08' => ['\\', 'b']
  | '\x0c' => ['\\', 'f']
  | '\n' => ['\\', 'n']
  | '\r' => ['\\', 'r']
  | '\t' => ['\\', 't']
  | c =>
    if c < ' ' then
      ['\\', 'u', '0', '0', Nat.digitChar (c.toNat / 16), Nat.digitChar (c.toNat % 16)]
    else [c]

/-- A string literal. A text that is none is written as half a surrogate pair. -/
def stringForm : Text → List Char
  | some s => '"' :: s.toList.flatMap escapedForm ++ ['"']
  | none => ['"', '\\', 'u', 'd', '8', '0', '0', '"']

/-! ## Layouts -/

/-- How a value is laid out: whether each item begins a line, by how many spaces a line is indented
for each level of nesting, and how many spaces follow a colon. -/
structure Layout where
  breaksLines : Bool
  indent : Nat
  colonSpaces : Nat

namespace Layout

/-- One line for each item, two more spaces for each level of nesting, a space after a colon. -/
def indented : Layout := ⟨true, 2, 1⟩

def dense : Layout := ⟨false, 0, 0⟩

/-- What comes before an item or a closing bracket at a depth of nesting. -/
def gap (l : Layout) (depth : Nat) : List Char :=
  if l.breaksLines then '\n' :: List.replicate (l.indent * depth) ' ' else []

def colon (l : Layout) : List Char := ':' :: List.replicate l.colonSpaces ' '

end Layout

mutual

/-- The text of a value at a depth of nesting. -/
def render (l : Layout) (depth : Nat) : Json → List Char
  | .null => ['n', 'u', 'l', 'l']
  | .bool true => ['t', 'r', 'u', 'e']
  | .bool false => ['f', 'a', 'l', 's', 'e']
  | .natural n => Numeral.digits n
  | .otherNumber => ['-', '0']
  | .string text => stringForm text
  | .list [] => ['[', ']']
  | .list (v :: vs) =>
    '[' :: l.gap (depth + 1) ++ render l (depth + 1) v ++ renderItems l (depth + 1) vs
      ++ l.gap depth ++ [']']
  | .object [] => ['{', '}']
  | .object ((key, v) :: ms) =>
    '{' :: l.gap (depth + 1) ++ stringForm key ++ l.colon
      ++ render l (depth + 1) v ++ renderMembers l (depth + 1) ms ++ l.gap depth ++ ['}']

/-- The further items of a list, each after a comma. -/
def renderItems (l : Layout) (depth : Nat) : List Json → List Char
  | [] => []
  | v :: vs => ',' :: l.gap depth ++ render l depth v ++ renderItems l depth vs

/-- The further members of an object, each after a comma. -/
def renderMembers (l : Layout) (depth : Nat) : List (Text × Json) → List Char
  | [] => []
  | (key, v) :: ms =>
    ',' :: l.gap depth ++ stringForm key ++ l.colon ++ render l depth v
      ++ renderMembers l depth ms

end

def pretty (v : Json) : String := String.ofList (render .indented 0 v)

def compact (v : Json) : String := String.ofList (render .dense 0 v)

end RangeLab.Json
