import RangeLab.Json.Scanner

/-!
# Reading JSON

A stack automaton that puts the tokens of a text together to one value. The stack holds the lists
and objects that are open, the innermost first, each with what has been read of it. Reading takes
one step for each token, so it ends on every text and to any depth of nesting.
-/

namespace RangeLab.Json

/-- An open list or object; its items or members so far, the last one first. -/
inductive Frame where
  | list (items : List Json)
  | object (members : List (Text × Json))
  /-- An object, after the key of its next member. -/
  | member (key : Text) (members : List (Text × Json))

/-- What must come next. -/
inductive Expect where
  /-- A value. -/
  | value (within : List Frame)
  /-- The first item or member of the innermost frame, or its closing bracket. -/
  | first (within : List Frame)
  /-- The key of a further member. -/
  | nextKey (within : List Frame)
  /-- The colon after a key. -/
  | colon (within : List Frame)
  /-- A comma, or the closing bracket of the innermost frame. -/
  | after (within : List Frame)
  /-- Nothing: the value is complete. -/
  | nothing (v : Json)

namespace Expect

/-- A value is complete: it goes into the innermost frame. -/
def complete (v : Json) : List Frame → Option Expect
  | [] => some (.nothing v)
  | .list items :: within => some (.after (.list (v :: items) :: within))
  | .member key members :: within => some (.after (.object ((key, v) :: members) :: within))
  | .object _ :: _ => none

def begin (within : List Frame) : Token → Option Expect
  | .leaf v => complete v within
  | .openList => some (.first (.list [] :: within))
  | .openObject => some (.first (.object [] :: within))
  | _ => none

def takeKey (members : List (Text × Json)) (within : List Frame) : Token → Option Expect
  | .leaf (.string key) => some (.colon (.member key members :: within))
  | _ => none

/-- One more token. -/
def step : Expect → Token → Option Expect
  | .value within, t => begin within t
  | .first (.list items :: within), .closeList => complete (.list items.reverse) within
  | .first (.list items :: within), t => begin (.list items :: within) t
  | .first (.object members :: within), .closeObject =>
    complete (.object members.reverse) within
  | .first (.object members :: within), t => takeKey members within t
  | .nextKey (.object members :: within), t => takeKey members within t
  | .colon within, .colon => some (.value within)
  | .after (.list items :: within), .comma => some (.value (.list items :: within))
  | .after (.list items :: within), .closeList => complete (.list items.reverse) within
  | .after (.object members :: within), .comma => some (.nextKey (.object members :: within))
  | .after (.object members :: within), .closeObject =>
    complete (.object members.reverse) within
  | _, _ => none

def run (e : Expect) : List Token → Option Json
  | [] =>
    match e with
    | .nothing v => some v
    | _ => none
  | t :: ts =>
    match e.step t with
    | none => none
    | some e => run e ts

end Expect

/-- The value that a text is, or `none` if it is not one JSON value with blanks around it. -/
def parse? (s : String) : Option Json :=
  (tokens? s.toList).bind (Expect.run (.value []))

end RangeLab.Json
