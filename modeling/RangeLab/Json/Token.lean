import RangeLab.Json.Value

/-!
# Tokens of a JSON text

The words of a JSON text: brackets, commas, colons and *leaves*, the values that have no values
inside.
-/

namespace RangeLab.Json

/-- A word of a JSON text. -/
inductive Token where
  | openList
  | closeList
  | openObject
  | closeObject
  | comma
  | colon
  | leaf (v : Json)

end RangeLab.Json
