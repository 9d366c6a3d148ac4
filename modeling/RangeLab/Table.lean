/-!
# Tables by name

Things that are kept by name, each name once. The entries stand in the order of the names, as texts:
the number 10 at the end of a name comes before the number 2.
-/

namespace RangeLab

namespace Table

variable {α : Type}

/-- The table with this under the name, in place of what it has there. -/
def insert (name : String) (a : α) : List (String × α) → List (String × α)
  | [] => [(name, a)]
  | e :: es =>
    if name < e.1 then (name, a) :: e :: es
    else if name = e.1 then (name, a) :: es
    else e :: insert name a es

/-- The table of these entries. Of entries with one name the last is kept. -/
def ofEntries (entries : List (String × α)) : List (String × α) :=
  entries.foldl (fun table e => insert e.1 e.2 table) []

end Table

end RangeLab
