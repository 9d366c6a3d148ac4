import RangeLab.Json.Reader
import RangeLab.Proofs.Json.Scanner

/-!
# Reading what was written

The stack automaton puts the tokens of a value together to the value again: over the tokens of a
value it goes from expecting a value to having it complete, whatever lists and objects are open
around it (`run_tokens`). With the scan of the text this makes every layout of a value read as that
value (`parse?_render`).
-/

namespace RangeLab.Json

namespace Expect

variable {e : Expect} {t : Token} {ts : List Token} {within : List Frame}

theorem run_cons : run e (t :: ts) = (e.step t).bind fun e => run e ts := by
  rw [run]
  cases e.step t with
  | none => rfl
  | some e' => rfl

/-- A value as the first item of a list begins as a value anywhere does. -/
theorem run_first_item (v : Json) (items : List Json) :
    run (.first (.list items :: within)) (tokens v ++ ts)
      = run (.value (.list items :: within)) (tokens v ++ ts) := by
  cases v with
  | list vs => cases vs <;> rfl
  | object ms => cases ms <;> rfl
  | _ => rfl

mutual

/-- Over the tokens of a value, the value is put into the innermost frame. -/
theorem run_tokens : ∀ (v : Json) (within : List Frame) (ts : List Token),
    run (.value within) (tokens v ++ ts) = (complete v within).bind fun e => run e ts
  | .null, _, _ | .bool _, _, _ | .natural _, _, _ | .otherNumber, _, _ | .string _, _, _ =>
      run_cons
  | .list [], within, ts => by
      show run (.first (.list [] :: within)) (.closeList :: ts) = _
      exact run_cons
  | .list (v :: vs), within, ts => by
      simp only [tokens, List.cons_append, List.append_assoc, List.nil_append]
      show run (.first (.list [] :: within)) _ = _
      rw [run_first_item, run_tokens v]
      show run (.after (.list [v] :: within)) _ = _
      rw [run_itemTokens vs]
      rfl
  | .object [], within, ts => by
      show run (.first (.object [] :: within)) (.closeObject :: ts) = _
      exact run_cons
  | .object ((key, v) :: ms), within, ts => by
      simp only [tokens, List.cons_append, List.append_assoc, List.nil_append]
      show run (.value (.member key [] :: within)) _ = _
      rw [run_tokens v]
      show run (.after (.object [(key, v)] :: within)) _ = _
      rw [run_memberTokens ms]
      rfl

/-- Over the further items of a list and its closing bracket, the list is complete. -/
theorem run_itemTokens : ∀ (vs items : List Json) (within : List Frame) (ts : List Token),
    run (.after (.list items :: within)) (itemTokens vs ++ .closeList :: ts)
      = (complete (.list (items.reverse ++ vs)) within).bind fun e => run e ts
  | [], items, within, ts => by
      rw [List.append_nil]
      exact run_cons
  | v :: vs, items, within, ts => by
      simp only [itemTokens, List.cons_append, List.append_assoc]
      show run (.value (.list items :: within)) _ = _
      rw [run_tokens v]
      show run (.after (.list (v :: items) :: within)) _ = _
      rw [run_itemTokens vs, List.reverse_cons, List.append_assoc, List.singleton_append]

/-- Over the further members of an object and its closing bracket, the object is complete. -/
theorem run_memberTokens : ∀ (ms members : List (Text × Json)) (within : List Frame)
    (ts : List Token),
    run (.after (.object members :: within)) (memberTokens ms ++ .closeObject :: ts)
      = (complete (.object (members.reverse ++ ms)) within).bind fun e => run e ts
  | [], members, within, ts => by
      rw [List.append_nil]
      exact run_cons
  | (key, v) :: ms, members, within, ts => by
      simp only [memberTokens, List.cons_append, List.append_assoc]
      show run (.value (.member key members :: within)) _ = _
      rw [run_tokens v]
      show run (.after (.object ((key, v) :: members) :: within)) _ = _
      rw [run_memberTokens ms, List.reverse_cons, List.append_assoc, List.singleton_append]

end

end Expect

/-- Every layout of a value reads as the value. -/
theorem parse?_render (l : Layout) (v : Json) :
    parse? (String.ofList (render l 0 v)) = some v := by
  have hrun := Expect.run_tokens v [] []
  rw [List.append_nil] at hrun
  rw [parse?, String.toList_ofList, tokens?_render]
  exact hrun

end RangeLab.Json
