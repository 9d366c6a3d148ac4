import Mathlib.Tactic.IntervalCases
import RangeLab.Json.Printer
import RangeLab.Json.Scanner
import RangeLab.Proofs.Numeral

/-!
# Scanning what was written

Scanning the text of a value yields the tokens of the value, in every layout (`tokens?_render`). The
scan is followed one piece of text at a time: blanks yield nothing, a literal yields its leaf, and
over a whole value the scan goes from between two tokens to between two tokens (`run_render`). Only
a number does not know where it ends: it needs a character behind it that cannot go on with it
(`EndsNumber`), and what follows a value always begins with such a one.
-/

namespace RangeLab.Json

/-! ## Tokens of a value -/

mutual

/-- The tokens that a value is written with. -/
def tokens : Json → List Token
  | .list [] => [.openList, .closeList]
  | .list (v :: vs) => .openList :: (tokens v ++ itemTokens vs ++ [.closeList])
  | .object [] => [.openObject, .closeObject]
  | .object ((key, v) :: ms) =>
    .openObject :: .leaf (.string key) :: .colon
      :: (tokens v ++ memberTokens ms ++ [.closeObject])
  | v => [.leaf v]

/-- The tokens of the further items of a list. -/
def itemTokens : List Json → List Token
  | [] => []
  | v :: vs => .comma :: (tokens v ++ itemTokens vs)

/-- The tokens of the further members of an object. -/
def memberTokens : List (Text × Json) → List Token
  | [] => []
  | (key, v) :: ms =>
    .comma :: .leaf (.string key) :: .colon :: (tokens v ++ memberTokens ms)

end

/-! ## Texts of pieces -/

/-- What a character of a string is read as: itself, or its code if it is written by digits. -/
def Piece.Spells (p : Piece) (c : Char) : Prop :=
  p = .char c ∨ p = .unit c.toNat ∧ c.toNat < 32

/-- A code unit that is no half of a pair stands for a character by itself. -/
theorem textOfPieces_unit {after : List Char} {u : Nat} (h : u < 32) (before : List Piece) :
    textOfPieces after (.unit u :: before) = textOfPieces (Char.ofNat u :: after) before := by
  have hhigh : isHighSurrogate u = false := by
    rw [isHighSurrogate, decide_eq_false (by omega), Bool.false_and]
  have hlow : isLowSurrogate u = false := by
    rw [isLowSurrogate, decide_eq_false (by omega), Bool.false_and]
  cases before with
  | nil => simp [textOfPieces, hhigh, hlow]
  | cons p before =>
      cases p with
      | char c => simp [textOfPieces, hhigh, hlow]
      | unit high => simp [textOfPieces, hhigh, hlow]

/-- The text of pieces is the characters that they spell, the last piece first. -/
theorem textOfPieces_of_spells {pieces : List Piece} {cs after : List Char}
    (h : List.Forall₂ Piece.Spells pieces cs) :
    textOfPieces after pieces = some (String.ofList (cs.reverse ++ after)) := by
  induction h generalizing after with
  | nil => rfl
  | @cons p c pieces cs hp _ ih =>
      rw [List.reverse_cons, List.append_assoc, List.singleton_append, ← ih]
      rcases hp with rfl | ⟨rfl, hlt⟩
      · rw [textOfPieces]
      · rw [textOfPieces_unit hlt, Char.ofNat_toNat]

theorem hexValue?_digitChar : ∀ d < 16, hexValue? (Nat.digitChar d) = some d := by decide

namespace Scan

variable {found more : List Token} {cs rest : List Char} {read : List Piece} {c : Char}

theorem run_step {s s' : Scan} (h : s.step c = some (s', more)) :
    run s found (c :: rest) = run s' (more ++ found) rest := by
  rw [run, h]

/-! ## Blanks -/

theorem run_blanks (h : ∀ c ∈ cs, c = ' ' ∨ c = '\n') :
    run .between found (cs ++ rest) = run .between found rest := by
  induction cs with
  | nil => rfl
  | cons c cs ih =>
      have hblank : step .between c = some (.between, []) := by
        rcases h c List.mem_cons_self with rfl | rfl <;> rfl
      rw [List.cons_append, run_step hblank]
      exact ih fun c hc => h c (List.mem_cons_of_mem _ hc)

theorem run_gap (l : Layout) (depth : Nat) :
    run .between found (l.gap depth ++ rest) = run .between found rest := by
  refine run_blanks fun c hc => ?_
  unfold Layout.gap at hc
  split at hc
  · rcases List.mem_cons.mp hc with rfl | hc
    · exact .inr rfl
    · exact .inl (List.eq_of_mem_replicate hc)
  · cases hc

theorem run_colon (l : Layout) :
    run .between found (l.colon ++ rest) = run .between (.colon :: found) rest := by
  rw [Layout.colon, List.cons_append, run_step (show step .between ':' = _ from rfl)]
  exact run_blanks fun c hc => .inl (List.eq_of_mem_replicate hc)

/-! ## Strings -/

/-- A character written by the digits of its code. -/
theorem run_digits_escape (h : c.toNat < 32) :
    run (.string read) found ('\\' :: 'u' :: '0' :: '0' :: Nat.digitChar (c.toNat / 16)
      :: Nat.digitChar (c.toNat % 16) :: rest)
      = run (.string (.unit c.toNat :: read)) found rest := by
  have hhigh : (Scan.unit read 1 0).step (Nat.digitChar (c.toNat / 16))
      = some (.unit read 0 (c.toNat / 16), []) := by
    simp [step, hexValue?_digitChar (c.toNat / 16) (by omega)]
  have hlow : (Scan.unit read 0 (c.toNat / 16)).step (Nat.digitChar (c.toNat % 16))
      = some (.string (.unit c.toNat :: read), []) := by
    simp [step, hexValue?_digitChar (c.toNat % 16) (by omega), Nat.div_add_mod]
  show run (.unit read 1 0) found _ = _
  rw [run_step hhigh, List.nil_append, run_step hlow, List.nil_append]

/-- Each character of a string is read as a piece that spells it. -/
theorem run_escapedForm (c : Char) : ∃ p, Piece.Spells p c ∧ ∀ rest,
    run (.string read) found (escapedForm c ++ rest) = run (.string (p :: read)) found rest := by
  unfold escapedForm
  split
  case h_8 hquote hbackslash _ _ _ _ _ =>
    split
    · rename_i hcontrol
      have hlt : c.toNat < 32 := UInt32.lt_iff_toNat_lt.mp hcontrol
      exact ⟨.unit c.toNat, .inr ⟨rfl, hlt⟩, fun rest => run_digits_escape hlt⟩
    · rename_i hplain
      have hstep : (Scan.string read).step c = some (.string (.char c :: read), []) := by
        rw [step, if_neg hquote, if_neg hbackslash, if_neg hplain]
      exact ⟨.char c, .inl rfl, fun rest => run_step hstep⟩
  all_goals exact ⟨.char _, .inl rfl, fun rest => rfl⟩

theorem run_characters (cs : List Char) : ∃ pieces, List.Forall₂ Piece.Spells pieces cs
    ∧ ∀ rest, run (.string read) found (cs.flatMap escapedForm ++ rest)
      = run (.string (pieces.reverse ++ read)) found rest := by
  induction cs generalizing read with
  | nil => exact ⟨[], .nil, fun rest => rfl⟩
  | cons c cs ih =>
      obtain ⟨p, hp, hfirst⟩ := @run_escapedForm found read c
      obtain ⟨pieces, hpieces, hrest⟩ := @ih (p :: read)
      refine ⟨p :: pieces, .cons hp hpieces, fun rest => ?_⟩
      rw [List.flatMap_cons, List.append_assoc, hfirst, hrest, List.reverse_cons,
        List.append_assoc, List.singleton_append]

theorem run_stringForm (text : Text) :
    run .between found (stringForm text ++ rest)
      = run .between (.leaf (.string text) :: found) rest := by
  cases text with
  | none => rfl
  | some s =>
      obtain ⟨pieces, hpieces, hrun⟩ := @run_characters found [] s.toList
      have hpieces' : List.Forall₂ Piece.Spells pieces.reverse s.toList.reverse :=
        List.rel_reverse hpieces
      have htext : textOfPieces [] pieces.reverse = some s := by
        rw [textOfPieces_of_spells hpieces', List.reverse_reverse, List.append_nil,
          String.ofList_toList]
      show run (.string []) found (_ ++ ['"'] ++ rest) = _
      rw [List.append_assoc, hrun, List.append_nil]
      show run .between (.leaf (.string (textOfPieces [] pieces.reverse)) :: found) rest = _
      rw [htext]

/-! ## Numbers -/

/-- The text begins with no character that a number could go on with. -/
def EndsNumber (rest : List Char) : Prop :=
  ∀ c ∈ rest.head?, NumberPart.next? .whole c = none

theorem next?_zero_of_whole (h : NumberPart.next? .whole c = none) :
    NumberPart.next? .zero c = none := by
  simp only [NumberPart.next?] at h ⊢
  split at h
  · cases h
  · exact h

theorem run_number {part : NumberPart} {read : List Char} (hpart : part.isComplete = true)
    (hrest : ∀ c ∈ rest.head?, part.next? c = none) :
    run (.number part read) found rest
      = run .between (.leaf (ofNumeral read.reverse) :: found) rest := by
  cases rest with
  | nil => simp [run, finish, hpart]
  | cons c rest =>
      have hstep : (Scan.number part read).step c
          = (begin c).map fun next => (next.1, next.2 ++ [.leaf (ofNumeral read.reverse)]) := by
        simp only [step, hrest c rfl, if_pos hpart]
      rw [run, hstep, run, show step .between c = begin c from rfl]
      cases begin c with
      | none => rfl
      | some next => simp

theorem run_digit_run {read : List Char} (h : ∀ c ∈ cs, c.isDigit = true) :
    run (.number .whole read) found (cs ++ rest)
      = run (.number .whole (cs.reverse ++ read)) found rest := by
  induction cs generalizing read with
  | nil => rfl
  | cons c cs ih =>
      have hstep : (Scan.number .whole read).step c = some (.number .whole (c :: read), []) := by
        rw [step, NumberPart.next?, if_pos (h c List.mem_cons_self)]
      rw [List.cons_append, run_step hstep, List.nil_append,
        ih fun c hc => h c (List.mem_cons_of_mem _ hc), List.reverse_cons, List.append_assoc,
        List.singleton_append]

theorem begin_digit (hdigit : c.isDigit = true) (hzero : c ≠ '0') :
    begin c = some (.number .whole [c], []) := by
  obtain ⟨d, hd, rfl⟩ := Numeral.exists_digitChar_of_isDigit hdigit
  have hpos : 0 < d := Nat.pos_of_ne_zero fun h => hzero (h ▸ rfl)
  interval_cases d <;> rfl

theorem run_digits (n : Nat) (hrest : EndsNumber rest) :
    run .between found (Numeral.digits n ++ rest)
      = run .between (.leaf (.natural n) :: found) rest := by
  rcases Nat.eq_zero_or_pos n with rfl | hpos
  · exact run_number rfl fun c hc => next?_zero_of_whole (hrest c hc)
  · have hhead := Numeral.head?_digits_ne_zero hpos
    have hdigits := fun c => @Numeral.isDigit_of_mem_digits n c
    have hvalue := Numeral.value_digits n
    generalize Numeral.digits n = ds at hhead hdigits hvalue ⊢
    have hleaf : ofNumeral ds = .natural n := by
      rw [ofNumeral, if_pos (List.all_eq_true.mpr hdigits), hvalue]
    cases ds with
    | nil => exact absurd hvalue (Nat.ne_of_lt hpos)
    | cons d ds =>
        have hbegin := begin_digit (hdigits d List.mem_cons_self) fun h => hhead (h ▸ rfl)
        rw [List.cons_append, run_step (show step .between d = _ from hbegin), List.nil_append,
          run_digit_run fun c hc => hdigits c (List.mem_cons_of_mem d hc),
          run_number rfl hrest]
        simp [hleaf]

/-! ## Values -/

theorem endsNumber_cons (h : NumberPart.next? .whole c = none) : EndsNumber (c :: rest) := by
  intro c' hc'
  obtain rfl := Option.some.inj hc'
  exact h

/-- A gap does not go on with a number if what comes behind it does not. -/
theorem endsNumber_gap (l : Layout) (depth : Nat) (h : EndsNumber rest) :
    EndsNumber (l.gap depth ++ rest) := by
  unfold Layout.gap
  split
  · exact endsNumber_cons rfl
  · exact h

theorem endsNumber_items (l : Layout) (depth : Nat) (vs : List Json) (h : EndsNumber rest) :
    EndsNumber (renderItems l depth vs ++ rest) := by
  cases vs with
  | nil => exact h
  | cons v vs => exact endsNumber_cons rfl

theorem endsNumber_members (l : Layout) (depth : Nat) (ms : List (Text × Json))
    (h : EndsNumber rest) : EndsNumber (renderMembers l depth ms ++ rest) := by
  cases ms with
  | nil => exact h
  | cons m ms => exact endsNumber_cons rfl

mutual

/-- The scan of a written value finds its tokens. -/
theorem run_render (l : Layout) : ∀ (v : Json) (depth : Nat) (found : List Token)
    (rest : List Char), EndsNumber rest →
      run .between found (render l depth v ++ rest)
        = run .between ((tokens v).reverse ++ found) rest
  | .null, _, _, _, _ => rfl
  | .bool true, _, _, _, _ => rfl
  | .bool false, _, _, _, _ => rfl
  | .natural n, _, _, _, hrest => run_digits n hrest
  | .otherNumber, _, _, _, hrest =>
      run_number rfl fun c hc => next?_zero_of_whole (hrest c hc)
  | .string text, _, _, _, _ => run_stringForm text
  | .list [], _, _, _, _ => rfl
  | .list (v :: vs), depth, found, rest, hrest => by
      have hend : EndsNumber (l.gap depth ++ (']' :: rest)) :=
        endsNumber_gap l depth (endsNumber_cons rfl)
      simp only [render, tokens, List.cons_append, List.append_assoc, List.nil_append,
        List.reverse_cons, List.reverse_append]
      show run .between (.openList :: found) _ = _
      rw [run_gap, run_render l v _ _ _ (endsNumber_items l _ vs hend),
        run_renderItems l vs _ _ _ hend, run_gap]
      rfl
  | .object [], _, _, _, _ => rfl
  | .object ((key, v) :: ms), depth, found, rest, hrest => by
      have hend : EndsNumber (l.gap depth ++ ('}' :: rest)) :=
        endsNumber_gap l depth (endsNumber_cons rfl)
      simp only [render, tokens, List.cons_append, List.append_assoc, List.nil_append,
        List.reverse_cons, List.reverse_append]
      show run .between (.openObject :: found) _ = _
      rw [run_gap, run_stringForm, run_colon,
        run_render l v _ _ _ (endsNumber_members l _ ms hend),
        run_renderMembers l ms _ _ _ hend, run_gap]
      rfl

theorem run_renderItems (l : Layout) : ∀ (vs : List Json) (depth : Nat) (found : List Token)
    (rest : List Char), EndsNumber rest →
      run .between found (renderItems l depth vs ++ rest)
        = run .between ((itemTokens vs).reverse ++ found) rest
  | [], _, _, _, _ => rfl
  | v :: vs, depth, found, rest, hrest => by
      simp only [renderItems, itemTokens, List.cons_append, List.append_assoc, List.nil_append,
        List.reverse_cons, List.reverse_append]
      show run .between (.comma :: found) _ = _
      rw [run_gap, run_render l v _ _ _ (endsNumber_items l _ vs hrest),
        run_renderItems l vs _ _ _ hrest]

theorem run_renderMembers (l : Layout) : ∀ (ms : List (Text × Json)) (depth : Nat)
    (found : List Token) (rest : List Char), EndsNumber rest →
      run .between found (renderMembers l depth ms ++ rest)
        = run .between ((memberTokens ms).reverse ++ found) rest
  | [], _, _, _, _ => rfl
  | (key, v) :: ms, depth, found, rest, hrest => by
      simp only [renderMembers, memberTokens, List.cons_append, List.append_assoc,
        List.nil_append, List.reverse_cons, List.reverse_append]
      show run .between (.comma :: found) _ = _
      rw [run_gap, run_stringForm, run_colon,
        run_render l v _ _ _ (endsNumber_members l _ ms hrest),
        run_renderMembers l ms _ _ _ hrest]

end

end Scan

/-- Every layout of a value has the tokens of the value. -/
theorem tokens?_render (l : Layout) (v : Json) : tokens? (render l 0 v) = some (tokens v) := by
  have hrun := Scan.run_render l v 0 [] [] nofun
  rw [List.append_nil, List.append_nil] at hrun
  rw [tokens?, hrun]
  simp [Scan.run, Scan.finish]

end RangeLab.Json
