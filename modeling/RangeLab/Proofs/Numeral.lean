import Mathlib.Data.List.Induction
import RangeLab.Numeral
import RangeLab.Proofs.Attempt
import RangeLab.Proofs.Word

/-!
# Reading what was written in decimal

The digits of a number are a run without leading zeros whose value is the number, so a positive
word is read back from its digits (`ordinal?_digits`). Conversely, a run without leading zeros is
the digits of its value (`digits_value`): an ordinal has no other spelling (`ordinal?_eq_some`).
A count has further ones, with zeros and a plus sign before the digits (`count_eq_ok`).
-/

namespace RangeLab.Numeral

theorem isDigit_of_mem_digits {n : Nat} {c : Char} (h : c ∈ digits n) : c.isDigit = true :=
  Nat.isDigit_of_mem_toDigits (by decide) (by decide) h

theorem isRun_digits (n : Nat) : isRun (digits n) = true := by
  simp only [isRun, Bool.and_eq_true, Bool.not_eq_true', List.isEmpty_eq_false_iff,
    List.all_eq_true]
  exact ⟨Nat.toDigits_ne_nil, fun c hc => isDigit_of_mem_digits hc⟩

theorem isDigit_of_mem_run {cs : List Char} (h : isRun cs = true) {c : Char} (hc : c ∈ cs) :
    c.isDigit = true := by
  simp only [isRun, Bool.and_eq_true, List.all_eq_true] at h
  exact h.2 c hc

theorem value_digits (n : Nat) : value (digits n) = n := Nat.ofDigitChars_ten_toDigits

theorem dash_not_mem_digits (n : Nat) : '-' ∉ digits n :=
  fun h => absurd (isDigit_of_mem_digits h) (by decide)

/-- The digits of a positive number begin with another digit than zero. -/
theorem head?_digits_ne_zero {n : Nat} (h : 0 < n) : (digits n).head? ≠ some '0' := by
  induction n using Nat.strongRecOn with
  | ind n ih =>
      unfold digits at ih ⊢
      by_cases hlt : n < 10
      · rw [Nat.toDigits_of_lt_base hlt, List.head?_cons, ne_eq, Option.some.injEq,
          Nat.digitChar_eq_zero]
        omega
      · rw [Nat.toDigits_of_base_le (by decide) (by omega),
          List.head?_append_of_ne_nil _ Nat.toDigits_ne_nil]
        exact ih (n / 10) (by omega) (by omega)

theorem toList_toString (n : UInt32) : (toString n).toList = digits n.toNat :=
  Nat.toList_repr

/-- The number behind a name tells numbered names apart. -/
theorem numbered_inj {name : String} {m n : Nat}
    (h : name ++ "-" ++ toString m = name ++ "-" ++ toString n) : m = n := by
  have hchars := congrArg String.toList h
  simp only [String.toList_append] at hchars
  have hdigits : digits m = digits n :=
    Nat.toList_repr.symm.trans ((List.append_cancel_left hchars).trans Nat.toList_repr)
  rw [← value_digits m, hdigits, value_digits]

theorem ordinal?_digits {n : UInt32} (h : 1 ≤ n) : ordinal? (digits n.toNat) = some n := by
  have hpos : 0 < n.toNat := UInt32.le_iff_toNat_le.mp h
  have hhead : ((digits n.toNat).head? != some '0') = true :=
    bne_iff_ne.mpr (head?_digits_ne_zero hpos)
  rw [ordinal?, isRun_digits, hhead, Bool.and_self, if_pos rfl, value_digits, word32?,
    if_pos n.toNat_lt, UInt32.ofNat_toNat]

/-! ## One spelling for each number -/

theorem exists_digitChar_of_isDigit {c : Char} (h : c.isDigit = true) :
    ∃ d, d < 10 ∧ d.digitChar = c := by
  simp only [Char.isDigit, Bool.and_eq_true, decide_eq_true_eq] at h
  have hlow : 48 ≤ c.toNat := UInt32.le_iff_toNat_le.mp h.1
  have hhigh : c.toNat ≤ 57 := UInt32.le_iff_toNat_le.mp h.2
  refine ⟨c.toNat - 48, by omega, ?_⟩
  rw [← Char.toNat_inj, Nat.toNat_digitChar_of_lt_ten (by omega)]
  omega

theorem value_append_digitChar (cs : List Char) {d : Nat} (hd : d < 10) :
    value (cs ++ [d.digitChar]) = 10 * value cs + d := by
  rw [value, Nat.ofDigitChars_append, Nat.ofDigitChars_cons_digitChar_of_lt_ten hd,
    Nat.ofDigitChars_nil, value]

theorem digits_zero : digits 0 = ['0'] := rfl

/-- A run without leading zeros is the digits of its value. The digits before the last one are such
a run themselves, and not that of zero. -/
theorem digits_value {cs : List Char} (hrun : isRun cs = true) (hhead : cs.head? ≠ some '0') :
    digits (value cs) = cs := by
  induction cs using List.reverseRecOn with
  | nil => cases hrun
  | append_singleton cs c ih =>
      simp only [isRun, List.all_append, List.all_cons, List.all_nil, Bool.and_eq_true] at hrun
      obtain ⟨d, hd, rfl⟩ := exists_digitChar_of_isDigit hrun.2.2.1
      rw [value_append_digitChar cs hd]
      cases cs with
      | nil =>
          rw [List.nil_append, value, Nat.ofDigitChars_nil, Nat.mul_zero, Nat.zero_add, digits,
            Nat.toDigits_of_lt_base hd]
      | cons c' cs =>
          have hcs := ih (by simpa [isRun] using hrun.2.1) hhead
          have hpos : 0 < value (c' :: cs) := by
            rcases Nat.eq_zero_or_pos (value (c' :: cs)) with h0 | hpos
            · rw [h0, digits_zero] at hcs
              exact absurd (hcs ▸ rfl) hhead
            · exact hpos
          rw [digits, ← Nat.toDigits_append_toDigits (by decide) hpos hd, ← digits, hcs,
            Nat.toDigits_of_lt_base hd]

/-- An ordinal is read from the digits of a positive word, and from nothing else. -/
theorem ordinal?_eq_some {cs : List Char} {n : UInt32} :
    ordinal? cs = some n ↔ 1 ≤ n ∧ digits n.toNat = cs := by
  constructor
  · intro h
    unfold ordinal? at h
    split at h
    · rename_i hread
      rw [Bool.and_eq_true, bne_iff_ne] at hread
      unfold word32? at h
      split at h
      · rename_i hlt
        obtain rfl := Option.some.inj h
        have hcs := digits_value hread.1 hread.2
        rw [← toNat_ofNat_of_lt hlt] at hcs
        refine ⟨one_le_iff_ne_zero.mpr fun h0 => ?_, hcs⟩
        rw [h0] at hcs
        exact hread.2 (hcs ▸ rfl)
      · cases h
    · cases h
  · rintro ⟨hn, rfl⟩
    exact ordinal?_digits hn

/-! ## Counts -/

/-- The characters spell the number as a count: a run with its value, after a plus sign or not. -/
def Spells (cs : List Char) (n : UInt32) : Prop :=
  ∃ run, (cs = run ∨ cs = '+' :: run) ∧ isRun run = true ∧ value run = n.toNat

theorem spells_digits (n : UInt32) : Spells (digits n.toNat) n :=
  ⟨_, .inl rfl, isRun_digits _, value_digits _⟩

theorem le_ofDigitChars (cs : List Char) (n : Nat) : n ≤ Nat.ofDigitChars 10 cs n := by
  induction cs generalizing n with
  | nil => exact Nat.le_refl n
  | cons c cs ih =>
      rw [Nat.ofDigitChars_cons]
      exact Nat.le_trans (by omega) (ih (10 * n + (c.toNat - '0'.toNat)))

/-- Further digits never make a value smaller, so no value is too large on the way to one that is
not. -/
theorem countFrom_eq_ok {cs : List Char} {n m : Nat} (hn : n < UInt32.size) :
    countFrom n cs = .ok m ↔
      (∀ c ∈ cs, c.isDigit = true) ∧ Nat.ofDigitChars 10 cs n = m ∧ m < UInt32.size := by
  induction cs generalizing n with
  | nil =>
      rw [countFrom, Nat.ofDigitChars_nil, Except.ok.injEq]
      exact ⟨fun h => ⟨nofun, h, h ▸ hn⟩, fun h => h.2.1⟩
  | cons c cs ih =>
      rw [countFrom, Nat.ofDigitChars_cons, List.forall_mem_cons]
      by_cases hc : c.isDigit = true
      · rw [if_neg (by simp [hc])]
        by_cases hlt : 10 * n + (c.toNat - '0'.toNat) < UInt32.size
        · rw [if_pos hlt, ih hlt]
          simp [hc]
        · have hle := le_ofDigitChars cs (10 * n + (c.toNat - '0'.toNat))
          rw [if_neg hlt]
          refine ⟨nofun, ?_⟩
          rintro ⟨-, rfl, hm⟩
          exact absurd (Nat.lt_of_le_of_lt hle hm) hlt
      · simp [hc]

/-- What is behind the sign is read iff it is a run with the value. -/
theorem countFrom_map_eq_ok {run : List Char} {n : UInt32} :
    (if run.isEmpty then .error .notDigit else (countFrom 0 run).map UInt32.ofNat) = .ok n
      ↔ isRun run = true ∧ value run = n.toNat := by
  cases run with
  | nil => exact ⟨nofun, fun h => nomatch h.1⟩
  | cons c cs =>
      have hrun : isRun (c :: cs) = true ↔ ∀ d ∈ c :: cs, d.isDigit = true := by simp [isRun]
      rw [if_neg (by simp), Attempt.map_eq_ok, hrun, value]
      simp only [countFrom_eq_ok (show 0 < UInt32.size by decide)]
      constructor
      · rintro ⟨m, ⟨hdigits, rfl, hm⟩, rfl⟩
        exact ⟨hdigits, (toNat_ofNat_of_lt hm).symm⟩
      · rintro ⟨hdigits, hvalue⟩
        exact ⟨n.toNat, ⟨hdigits, hvalue, n.toNat_lt⟩, UInt32.ofNat_toNat⟩

/-- A count is read from a run of digits, with a sign before it or without. The run does not begin
with the sign. -/
theorem count_eq_ok {cs : List Char} {n : UInt32} : count cs = .ok n ↔ Spells cs n := by
  constructor
  · intro h
    unfold count at h
    split at h
    · rename_i hhead
      obtain ⟨run, rfl⟩ := List.head?_eq_some_iff.mp hhead
      exact ⟨run, .inr rfl, countFrom_map_eq_ok.mp h⟩
    · exact ⟨cs, .inl rfl, countFrom_map_eq_ok.mp h⟩
  · rintro ⟨run, hcs, hrun⟩
    unfold count
    rcases hcs with rfl | rfl
    · have hhead : cs.head? ≠ some '+' := fun hplus =>
        absurd (isDigit_of_mem_run hrun.1 (List.mem_of_head? hplus)) (by decide)
      rw [if_neg hhead]
      exact countFrom_map_eq_ok.mpr hrun
    · exact countFrom_map_eq_ok.mpr hrun

end RangeLab.Numeral
