/-!
# Slugs

The components of every name in a lab. A slug is a non-empty text of lower-case ASCII letters and
digits; any text becomes one by dropping every other character and lowering the letters, unless
nothing is left. Slugs never contain the separator of names, which is what lets a name be taken
apart again.
-/

namespace RangeLab

def Slug.isSlugChar (c : Char) : Bool := c.isLower || c.isDigit

/-- Whether a text is a slug as it stands. -/
def Slug.isCanonical (s : String) : Bool := !s.toList.isEmpty && s.toList.all Slug.isSlugChar

/-- A non-empty text of lower-case ASCII letters and digits. -/
structure Slug where
  text : String
  canonical : Slug.isCanonical text = true
  deriving DecidableEq

namespace Slug

instance : ToString Slug := ⟨Slug.text⟩

/-- The letters and digits of a text, in lower case. -/
def letters (raw : String) : List Char := (raw.toList.filter Char.isAlphanum).map Char.toLower

theorem isSlugChar_toLower {c : Char} (h : c.isAlphanum = true) : isSlugChar c.toLower = true := by
  by_cases hu : c.val ≥ 'A'.val ∧ c.val ≤ 'Z'.val
  · have h1 : 65 ≤ c.val.toNat := UInt32.le_iff_toNat_le.mp hu.1
    have h2 : c.val.toNat ≤ 90 := UInt32.le_iff_toNat_le.mp hu.2
    have hv : c.toLower.val.toNat = c.val.toNat + 32 := by
      delta Char.toLower
      simp only [dif_pos hu, UInt32.toNat_add]
      show (c.val.toNat + 32) % UInt32.size = _
      exact Nat.mod_eq_of_lt (show c.val.toNat + 32 < UInt32.size by rw [UInt32.size]; omega)
    have ha : 'a'.val ≤ c.toLower.val := UInt32.le_iff_toNat_le.mpr (by
      rw [hv]; show 97 ≤ _; omega)
    have hz : c.toLower.val ≤ 'z'.val := UInt32.le_iff_toNat_le.mpr (by
      rw [hv]; show _ ≤ 122; omega)
    delta isSlugChar Char.isLower
    simp only [ge_iff_le, ha, hz, decide_true, Bool.and_self, Bool.true_or]
  · have hn : c.isUpper = false := by
      delta Char.isUpper
      simpa only [decide_eq_false_iff_not] using hu
    delta Char.isAlphanum Char.isAlpha at h
    delta isSlugChar Char.toLower
    rw [dif_neg hu]
    simpa only [hn, Bool.false_or] using h

theorem isCanonical_letters {raw : String} (h : letters raw ≠ []) :
    isCanonical (String.ofList (letters raw)) = true := by
  simp only [isCanonical, String.toList_ofList, Bool.and_eq_true, Bool.not_eq_true',
    List.isEmpty_eq_false_iff, List.all_eq_true]
  refine ⟨h, fun c hc => ?_⟩
  obtain ⟨d, hd, rfl⟩ := List.mem_map.mp hc
  exact isSlugChar_toLower (List.mem_filter.mp hd).2

/-- The slug of a text, unless the text has no ASCII letter or digit. -/
def ofText? (raw : String) : Option Slug :=
  if h : letters raw ≠ [] then some ⟨String.ofList (letters raw), isCanonical_letters h⟩
  else none

def ofCanonical? (s : String) : Option Slug :=
  if h : isCanonical s = true then some ⟨s, h⟩ else none

def le (a b : Slug) : Bool := decide (a.text ≤ b.text)

end Slug

end RangeLab
