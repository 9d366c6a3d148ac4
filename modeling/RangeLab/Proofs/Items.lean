import Mathlib.Data.List.TakeWhile
import RangeLab.CommandLine
import RangeLab.Proofs.Numeral

/-!
# Lists in writing

The text of a list has commas between its parts. A part holds an item with white space on either
side, or nothing but white space (`IsListText`). An item has a character that is not blank at either
end and no comma (`IsItem`), so it can be told what the items of a text are: every text is that of
one list of items, and it is read as this list (`items_eq_iff`).
-/

namespace RangeLab

/-! ## White space -/

namespace Text

def AllBlank (cs : List Char) : Prop := ∀ c ∈ cs, isBlank c = true

/-- The characters neither begin nor end with white space. -/
structure IsTrimmed (cs : List Char) : Prop where
  head : ∀ c ∈ cs.head?, isBlank c = false
  last : ∀ c ∈ cs.getLast?, isBlank c = false

theorem AllBlank.comma_not_mem {cs : List Char} (h : AllBlank cs) : ',' ∉ cs :=
  fun hc => absurd (h ',' hc) (by decide)

theorem isBlank_head?_trimStart (cs : List Char) :
    ∀ c ∈ (trimStart cs).head?, isBlank c = false := by
  intro c hc
  have hhead := List.head?_dropWhile_not isBlank cs
  rwa [show (cs.dropWhile isBlank).head? = some c from hc] at hhead

/-- What is cut from the start is white space. -/
theorem exists_trimStart (cs : List Char) :
    ∃ blank, AllBlank blank ∧ cs = blank ++ trimStart cs :=
  ⟨cs.takeWhile isBlank, fun _ hc => List.mem_takeWhile_imp hc,
    (List.takeWhile_append_dropWhile ..).symm⟩

theorem trimStart_append {blank cs : List Char} (hblank : AllBlank blank)
    (hcs : ∀ c ∈ cs.head?, isBlank c = false) : trimStart (blank ++ cs) = cs := by
  rw [trimStart, List.dropWhile_append_of_pos hblank]
  cases cs with
  | nil => rfl
  | cons c cs => exact List.dropWhile_cons_of_neg (by simp [hcs c rfl])

theorem trim_of_allBlank {cs : List Char} (h : AllBlank cs) : trim cs = [] := by
  have hstart : trimStart cs = [] := List.dropWhile_eq_nil_iff.mpr h
  rw [trim, hstart]
  rfl

/-- What remains of a text is all but the white space around it. It begins as it did before the end
of the text was cut. -/
theorem trim_eq_iff {cs t : List Char} :
    trim cs = t ↔ IsTrimmed t ∧ ∃ before after, AllBlank before ∧ AllBlank after
      ∧ cs = before ++ t ++ after := by
  constructor
  · rintro rfl
    obtain ⟨before, hbefore, hcs⟩ := exists_trimStart cs
    obtain ⟨after, hafter, hrev⟩ := exists_trimStart (trimStart cs).reverse
    have hstart : trimStart cs = trim cs ++ after.reverse := by
      rw [trim, ← List.reverse_append, ← hrev, List.reverse_reverse]
    refine ⟨⟨fun c hc => ?_, fun c hc => ?_⟩, before, after.reverse, hbefore, ?_, ?_⟩
    · refine isBlank_head?_trimStart cs c ?_
      rw [hstart, List.head?_append, hc]
      rfl
    · rw [trim, List.getLast?_reverse] at hc
      exact isBlank_head?_trimStart _ c hc
    · exact fun c hc => hafter c (List.mem_reverse.mp hc)
    · rw [List.append_assoc, ← hstart, ← hcs]
  · rintro ⟨⟨hhead, hlast⟩, before, after, hbefore, hafter, rfl⟩
    have hend : trimStart (t ++ after).reverse = t.reverse := by
      rw [List.reverse_append]
      refine trimStart_append (fun c hc => hafter c (List.mem_reverse.mp hc)) ?_
      rwa [List.head?_reverse]
    cases t with
    | nil =>
        refine trim_of_allBlank ?_
        rw [List.append_nil]
        exact List.forall_mem_append.mpr ⟨hbefore, hafter⟩
    | cons c t =>
        have hstart : trimStart (before ++ (c :: t ++ after)) = c :: t ++ after :=
          trimStart_append hbefore hhead
        rw [trim, List.append_assoc, hstart, hend, List.reverse_reverse]

theorem trim_eq_nil_iff {cs : List Char} : trim cs = [] ↔ AllBlank cs := by
  rw [trim_eq_iff]
  constructor
  · rintro ⟨-, before, after, hbefore, hafter, rfl⟩
    rw [List.append_nil]
    exact List.forall_mem_append.mpr ⟨hbefore, hafter⟩
  · exact fun h => ⟨⟨nofun, nofun⟩, cs, [], h, nofun, by simp⟩

end Text

/-! ## Items -/

namespace CommandLine

open Text

/-- The characters can be an item of a list. -/
structure IsItem (cs : List Char) : Prop where
  ne_nil : cs ≠ []
  comma_not_mem : ',' ∉ cs
  isTrimmed : IsTrimmed cs

/-- The items that are written in the parts of a text. A part without an item is blank. -/
inductive ArePartsOf : List (List Char) → List (List Char) → Prop
  | nil : ArePartsOf [] []
  | blank {part : List Char} {parts items : List (List Char)} :
      AllBlank part → ArePartsOf parts items → ArePartsOf (part :: parts) items
  | item {before item after : List Char} {parts items : List (List Char)} :
      AllBlank before → AllBlank after → ArePartsOf parts items →
        ArePartsOf ((before ++ item ++ after) :: parts) (item :: items)

/-- The text is one of the texts of the list: parts of it with commas between them. -/
def IsListText (items : List (List Char)) (text : String) : Prop :=
  ∃ parts, parts ≠ [] ∧ text.toList = [','].intercalate parts ∧ ArePartsOf parts items

/-- The items with nothing but commas between them are a text of the list. -/
theorem isListText_intercalate {items : List (List Char)} (h : items ≠ []) :
    IsListText items (String.ofList ([','].intercalate items)) := by
  refine ⟨items, h, String.toList_ofList, ?_⟩
  clear h
  induction items with
  | nil => exact .nil
  | cons item items ih =>
      have hpart : ArePartsOf (([] ++ item ++ []) :: items) (item :: items) := .item nofun nofun ih
      rwa [List.nil_append, List.append_nil] at hpart

namespace ArePartsOf

variable {parts its : List (List Char)}

/-- White space has no comma, so it is for the items to have none. -/
theorem comma_not_mem_iff (h : ArePartsOf parts its) :
    (∀ part ∈ parts, ',' ∉ part) ↔ ∀ item ∈ its, ',' ∉ item := by
  induction h with
  | nil => exact Iff.rfl
  | blank hpart _ ih =>
      rw [List.forall_mem_cons, ih]
      exact and_iff_right hpart.comma_not_mem
  | item hbefore hafter _ ih =>
      rw [List.forall_mem_cons, List.forall_mem_cons, ih]
      simp [hbefore.comma_not_mem, hafter.comma_not_mem]

/-- The parts of a text have just the items that remain when the white space is cut. -/
theorem filter_trim_eq_iff :
    ((parts.map trim).filter fun item => !item.isEmpty) = its
      ↔ (∀ item ∈ its, item ≠ [] ∧ IsTrimmed item) ∧ ArePartsOf parts its := by
  induction parts generalizing its with
  | nil =>
      constructor
      · rintro rfl
        exact ⟨nofun, .nil⟩
      · rintro ⟨-, h⟩
        cases h
        rfl
  | cons part parts ih =>
      rw [List.map_cons]
      by_cases hpart : trim part = []
      · rw [List.filter_cons_of_neg (by simp [hpart]), ih]
        refine and_congr_right fun hits => ⟨.blank (trim_eq_nil_iff.mp hpart), fun h => ?_⟩
        cases h with
        | blank _ h => exact h
        | item hbefore hafter _ =>
            obtain ⟨hne, htrimmed⟩ := hits _ List.mem_cons_self
            exact absurd ((trim_eq_iff.mpr ⟨htrimmed, _, _, hbefore, hafter, rfl⟩).symm.trans hpart)
              hne
      · rw [List.filter_cons_of_pos (by simp [hpart])]
        constructor
        · rintro rfl
          obtain ⟨hits, hparts⟩ := ih.mp rfl
          obtain ⟨htrimmed, before, after, hbefore, hafter, heq⟩ :=
            trim_eq_iff.mp (Eq.refl (trim part))
          refine ⟨List.forall_mem_cons.mpr ⟨⟨hpart, htrimmed⟩, hits⟩, ?_⟩
          have hitem : ArePartsOf ((before ++ trim part ++ after) :: parts) (trim part :: _) :=
            .item hbefore hafter hparts
          rwa [← heq] at hitem
        · rintro ⟨hits, h⟩
          cases h with
          | blank hblank _ => exact absurd (trim_eq_nil_iff.mpr hblank) hpart
          | item hbefore hafter h =>
              obtain ⟨⟨-, htrimmed⟩, hits⟩ := List.forall_mem_cons.mp hits
              rw [trim_eq_iff.mpr ⟨htrimmed, _, _, hbefore, hafter, rfl⟩, ih.mpr ⟨hits, h⟩]

end ArePartsOf

/-- Every text is that of one list of items, and this is the list it is read as. -/
theorem items_eq_iff {its : List (List Char)} {text : String} :
    items text = its ↔ (∀ item ∈ its, IsItem item) ∧ IsListText its text := by
  constructor
  · intro h
    obtain ⟨hits, hparts⟩ := ArePartsOf.filter_trim_eq_iff.mp h
    refine ⟨fun item hitem => ⟨(hits item hitem).1, ?_, (hits item hitem).2⟩, _,
      List.splitOn_ne_nil ',' _, (List.intercalate_splitOn ',').symm, hparts⟩
    exact hparts.comma_not_mem_iff.mp (fun _ => not_mem_of_mem_splitOn) item hitem
  · rintro ⟨hits, parts, hne, htext, hparts⟩
    have hcomma := hparts.comma_not_mem_iff.mpr fun item hitem => (hits item hitem).comma_not_mem
    rw [items, htext, List.splitOn_intercalate ',' hcomma hne]
    exact ArePartsOf.filter_trim_eq_iff.mpr
      ⟨fun item hitem => ⟨(hits item hitem).ne_nil, (hits item hitem).isTrimmed⟩, hparts⟩

theorem items_eq_nil_iff {text : String} :
    items text = [] ↔ ∀ part ∈ text.toList.splitOn ',', AllBlank part := by
  simp [items, List.filter_eq_nil_iff, trim_eq_nil_iff]

end CommandLine

end RangeLab
