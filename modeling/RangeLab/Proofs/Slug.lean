import RangeLab.Fault

/-!
# What slugs are made of

A slug is its own slugified text (`letters_text`), so reading any text as a slug is the same as
comparing its letters with the slug (`ofText?_eq_some`), and a slug is read from its own text
(`ofCanonical?_text`). No character that separates or joins words stands in a slug, which is why
names made of slugs can be taken apart and why a slug is never the identifier of a service whose
identifier has an underscore.

The canonical texts are just the slugs, so the test that is made when a name is read back accepts
what is composed when it is written. Slugifying goes character by character: it follows
concatenation and does not see what is put between letters and digits
(`slugs_are_canonical_texts`).
-/

namespace RangeLab.Slug

theorem text_inj {a b : Slug} : a.text = b.text ↔ a = b := by
  cases a
  cases b
  simp

theorem toList_text_inj {a b : Slug} : a.text.toList = b.text.toList ↔ a = b := by
  rw [String.toList_inj, text_inj]

theorem text_toList_ne_nil (s : Slug) : s.text.toList ≠ [] := by
  have h := s.canonical
  simp only [isCanonical, Bool.and_eq_true, Bool.not_eq_true', List.isEmpty_eq_false_iff] at h
  exact h.1

theorem isSlugChar_of_mem {s : Slug} {c : Char} (hc : c ∈ s.text.toList) : isSlugChar c = true := by
  have h := s.canonical
  rw [isCanonical, Bool.and_eq_true] at h
  exact List.all_eq_true.mp h.2 c hc

theorem dash_not_mem (s : Slug) : '-' ∉ s.text.toList :=
  fun h => absurd (isSlugChar_of_mem h) (by decide)

theorem underscore_not_mem (s : Slug) : '_' ∉ s.text.toList :=
  fun h => absurd (isSlugChar_of_mem h) (by decide)

/-- A character of a slug is a letter or digit, and lowering does not change it. -/
theorem isAlphanum_of_isSlugChar {c : Char} (h : isSlugChar c = true) :
    c.isAlphanum = true ∧ c.toLower = c := by
  have hupper : ¬(c.val ≥ 'A'.val ∧ c.val ≤ 'Z'.val) := by
    delta isSlugChar Char.isLower Char.isDigit at h
    simp only [Bool.or_eq_true, Bool.and_eq_true, decide_eq_true_eq] at h
    rintro ⟨hA, hZ⟩
    have h1 : 65 ≤ c.val.toNat := UInt32.le_iff_toNat_le.mp hA
    have h2 : c.val.toNat ≤ 90 := UInt32.le_iff_toNat_le.mp hZ
    rcases h with ⟨ha, -⟩ | ⟨-, h9⟩
    · have : 97 ≤ c.val.toNat := UInt32.le_iff_toNat_le.mp ha
      omega
    · have : c.val.toNat ≤ 57 := UInt32.le_iff_toNat_le.mp h9
      omega
  constructor
  · rw [isSlugChar, Bool.or_eq_true] at h
    delta Char.isAlphanum Char.isAlpha
    rw [Bool.or_eq_true, Bool.or_eq_true]
    exact h.imp Or.inr id
  · delta Char.toLower
    rw [dif_neg hupper]

theorem letters_text (s : Slug) : letters s.text = s.text.toList := by
  have hfilter : s.text.toList.filter Char.isAlphanum = s.text.toList :=
    List.filter_eq_self.mpr fun c hc => (isAlphanum_of_isSlugChar (isSlugChar_of_mem hc)).1
  rw [letters, hfilter]
  calc s.text.toList.map Char.toLower = s.text.toList.map id :=
        List.map_congr_left fun c hc => (isAlphanum_of_isSlugChar (isSlugChar_of_mem hc)).2
    _ = s.text.toList := List.map_id _

theorem ofText?_eq_some {raw : String} {s : Slug} :
    ofText? raw = some s ↔ letters raw = s.text.toList := by
  unfold ofText?
  constructor
  · intro h
    split at h
    · obtain rfl := Option.some.inj h
      exact String.toList_ofList.symm
    · cases h
  · intro h
    have hne : letters raw ≠ [] := h ▸ s.text_toList_ne_nil
    rw [dif_pos hne, Option.some.injEq, ← toList_text_inj]
    exact String.toList_ofList.trans h

theorem exists_ofText? {raw : String} : (∃ s, ofText? raw = some s) ↔ letters raw ≠ [] :=
  ⟨fun ⟨s, h⟩ => ofText?_eq_some.mp h ▸ s.text_toList_ne_nil,
    fun h => ⟨_, by rw [ofText?, dif_pos h]⟩⟩

theorem ofText?_text (s : Slug) : ofText? s.text = some s := ofText?_eq_some.mpr s.letters_text

theorem ofCanonical?_text (s : Slug) : ofCanonical? s.text = some s := by
  rw [ofCanonical?, dif_pos s.canonical]

theorem ofCanonical?_eq_some {raw : String} {s : Slug} :
    ofCanonical? raw = some s ↔ s.text = raw := by
  constructor
  · intro h
    rw [ofCanonical?] at h
    split at h
    · obtain rfl := Option.some.inj h
      rfl
    · cases h
  · rintro rfl
    exact s.ofCanonical?_text

theorem read_eq_ok {raw : String} {s : Slug} :
    read raw = .ok s ↔ letters raw = s.text.toList := by
  rw [← ofText?_eq_some]
  unfold read
  split <;> simp_all

theorem exists_read {raw : String} : (∃ s, read raw = .ok s) ↔ letters raw ≠ [] := by
  rw [← exists_ofText?]
  exact exists_congr fun s => read_eq_ok.trans ofText?_eq_some.symm

/-! ## Any text as a slug -/

def IsLowerOrDigit (c : Char) : Prop := 'a' ≤ c ∧ c ≤ 'z' ∨ '0' ≤ c ∧ c ≤ '9'

/-- An ASCII letter of either case, or a decimal digit. -/
def IsLetterOrDigit (c : Char) : Prop := 'A' ≤ c ∧ c ≤ 'Z' ∨ IsLowerOrDigit c

/-- The second list is the first one with further characters put anywhere into it, none of them an
ASCII letter or digit. -/
inductive Interspersed : List Char → List Char → Prop
  | nil : Interspersed [] []
  | kept {c : Char} {cs cs' : List Char} :
      Interspersed cs cs' → Interspersed (c :: cs) (c :: cs')
  | inserted {c : Char} {cs cs' : List Char} :
      ¬IsLetterOrDigit c → Interspersed cs cs' → Interspersed cs (c :: cs')

/-- The text of the slug that a text is read as, empty if there is none. -/
def slugified (raw : String) : String :=
  match read raw with
  | .ok s => s.text
  | .error _ => ""

theorem isSlugChar_iff {c : Char} : isSlugChar c = true ↔ IsLowerOrDigit c := by
  delta isSlugChar Char.isLower Char.isDigit
  simp only [Bool.or_eq_true, Bool.and_eq_true, decide_eq_true_eq]
  exact Iff.rfl

theorem isAlphanum_iff {c : Char} : c.isAlphanum = true ↔ IsLetterOrDigit c := by
  delta Char.isAlphanum Char.isAlpha
  rw [Bool.or_eq_true, Bool.or_eq_true, or_assoc]
  refine or_congr ?_ (Bool.or_eq_true _ _ ▸ isSlugChar_iff)
  delta Char.isUpper
  exact decide_eq_true_iff

theorem letters_append (a b : String) : letters (a ++ b) = letters a ++ letters b := by
  simp only [letters, String.toList_append, List.filter_append, List.map_append]

theorem letters_eq_nil {raw : String} :
    letters raw = [] ↔ ∀ c ∈ raw.toList, ¬IsLetterOrDigit c := by
  simp only [letters, List.map_eq_nil_iff, List.filter_eq_nil_iff, isAlphanum_iff]

theorem filter_of_interspersed {cs cs' : List Char} (h : Interspersed cs cs') :
    cs'.filter Char.isAlphanum = cs.filter Char.isAlphanum := by
  induction h with
  | nil => rfl
  | kept _ ih => rw [List.filter_cons, List.filter_cons, ih]
  | inserted hc _ ih => rw [List.filter_cons, if_neg fun h => hc (isAlphanum_iff.mp h), ih]

theorem letters_of_interspersed {raw raw' : String}
    (h : Interspersed raw.toList raw'.toList) : letters raw' = letters raw :=
  congrArg (List.map Char.toLower) (filter_of_interspersed h)

theorem read_eq_error {raw : String} {fault : NameFault} :
    read raw = .error fault ↔ letters raw = [] ∧ fault = .empty raw := by
  unfold read ofText?
  by_cases h : letters raw = []
  · simp [h, eq_comm]
  · simp [h]

theorem toList_slugified (raw : String) : (slugified raw).toList = letters raw := by
  unfold slugified
  split
  · rename_i h
    exact (read_eq_ok.mp h).symm
  · rename_i h
    exact (read_eq_error.mp h).1.symm

theorem isCanonical_iff {raw : String} :
    isCanonical raw = true ↔ ∃ s, read raw = .ok s ∧ s.text = raw := by
  constructor
  · intro h
    exact ⟨⟨raw, h⟩, read_eq_ok.mpr (letters_text ⟨raw, h⟩), rfl⟩
  · rintro ⟨s, -, rfl⟩
    exact s.canonical

/-- The canonical texts are the slugs. A text is canonical iff it is the text of its own slug, and
every slug is canonical: not empty, of lower-case letters and digits, and so without the separator
of names and without an underscore. A text has a slug unless it has no ASCII letter or digit. To
slugify two texts one after the other is to slugify both together, so slugifying again changes
nothing, and neither does it matter what else stands between letters and digits. -/
theorem slugs_are_canonical_texts :
    (∀ raw, isCanonical raw = true ↔ ∃ s, read raw = .ok s ∧ s.text = raw)
    ∧ (∀ raw s, read raw = .ok s → isCanonical s.text = true ∧ s.text ≠ ""
      ∧ (∀ c ∈ s.text.toList, IsLowerOrDigit c) ∧ '-' ∉ s.text.toList ∧ '_' ∉ s.text.toList)
    ∧ (∀ raw, (∃ fault, read raw = .error fault) ↔ ∀ c ∈ raw.toList, ¬IsLetterOrDigit c)
    ∧ (∀ a b, slugified (a ++ b) = slugified a ++ slugified b)
    ∧ (∀ raw s, read raw = .ok s → read s.text = .ok s)
    ∧ ∀ raw raw', Interspersed raw.toList raw'.toList → slugified raw' = slugified raw := by
  refine ⟨fun raw => isCanonical_iff, fun raw s _ => ?_, fun raw => ?_, fun a b => ?_,
    fun raw s _ => read_eq_ok.mpr s.letters_text, fun raw raw' h => ?_⟩
  · refine ⟨s.canonical, fun hempty => s.text_toList_ne_nil (hempty ▸ rfl),
      fun c hc => isSlugChar_iff.mp (isSlugChar_of_mem hc), s.dash_not_mem, s.underscore_not_mem⟩
  · rw [← letters_eq_nil]
    exact ⟨fun ⟨_, h⟩ => (read_eq_error.mp h).1, fun h => ⟨_, read_eq_error.mpr ⟨h, rfl⟩⟩⟩
  · rw [← String.toList_inj, String.toList_append]
    simp only [toList_slugified, letters_append]
  · rw [← String.toList_inj, toList_slugified, toList_slugified, letters_of_interspersed h]

/-- Capitals, a blank and an underscore are left out of the slug of this name, which is canonical
while the name is not; an accented letter put into the name changes nothing. -/
theorem slugs_are_canonical_texts_mixed :
    isCanonical "Web Server_01" = false
    ∧ (∃ s, read "Web Server_01" = .ok s ∧ s.text = "webserver01"
      ∧ isCanonical s.text = true ∧ read s.text = .ok s)
    ∧ slugified "Web Sérver_01" = slugified "Web Srver_01" := by
  obtain ⟨-, hcanonical, -, -, hagain, hinterspersed⟩ := slugs_are_canonical_texts
  refine ⟨by decide +kernel, ?_, hinterspersed _ _ ?_⟩
  · let s : Slug := ⟨"webserver01", by decide +kernel⟩
    have hread : read "Web Server_01" = .ok s := read_eq_ok.mpr (by decide +kernel)
    exact ⟨s, hread, rfl, (hcanonical _ s hread).1, hagain _ s hread⟩
  · have hé : ¬IsLetterOrDigit 'é' := by
      rw [← isAlphanum_iff]
      decide
    exact .kept (.kept (.kept (.kept (.kept (.inserted hé (.kept (.kept (.kept (.kept (.kept
      (.kept (.kept .nil))))))))))))

end RangeLab.Slug
