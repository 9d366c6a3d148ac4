import Mathlib.Algebra.Ring.Nat
import Mathlib.Data.List.Forall2
import Mathlib.Data.List.Nodup

/-!
# Lists with keys and lists that are related

When the elements of a list have different keys, an element is found by its key, and what the
elements contribute to another list is distinct as soon as each contribution gives its key away.
Of a list and what it is read as, element by element, the same can be said.
-/

namespace RangeLab

variable {α β γ κ : Type}

/-! ## Keys -/

theorem find?_of_key [BEq κ] [LawfulBEq κ] {l : List α} {key : α → κ} {a : α} (ha : a ∈ l)
    (hkey : ∀ b ∈ l, key b = key a → b = a) : (l.find? fun b => key b == key a) = some a := by
  cases hfind : l.find? fun b => key b == key a with
  | none => exact absurd (List.find?_eq_none.mp hfind a ha) (by simp)
  | some found =>
      have hfound : key found = key a := by simpa using List.find?_some hfind
      rw [hkey found (List.mem_of_find?_eq_some hfind) hfound]

theorem find?_key_eq_some [BEq κ] [LawfulBEq κ] {l : List α} {key : α → κ} {k : κ} {a : α}
    (hnd : (l.map key).Nodup) : (l.find? fun b => key b == k) = some a ↔ a ∈ l ∧ key a = k := by
  constructor
  · intro h
    have hkey := List.find?_some h
    exact ⟨List.mem_of_find?_eq_some h, beq_iff_eq.mp hkey⟩
  · rintro ⟨ha, rfl⟩
    exact find?_of_key ha fun b hb hkey => List.inj_on_of_nodup_map hnd hb ha hkey

/-- With different keys the last element that has a key is the first one. -/
theorem findRev?_key_eq_some [BEq κ] [LawfulBEq κ] {l : List α} {key : α → κ} {k : κ} {a : α}
    (hnd : (l.map key).Nodup) :
    (l.findRev? fun b => key b == k) = some a ↔ a ∈ l ∧ key a = k := by
  have hrev : (l.reverse.map key).Nodup := by
    rw [List.map_reverse, List.nodup_reverse]
    exact hnd
  rw [List.findRev?_eq_find?_reverse, find?_key_eq_some hrev, List.mem_reverse]

/-- Contributions that give their keys away do not overlap. -/
theorem nodup_flatMap_of_key {l : List α} {f : α → List β} {key : α → κ} (hl : (l.map key).Nodup)
    (hf : ∀ a ∈ l, (f a).Nodup)
    (hkey : ∀ a ∈ l, ∀ a' ∈ l, ∀ b ∈ f a, b ∈ f a' → key a = key a') : (l.flatMap f).Nodup := by
  induction l with
  | nil => exact List.nodup_nil
  | cons a l ih =>
      obtain ⟨hnot, hnd⟩ := List.nodup_cons.mp hl
      rw [List.flatMap_cons, List.nodup_append]
      refine ⟨hf a List.mem_cons_self, ?_, ?_⟩
      · exact ih hnd (fun a' ha' => hf a' (List.mem_cons_of_mem a ha'))
          (fun a₁ h₁ a₂ h₂ => hkey a₁ (List.mem_cons_of_mem a h₁) a₂ (List.mem_cons_of_mem a h₂))
      · rintro b hb _ hb' rfl
        obtain ⟨a', ha', hba'⟩ := List.mem_flatMap.mp hb'
        have heq := hkey a List.mem_cons_self a' (List.mem_cons_of_mem a ha') b hb hba'
        exact hnot (heq ▸ List.mem_map_of_mem ha')

theorem max?_eq_of_mem {l l' : List Nat} (h : ∀ n, n ∈ l ↔ n ∈ l') : l.max? = l'.max? := by
  refine Option.ext fun n => ?_
  simp only [List.max?_eq_some_iff, h]

theorem max?_getD_le_iff {l : List Nat} {n : Nat} : l.max?.getD 0 ≤ n ↔ ∀ a ∈ l, a ≤ n := by
  cases h : l.max? with
  | none => simp [List.max?_eq_none_iff.mp h]
  | some a => exact List.max?_le_iff h

theorem idxOf?_append_of_not_mem [BEq κ] [LawfulBEq κ] {l l' : List κ} {a : κ} (h : a ∉ l') :
    (l ++ l').idxOf? a = l.idxOf? a := by
  have hnone : l'.findIdx? (· == a) = none := List.idxOf?_eq_none_iff.mpr h
  show (l ++ l').findIdx? (· == a) = l.findIdx? (· == a)
  rw [List.findIdx?_append, hnone, Option.map_none, Option.or_none]

theorem pairwise_lt_zipIdx (l : List α) (n : Nat) :
    (l.zipIdx n).Pairwise fun a b => a.2 < b.2 := by
  refine List.pairwise_map.mp ?_
  rw [List.zipIdx_map_snd]
  exact List.pairwise_lt_range'

/-- What an element contributes stands between what those before it and those behind it do. -/
theorem flatMap_eq_append {l : List α} {f : α → List β} {k : Nat} {a : α} (h : l[k]? = some a) :
    l.flatMap f = (l.take k).flatMap f ++ (f a ++ (l.drop (k + 1)).flatMap f) := by
  obtain ⟨hk, rfl⟩ := List.getElem?_eq_some_iff.mp h
  rw [← List.flatMap_cons, ← List.drop_eq_getElem_cons hk, ← List.flatMap_append,
    List.take_append_drop]

theorem getElem?_flatMap {l : List α} {f : α → List β} {k j : Nat} {a : α} (h : l[k]? = some a)
    (hj : j < (f a).length) :
    (l.flatMap f)[((l.take k).map fun a => (f a).length).sum + j]? = (f a)[j]? := by
  rw [flatMap_eq_append h, ← List.length_flatMap, List.getElem?_append_right (Nat.le_add_right _ j),
    Nat.add_sub_cancel_left, List.getElem?_append_left hj]

/-- Elements that contribute nothing may be left out. -/
theorem flatMap_filter_not_isEmpty {l : List α} {f : α → List β} :
    (l.filter fun a => !(f a).isEmpty).flatMap f = l.flatMap f := by
  induction l with
  | nil => rfl
  | cons a l ih =>
      rw [List.filter_cons, List.flatMap_cons]
      cases h : f a with
      | nil => simpa [h] using ih
      | cons b bs => simp [h, ih]

/-- An element that stands in a list is its head, and nothing stands before it, or it stands in the
rest, and the head stands before it. -/
theorem exists_split_cons_iff {P : List α → Prop} {x a : α} {l : List α} :
    (∃ before after, x :: l = before ++ a :: after ∧ P before) ↔
      x = a ∧ P [] ∨ ∃ before after, l = before ++ a :: after ∧ P (x :: before) := by
  constructor
  · rintro ⟨before, after, hsplit, h⟩
    rcases List.cons_eq_append_iff.mp hsplit with ⟨rfl, heq⟩ | ⟨before, rfl, hl⟩
    · exact .inl ⟨(List.cons.inj heq).1.symm, h⟩
    · exact .inr ⟨before, after, hl, h⟩
  · rintro (⟨rfl, h⟩ | ⟨before, after, rfl, h⟩)
    · exact ⟨[], l, rfl, h⟩
    · exact ⟨x :: before, after, rfl, h⟩

theorem eraseDups_replicate [BEq κ] [LawfulBEq κ] {n : Nat} (hn : 0 < n) (k : κ) :
    (List.replicate n k).eraseDups = [k] := by
  obtain ⟨n, rfl⟩ := Nat.exists_eq_succ_of_ne_zero (Nat.ne_of_gt hn)
  rw [List.replicate_succ, List.eraseDups_cons,
    List.filter_eq_nil_iff.mpr fun b hb => by simp [List.eq_of_mem_replicate hb],
    List.eraseDups_nil]

/-- Runs of different keys, none of them empty, are undone by dropping what is repeated. The runs
behind the first one do not have its key, so they are left as they are. -/
theorem eraseDups_flatMap_replicate [BEq κ] [LawfulBEq κ] {l : List α} {key : α → κ}
    {count : α → Nat} (hl : (l.map key).Nodup) (hcount : ∀ a ∈ l, 0 < count a) :
    (l.flatMap fun a => List.replicate (count a) (key a)).eraseDups = l.map key := by
  induction l with
  | nil => rfl
  | cons a l ih =>
      obtain ⟨hnot, hnd⟩ := List.nodup_cons.mp hl
      obtain ⟨hpos, hcount⟩ := List.forall_mem_cons.mp hcount
      have hkept : (l.flatMap fun a => List.replicate (count a) (key a)).removeAll
          (List.replicate (count a) (key a))
            = l.flatMap fun a => List.replicate (count a) (key a) := by
        refine List.filter_eq_self.mpr fun k hk => ?_
        obtain ⟨a', ha', hk⟩ := List.mem_flatMap.mp hk
        have hne : k ∉ List.replicate (count a) (key a) := by
          intro hmem
          rw [List.eq_of_mem_replicate hmem] at hk
          exact hnot (List.mem_map.mpr ⟨a', ha', (List.eq_of_mem_replicate hk).symm⟩)
        simpa using hne
      rw [List.flatMap_cons, List.eraseDups_append, eraseDups_replicate hpos, hkept, ih hnd hcount,
        List.map_cons, List.singleton_append]

/-- The elements at the places below a bound are those of a prefix. -/
theorem filterMap_getElem?_range (l : List α) (f : α × Nat → β) (n : Nat) :
    ((List.range n).filterMap fun k => l[k]?.map fun a => f (a, k)) = (l.take n).zipIdx.map f := by
  induction n with
  | zero => rfl
  | succ n ih =>
      rw [List.range_succ, List.filterMap_append, ih, List.take_add_one, List.zipIdx_append,
        List.map_append]
      congr 1
      cases h : l[n]? with
      | none => simp [h]
      | some a =>
          have hlen : (l.take n).length = n :=
            List.length_take_of_le (Nat.le_of_lt (List.getElem?_eq_some_iff.mp h).1)
          simp [h, hlen]

/-- In a list without repetitions an element is none of those before it and behind it. -/
theorem not_mem_rest_of_nodup {l : List α} (hnd : l.Nodup) {k : Nat} {a : α}
    (h : l[k]? = some a) : a ∉ l.take k ++ l.drop (k + 1) := by
  obtain ⟨hk, rfl⟩ := List.getElem?_eq_some_iff.mp h
  rw [← List.take_append_drop k l, List.drop_eq_getElem_cons hk, List.nodup_middle] at hnd
  exact (List.nodup_cons.mp hnd).1

/-- What stands between two separators has none in it. -/
theorem not_mem_of_mem_splitOn [BEq κ] [LawfulBEq κ] {sep : κ} {l part : List κ}
    (h : part ∈ l.splitOn sep) : sep ∉ part := by
  induction l generalizing part with
  | nil =>
      rw [List.splitOn_nil, List.mem_singleton] at h
      simp [h]
  | cons a l ih =>
      rw [List.splitOn_cons_eq_if_modifyHead] at h
      by_cases ha : (a == sep) = true
      · rw [if_pos ha] at h
        rcases List.mem_cons.mp h with rfl | h
        · exact List.not_mem_nil
        · exact ih h
      · rw [if_neg ha] at h
        obtain ⟨first, parts, hsplit⟩ := List.exists_cons_of_ne_nil (List.splitOn_ne_nil sep l)
        rw [hsplit] at h ih
        rcases List.mem_cons.mp h with rfl | h
        · have hne : sep ≠ a := fun heq => ha (beq_iff_eq.mpr heq.symm)
          exact List.not_mem_cons_of_ne_of_not_mem hne (ih List.mem_cons_self)
        · exact ih (List.mem_cons_of_mem first h)

/-! ## Related lists -/

variable {R : α → β → Prop} {l : List α} {r : List β}

theorem exists_left_of_forall₂ (h : List.Forall₂ R l r) {b : β} (hb : b ∈ r) : ∃ a ∈ l, R a b := by
  induction h with
  | nil => cases hb
  | @cons a b' l r hab _ ih =>
      rcases List.mem_cons.mp hb with rfl | hmem
      · exact ⟨a, List.mem_cons_self, hab⟩
      · obtain ⟨a', ha', h'⟩ := ih hmem
        exact ⟨a', List.mem_cons_of_mem a ha', h'⟩

theorem exists_right_of_forall₂ (h : List.Forall₂ R l r) {a : α} (ha : a ∈ l) :
    ∃ b ∈ r, R a b := by
  obtain ⟨b, hb, hab⟩ := exists_left_of_forall₂ (List.Forall₂.flip h) ha
  exact ⟨b, hb, hab⟩

theorem exists_getElem?_of_forall₂ (h : List.Forall₂ R l r) {k : Nat} {a : α}
    (ha : l[k]? = some a) : ∃ b, r[k]? = some b ∧ R a b := by
  obtain ⟨hk, rfl⟩ := List.getElem?_eq_some_iff.mp ha
  have hk' : k < r.length := h.length_eq ▸ hk
  exact ⟨r[k], List.getElem?_eq_getElem hk', h.get hk hk'⟩

theorem exists_forall₂_iff : (∃ r, List.Forall₂ R l r) ↔ ∀ a ∈ l, ∃ b, R a b := by
  induction l with
  | nil => exact iff_of_true ⟨[], .nil⟩ nofun
  | cons a l ih =>
      rw [List.forall_mem_cons, ← ih]
      constructor
      · rintro ⟨_, h⟩
        obtain ⟨b, bs, hab, hbs, rfl⟩ := List.forall₂_cons_left_iff.mp h
        exact ⟨⟨b, hab⟩, bs, hbs⟩
      · rintro ⟨⟨b, hab⟩, bs, hbs⟩
        exact ⟨b :: bs, .cons hab hbs⟩

theorem forall₂_comp {S : β → γ → Prop} {t : List γ} (h : List.Forall₂ R l r)
    (h' : List.Forall₂ S r t) : List.Forall₂ (fun a c => ∃ b, R a b ∧ S b c) l t := by
  induction h generalizing t with
  | nil =>
      cases h'
      exact .nil
  | cons hab _ ih =>
      cases h' with
      | cons hbc hrest => exact .cons ⟨_, hab, hbc⟩ (ih hrest)

/-- Related elements stand at the same places. -/
theorem forall₂_zipIdx (h : List.Forall₂ R l r) (n : Nat) :
    List.Forall₂ (fun a b => R a.1 b.1 ∧ a.2 = b.2) (l.zipIdx n) (r.zipIdx n) := by
  induction h generalizing n with
  | nil => exact .nil
  | cons hab _ ih => exact .cons ⟨hab, rfl⟩ (ih (n + 1))

theorem forall₂_filterMap {f : α → Option β} (h : ∀ a ∈ l, ∃ b, f a = some b) :
    List.Forall₂ (fun a b => f a = some b) l (l.filterMap f) := by
  induction l with
  | nil => exact .nil
  | cons a l ih =>
      obtain ⟨⟨b, hb⟩, hl⟩ := List.forall_mem_cons.mp h
      rw [List.filterMap_cons, hb]
      exact .cons hb (ih hl)

theorem forall₂_append_left {l₁ l₂ : List α} (h : List.Forall₂ R (l₁ ++ l₂) r) :
    ∃ r₁ r₂, r = r₁ ++ r₂ ∧ List.Forall₂ R l₁ r₁ ∧ List.Forall₂ R l₂ r₂ := by
  have hfirst := List.forall₂_take_append r l₁ l₂ (List.Forall₂.flip h)
  have hrest := List.forall₂_drop_append r l₁ l₂ (List.Forall₂.flip h)
  exact ⟨_, _, (List.take_append_drop _ r).symm, List.Forall₂.flip hfirst,
    List.Forall₂.flip hrest⟩

/-- What is related to the elements of a list stands as these do. -/
theorem pairwise_of_forall₂ {S : α → α → Prop} {T : β → β → Prop} (h : List.Forall₂ R l r)
    (hl : l.Pairwise S)
    (hST : ∀ a ∈ l, ∀ a' ∈ l, ∀ b b', R a b → R a' b' → S a a' → T b b') : r.Pairwise T := by
  induction h with
  | nil => exact .nil
  | @cons a b l r hab hrest ih =>
      obtain ⟨hfirst, hl⟩ := List.pairwise_cons.mp hl
      refine List.pairwise_cons.mpr ⟨fun b' hb' => ?_, ih hl fun a₁ h₁ a₂ h₂ => ?_⟩
      · obtain ⟨a', ha', hab'⟩ := exists_left_of_forall₂ hrest hb'
        exact hST a List.mem_cons_self a' (List.mem_cons_of_mem a ha') b b' hab hab' (hfirst a' ha')
      · exact hST a₁ (List.mem_cons_of_mem a h₁) a₂ (List.mem_cons_of_mem a h₂)

/-- What comes of pairing the elements with those they are related to. -/
theorem map_zip_of_forall₂ (h : List.Forall₂ R l r) {f : β × α → γ} {g : α → γ}
    (hfg : ∀ a b, R a b → f (b, a) = g a) : (r.zip l).map f = l.map g := by
  induction h with
  | nil => rfl
  | cons hab _ ih => rw [List.zip_cons_cons, List.map_cons, List.map_cons, hfg _ _ hab, ih]

theorem forall_mem_iff_of_forall₂ (h : List.Forall₂ R l r) {p : α → Prop} {q : β → Prop}
    (hpq : ∀ a b, R a b → (p a ↔ q b)) : (∀ a ∈ l, p a) ↔ ∀ b ∈ r, q b := by
  induction h with
  | nil => exact iff_of_true nofun nofun
  | cons hab _ ih => rw [List.forall_mem_cons, List.forall_mem_cons, hpq _ _ hab, ih]

theorem map_eq_of_forall₂ (h : List.Forall₂ R l r) {f : α → γ} {g : β → γ}
    (hfg : ∀ a b, R a b → f a = g b) : l.map f = r.map g := by
  induction h with
  | nil => rfl
  | cons hab _ ih => rw [List.map_cons, List.map_cons, hfg _ _ hab, ih]

/-- Searching related lists for what is marked in both alike finds the same. -/
theorem map_find?_of_forall₂ (h : List.Forall₂ R l r) {p : α → Bool} {q : β → Bool} {f : α → γ}
    {g : β → γ} (hpq : ∀ a b, R a b → p a = q b) (hfg : ∀ a b, R a b → f a = g b) :
    (l.find? p).map f = (r.find? q).map g := by
  induction h with
  | nil => rfl
  | @cons a b l r hab _ ih =>
      rw [List.find?_cons, List.find?_cons, hpq a b hab]
      cases q b with
      | true => exact congrArg some (hfg a b hab)
      | false => exact ih

/-- Results that give away the keys of what they were made from are distinct. -/
theorem nodup_map_of_forall₂ {key : α → κ} {f : β → γ} (h : List.Forall₂ R l r)
    (hl : (l.map key).Nodup)
    (hkey : ∀ a ∈ l, ∀ a' ∈ l, ∀ b b', R a b → R a' b' → f b = f b' → key a = key a') :
    (r.map f).Nodup := by
  refine List.pairwise_map.mpr (pairwise_of_forall₂ h (List.pairwise_map.mp hl) ?_)
  intro a ha a' ha' b b' hab hab' hne heq
  exact hne (hkey a ha a' ha' b b' hab hab' heq)

end RangeLab
