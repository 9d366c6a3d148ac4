import RangeLab.Ipv6
import RangeLab.Proofs.BlockText
import RangeLab.Proofs.Slug

/-!
# The syntax of IPv6 addresses

An address in writing is a list of *pieces* with colons between them, which stand for eight groups,
or two such lists with a gap between them that stands for what they lack (`IsText`). A piece is a
group, except that the last one may be an IPv4 address, which stands for two groups (`Pieces`).
The recogniser accepts this syntax and nothing else (`isAddress_iff`).

That it does rests on pieces being neither empty nor holding a colon: then the first two adjacent
colons of a text are the gap (`cutAtGap_joined`), and the pieces are read back from what they are
joined to (`parts_joined`).
-/

namespace RangeLab.Ipv6

/-! ## Pieces -/

/-- The list of pieces stands for so many groups. -/
inductive Pieces : List (List Char) → Nat → Prop
  | nil : Pieces [] 0
  | quad (a : Ipv4.Address) : Pieces [a.render.toList] 2
  | group {g : List Char} {pieces : List (List Char)} {n : Nat} (hg : isGroup g = true)
      (hpieces : Pieces pieces n) : Pieces (g :: pieces) (n + 1)

/-- The pieces with colons between them. -/
def joined (pieces : List (List Char)) : List Char := [':'].intercalate pieces

/-- The characters are an address in writing. A gap stands for one group at least. -/
inductive IsText : List Char → Prop
  | whole {pieces : List (List Char)} (h : Pieces pieces 8) : IsText (joined pieces)
  | gapped {before after : List (List Char)} {n : Nat} (hbefore : ∀ g ∈ before, isGroup g = true)
      (hafter : Pieces after n) (hle : before.length + n ≤ 7) :
      IsText (joined before ++ ':' :: ':' :: joined after)

/-- What is needed of the characters of a piece to tell it from the colons around it. -/
structure IsPiece (p : List Char) : Prop where
  ne_nil : p ≠ []
  chars : ∀ c ∈ p, c.isAlphanum = true ∨ c = '.'

theorem IsPiece.colon_not_mem {p : List Char} (h : IsPiece p) : ':' ∉ p :=
  fun hc => absurd (h.chars _ hc) (by decide)

theorem isAlphanum_of_isDigit {c : Char} (h : c.isDigit = true) : c.isAlphanum = true := by
  simp [Char.isAlphanum, h]

theorem isAlphanum_of_mem_group {g : List Char} (hg : isGroup g = true) {c : Char} (hc : c ∈ g) :
    c.isAlphanum = true := by
  simp only [isGroup, Bool.and_eq_true, List.all_eq_true, Bool.or_eq_true,
    decide_eq_true_eq] at hg
  rcases hg.2 c hc with (hdigit | ⟨hlo, hhi⟩) | ⟨hlo, hhi⟩
  · exact isAlphanum_of_isDigit hdigit
  · exact Slug.isAlphanum_iff.mpr (.inr (.inl ⟨hlo, UInt32.le_trans hhi (by decide)⟩))
  · exact Slug.isAlphanum_iff.mpr (.inl ⟨hlo, UInt32.le_trans hhi (by decide)⟩)

theorem isPiece_of_isGroup {g : List Char} (hg : isGroup g = true) : IsPiece g where
  ne_nil := by rintro rfl; cases hg
  chars := fun _ hc => .inl (isAlphanum_of_mem_group hg hc)

theorem dot_mem_render (a : Ipv4.Address) : '.' ∈ a.render.toList := by
  rw [a.toList_render]
  simp [List.intercalate_cons_cons]

theorem isPiece_render (a : Ipv4.Address) : IsPiece a.render.toList where
  ne_nil := List.ne_nil_of_mem (dot_mem_render a)
  chars := fun _ hc => (a.isQuad_render.isDigit_or_dot hc).imp_left isAlphanum_of_isDigit

theorem isGroup_render (a : Ipv4.Address) : isGroup a.render.toList = false :=
  Bool.eq_false_iff.mpr fun hg =>
    absurd (isAlphanum_of_mem_group hg (dot_mem_render a)) (by decide)

theorem Pieces.isPiece {pieces : List (List Char)} {n : Nat} (h : Pieces pieces n) :
    ∀ p ∈ pieces, IsPiece p := by
  induction h with
  | nil => exact fun _ hp => absurd hp List.not_mem_nil
  | quad a => exact List.forall_mem_singleton.mpr (isPiece_render a)
  | group hg _ ih => exact List.forall_mem_cons.mpr ⟨isPiece_of_isGroup hg, ih⟩

theorem groupCount_eq_some {pieces : List (List Char)} {n : Nat} :
    groupCount pieces = some n ↔ Pieces pieces n := by
  constructor
  · fun_induction groupCount pieces generalizing n with
    | case1 =>
        rintro ⟨⟩
        exact .nil
    | case2 last hg =>
        rintro ⟨⟩
        exact .group hg .nil
    | case3 last _ hquad =>
        rintro ⟨⟩
        obtain ⟨a, ha⟩ := Option.isSome_iff_exists.mp hquad
        exact Ipv4.Address.ofPlainQuad?_eq_some.mp ha ▸ .quad a
    | case4 => rintro ⟨⟩
    | case5 part pieces _ hg ih =>
        intro h
        obtain ⟨m, hm, rfl⟩ := Option.map_eq_some_iff.mp h
        exact .group hg (ih hm)
    | case6 => rintro ⟨⟩
  · intro h
    induction h with
    | nil => rfl
    | quad a =>
        have hread := Ipv4.Address.ofPlainQuad?_eq_some.mpr (rfl : a.render.toList = _)
        simp [groupCount, isGroup_render, hread]
    | @group g pieces n hg hpieces ih =>
        cases pieces with
        | nil =>
            cases hpieces
            simp [groupCount, hg]
        | cons p pieces => simp [groupCount, hg, ih]

/-! ## Joining and cutting -/

theorem joined_cons_cons (p q : List Char) (pieces : List (List Char)) :
    joined (p :: q :: pieces) = p ++ ':' :: joined (q :: pieces) := by
  simp [joined, List.intercalate_cons_cons]

theorem joined_parts (cs : List Char) : joined (parts cs) = cs := by
  unfold parts
  split
  · rename_i hempty
    rw [List.isEmpty_iff.mp hempty]
    rfl
  · exact List.intercalate_splitOn ':'

/-- A text that begins with a piece begins with another character than a colon. -/
theorem head?_joined_append {p : List Char} (hp : IsPiece p) (pieces : List (List Char))
    (rest : List Char) : (joined (p :: pieces) ++ rest).head? ≠ some ':' := by
  obtain ⟨c, p', rfl⟩ := List.exists_cons_of_ne_nil hp.ne_nil
  have hc : c ≠ ':' := fun h => hp.colon_not_mem (h ▸ List.mem_cons_self)
  cases pieces <;> simpa [joined, List.intercalate_cons_cons] using hc

theorem parts_joined {pieces : List (List Char)} (h : ∀ p ∈ pieces, IsPiece p) :
    parts (joined pieces) = pieces := by
  cases pieces with
  | nil => rfl
  | cons p pieces =>
      have hhead := head?_joined_append (h p List.mem_cons_self) pieces [':']
      have hne : (joined (p :: pieces)).isEmpty = false :=
        List.isEmpty_eq_false_iff.mpr fun hnil => hhead (by rw [hnil]; rfl)
      rw [parts, hne, if_neg Bool.false_ne_true]
      exact List.splitOn_intercalate ':' (fun q hq => (h q hq).colon_not_mem)
        (List.cons_ne_nil _ _)

theorem cutAtGap_cons {c : Char} {cs : List Char} (h : c = ':' → cs.head? ≠ some ':') :
    cutAtGap (c :: cs) = (cutAtGap cs).map (Prod.map (c :: ·) id) := by
  rw [cutAtGap]
  · rfl
  · rintro cs' rfl rfl
    exact h rfl rfl

theorem cutAtGap_append {cs : List Char} (h : ':' ∉ cs) (rest : List Char) :
    cutAtGap (cs ++ rest) = (cutAtGap rest).map (Prod.map (cs ++ ·) id) := by
  induction cs with
  | nil => exact (congrFun Option.map_id _).symm
  | cons c cs ih =>
      have hc : c ≠ ':' := fun heq => h (heq ▸ List.mem_cons_self)
      rw [List.cons_append, cutAtGap_cons fun heq => absurd heq hc,
        ih fun hcs => h (List.mem_cons_of_mem c hcs), Option.map_map]
      rfl

/-- Pieces that are joined hold no gap, so a gap is found behind them. -/
theorem cutAtGap_joined {pieces : List (List Char)} (h : ∀ p ∈ pieces, IsPiece p)
    (rest : List Char) :
    cutAtGap (joined pieces ++ rest) = (cutAtGap rest).map (Prod.map (joined pieces ++ ·) id) := by
  induction pieces with
  | nil => exact (congrFun Option.map_id _).symm
  | cons p pieces ih =>
      obtain ⟨hp, hpieces⟩ := List.forall_mem_cons.mp h
      cases pieces with
      | nil =>
          rw [joined, List.intercalate_singleton]
          exact cutAtGap_append hp.colon_not_mem rest
      | cons q pieces =>
          have hhead := head?_joined_append (hpieces q List.mem_cons_self) pieces rest
          rw [joined_cons_cons, List.append_assoc, List.cons_append,
            cutAtGap_append hp.colon_not_mem, cutAtGap_cons fun _ => hhead, ih hpieces,
            Option.map_map, Option.map_map]
          congr 1
          funext cut
          simp [Prod.map]

theorem eq_of_cutAtGap {cs before after : List Char} (h : cutAtGap cs = some (before, after)) :
    cs = before ++ ':' :: ':' :: after := by
  induction cs using cutAtGap.induct generalizing before with
  | case1 cs =>
      rw [cutAtGap] at h
      cases h
      rfl
  | case2 c cs hgap ih =>
      have hhead : c = ':' → cs.head? ≠ some ':' := by
        intro hc hcs
        obtain ⟨rest, hrest⟩ := List.head?_eq_some_iff.mp hcs
        exact hgap rest hc hrest
      rw [cutAtGap_cons hhead] at h
      obtain ⟨⟨b, a⟩, hcut, heq⟩ := Option.map_eq_some_iff.mp h
      cases heq
      rw [ih hcut]
      rfl
  | case3 => cases h

/-! ## Recognising an address -/

theorem isAddress_of_cut {cs before after : List Char} (h : cutAtGap cs = some (before, after)) :
    isAddress cs = true ↔ (∀ g ∈ parts before, isGroup g = true)
      ∧ ∃ n, groupCount (parts after) = some n ∧ (parts before).length + n ≤ 7 := by
  rw [isAddress, h]
  cases hcount : groupCount (parts after) <;> simp [hcount]

theorem isAddress_iff {cs : List Char} : isAddress cs = true ↔ IsText cs := by
  constructor
  · intro h
    cases hcut : cutAtGap cs with
    | none =>
        rw [isAddress, hcut] at h
        have hcount := groupCount_eq_some.mp (eq_of_beq h)
        exact joined_parts cs ▸ .whole hcount
    | some cut =>
        obtain ⟨before, after⟩ := cut
        obtain ⟨hbefore, n, hafter, hle⟩ := (isAddress_of_cut hcut).mp h
        have htext := IsText.gapped hbefore (groupCount_eq_some.mp hafter) hle
        rw [joined_parts, joined_parts] at htext
        exact eq_of_cutAtGap hcut ▸ htext
  · intro h
    cases h with
    | @whole pieces hpieces =>
        have hcut := cutAtGap_joined hpieces.isPiece []
        rw [List.append_nil, cutAtGap, Option.map_none] at hcut
        rw [isAddress, hcut, parts_joined hpieces.isPiece, groupCount_eq_some.mpr hpieces]
        rfl
    | @gapped before after n hbefore hafter hle =>
        have hpieces : ∀ g ∈ before, IsPiece g := fun g hg => isPiece_of_isGroup (hbefore g hg)
        have hcut := cutAtGap_joined hpieces (':' :: ':' :: joined after)
        rw [cutAtGap, Option.map_some, Prod.map_apply, List.append_nil, id] at hcut
        rw [isAddress_of_cut hcut, parts_joined hpieces, parts_joined hafter.isPiece]
        exact ⟨hbefore, n, groupCount_eq_some.mpr hafter, hle⟩

/-- Without a colon there is one piece at most, and it does not stand for eight groups. -/
theorem IsText.colon_mem {cs : List Char} (h : IsText cs) : ':' ∈ cs := by
  cases h with
  | whole hpieces =>
      cases hpieces with
      | @group g pieces _ _ hrest =>
        cases hrest with
        | group _ _ => rw [joined_cons_cons]; simp
  | gapped => simp

end RangeLab.Ipv6
