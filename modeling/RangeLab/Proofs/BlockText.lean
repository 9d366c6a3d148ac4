import RangeLab.Proofs.Block
import RangeLab.Proofs.Numeral

/-!
# Addresses and blocks in writing

An address is written as a *quad*, four octets with dots between them, and a block as a quad, a
slash and a length. `Address.IsQuad` and `Block.IsWritten` say what the written forms are, and the
readers accept these and nothing else (`Address.ofQuad?_eq_some`, `Block.ofText?_eq_some`).

An address has many quads, since octets may begin with zeros. Rendering it gives one of them, the
only one without such zeros (`Address.ofPlainQuad?_eq_some`), so a block is read back from the way
it is rendered (`Block.ofText?_render`).
-/

namespace RangeLab.Ipv4

namespace Address

/-! ## Octets -/

/-- The characters are an octet: one to three decimal digits with a value of at most 255. -/
structure IsOctet (cs : List Char) : Prop where
  run : Numeral.isRun cs = true
  length_le : cs.length ≤ 3
  value_le : Numeral.value cs ≤ 255

instance (cs : List Char) : Decidable (IsOctet cs) :=
  decidable_of_iff (Numeral.isRun cs = true ∧ cs.length ≤ 3 ∧ Numeral.value cs ≤ 255)
    ⟨fun ⟨run, length_le, value_le⟩ => ⟨run, length_le, value_le⟩,
      fun h => ⟨h.run, h.length_le, h.value_le⟩⟩

theorem octet?_eq_some {cs : List Char} {n : Nat} :
    octet? cs = some n ↔ IsOctet cs ∧ Numeral.value cs = n := by
  constructor
  · intro h
    unfold octet? at h
    split at h
    · rename_i hread
      simp only [Bool.and_eq_true, decide_eq_true_eq] at hread
      exact ⟨⟨hread.1.1, hread.1.2, hread.2⟩, Option.some.inj h⟩
    · cases h
  · rintro ⟨ho, rfl⟩
    simp [octet?, ho.run, ho.length_le, ho.value_le]

theorem isOctet_digits {n : Nat} (hn : n < 256) : IsOctet (Numeral.digits n) where
  run := Numeral.isRun_digits n
  length_le := (Nat.length_toDigits_le_iff (by decide) (by decide)).mpr (by omega)
  value_le := by rw [Numeral.value_digits]; omega

theorem IsOctet.isDigit {cs : List Char} (h : IsOctet cs) {c : Char} (hc : c ∈ cs) :
    c.isDigit = true :=
  Numeral.isDigit_of_mem_run h.run hc

theorem IsOctet.dot_not_mem {cs : List Char} (h : IsOctet cs) : '.' ∉ cs :=
  fun hc => absurd (h.isDigit hc) (by decide)

/-- The four octets of an address are those of its number to the base 256. -/
theorem toNat_eq_iff {a : Address} {w x y z : Nat} (hw : w ≤ 255) (hx : x ≤ 255) (hy : y ≤ 255)
    (hz : z ≤ 255) :
    a.toNat = w * 2 ^ 24 + x * 2 ^ 16 + y * 2 ^ 8 + z
      ↔ a.octet 24 = w ∧ a.octet 16 = x ∧ a.octet 8 = y ∧ a.octet 0 = z := by
  have hlt := a.toNat_lt
  simp only [octet, Nat.shiftRight_eq_div_pow]
  omega

theorem octet_lt (a : Address) (shift : Nat) : a.octet shift < 256 := Nat.mod_lt _ (by decide)

/-! ## Quads -/

/-- The characters are a quad of the address: four octets, the highest first, with dots between
them. -/
def IsQuad (a : Address) (cs : List Char) : Prop :=
  ∃ w x y z, (∀ o ∈ [w, x, y, z], IsOctet o) ∧ cs = ['.'].intercalate [w, x, y, z]
    ∧ a.toNat = Numeral.value w * 2 ^ 24 + Numeral.value x * 2 ^ 16 + Numeral.value y * 2 ^ 8
      + Numeral.value z

theorem splitOn_octets {octets : List (List Char)} (h : ∀ o ∈ octets, IsOctet o)
    (hne : octets ≠ []) : (['.'].intercalate octets).splitOn '.' = octets :=
  List.splitOn_intercalate '.' (fun o ho => (h o ho).dot_not_mem) hne

theorem ofQuad?_eq_some {cs : List Char} {a : Address} : ofQuad? cs = some a ↔ a.IsQuad cs := by
  constructor
  · intro h
    unfold ofQuad? at h
    split at h
    · rename_i hsplit
      simp only [List.map_eq_cons_iff, List.map_eq_nil_iff, octet?_eq_some] at hsplit
      obtain ⟨w, -, hcs, ⟨hw, rfl⟩, x, -, rfl, ⟨hx, rfl⟩, y, -, rfl, ⟨hy, rfl⟩, z, -, rfl,
        ⟨hz, rfl⟩, rfl⟩ := hsplit
      obtain rfl := Option.some.inj h
      refine ⟨w, x, y, z, by simp [hw, hx, hy, hz], ?_, ?_⟩
      · rw [← hcs, List.intercalate_splitOn]
      · have := hw.value_le
        have := hx.value_le
        have := hy.value_le
        have := hz.value_le
        simp only [Nat.shiftLeft_eq]
        exact toNat_ofNat (by omega)
    · cases h
  · rintro ⟨w, x, y, z, ho, rfl, ha⟩
    have hread : ∀ o ∈ [w, x, y, z], octet? o = some (Numeral.value o) :=
      fun o hmem => octet?_eq_some.mpr ⟨ho o hmem, rfl⟩
    rw [ofQuad?, splitOn_octets ho (List.cons_ne_nil _ _), List.map_congr_left hread]
    show some (ofNat _) = some a
    simp only [Nat.shiftLeft_eq, ← ha]
    exact congrArg some (toNat_inj.mp (toNat_ofNat a.toNat_lt))

theorem IsQuad.isDigit_or_dot {a : Address} {cs : List Char} (h : a.IsQuad cs) {c : Char}
    (hc : c ∈ cs) : c.isDigit = true ∨ c = '.' := by
  obtain ⟨w, x, y, z, ho, rfl, -⟩ := h
  simp only [List.forall_mem_cons] at ho
  obtain ⟨hw, hx, hy, hz, -⟩ := ho
  simp only [List.intercalate_cons_cons, List.intercalate_singleton, List.mem_append,
    List.mem_singleton] at hc
  rcases hc with (hc | rfl) | (hc | rfl) | (hc | rfl) | hc
  · exact .inl (hw.isDigit hc)
  · exact .inr rfl
  · exact .inl (hx.isDigit hc)
  · exact .inr rfl
  · exact .inl (hy.isDigit hc)
  · exact .inr rfl
  · exact .inl (hz.isDigit hc)

/-! ## The plain quad of an address -/

theorem toList_render (a : Address) :
    a.render.toList = ['.'].intercalate ([24, 16, 8, 0].map fun k => Numeral.digits (a.octet k)) :=
  String.toList_ofList

theorem isOctet_of_mem_render (a : Address) :
    ∀ o ∈ [24, 16, 8, 0].map fun k => Numeral.digits (a.octet k), IsOctet o := by
  intro o ho
  obtain ⟨k, -, rfl⟩ := List.mem_map.mp ho
  exact isOctet_digits (a.octet_lt k)

theorem isQuad_render (a : Address) : a.IsQuad a.render.toList := by
  refine ⟨_, _, _, _, a.isOctet_of_mem_render, a.toList_render, ?_⟩
  simp only [Numeral.value_digits]
  have hle : ∀ k, a.octet k ≤ 255 := fun k => Nat.le_of_lt_succ (a.octet_lt k)
  exact (toNat_eq_iff (hle 24) (hle 16) (hle 8) (hle 0)).mpr ⟨rfl, rfl, rfl, rfl⟩

theorem hasLeadingZero_digits (n : Nat) : hasLeadingZero (Numeral.digits n) = false := by
  rcases Nat.eq_zero_or_pos n with rfl | hpos
  · rfl
  · unfold hasLeadingZero
    split
    · rename_i heq
      exact absurd (congrArg List.head? heq) (Numeral.head?_digits_ne_zero hpos)
    · rfl

theorem digits_value_of_plain {cs : List Char} (ho : IsOctet cs) (hz : hasLeadingZero cs = false) :
    Numeral.digits (Numeral.value cs) = cs := by
  by_cases hhead : cs.head? = some '0'
  · obtain ⟨rest, rfl⟩ := List.head?_eq_some_iff.mp hhead
    cases rest with
    | nil => rfl
    | cons c cs => cases hz
  · exact Numeral.digits_value ho.run hhead

/-- The quad without zeros before other digits is the one that an address is rendered to. -/
theorem ofPlainQuad?_eq_some {cs : List Char} {a : Address} :
    ofPlainQuad? cs = some a ↔ a.render.toList = cs := by
  constructor
  · intro h
    unfold ofPlainQuad? at h
    split at h
    · cases h
    · rename_i hplain
      obtain ⟨w, x, y, z, ho, rfl, ha⟩ := ofQuad?_eq_some.mp h
      rw [splitOn_octets ho (List.cons_ne_nil _ _), Bool.not_eq_true, List.any_eq_false] at hplain
      have hdigits : ∀ o ∈ [w, x, y, z], Numeral.digits (Numeral.value o) = o :=
        fun o hmem => digits_value_of_plain (ho o hmem) (Bool.not_eq_true _ ▸ hplain o hmem)
      have hle : ∀ o ∈ [w, x, y, z], Numeral.value o ≤ 255 := fun o hmem => (ho o hmem).value_le
      simp only [List.forall_mem_cons] at hdigits hle
      obtain ⟨hw, hx, hy, hz, -⟩ := hle
      obtain ⟨h24, h16, h8, h0⟩ := (toNat_eq_iff hw hx hy hz).mp ha
      rw [toList_render]
      simp only [List.map_cons, List.map_nil, h24, h16, h8, h0, hdigits]
  · rintro rfl
    have hread := ofQuad?_eq_some.mpr a.isQuad_render
    rw [ofPlainQuad?, if_neg, hread]
    rw [Bool.not_eq_true, List.any_eq_false, toList_render,
      splitOn_octets a.isOctet_of_mem_render (List.cons_ne_nil _ _)]
    intro o ho
    obtain ⟨k, -, rfl⟩ := List.mem_map.mp ho
    rw [hasLeadingZero_digits]
    exact Bool.false_ne_true

end Address

/-! ## Blocks -/

namespace Block

/-- The text writes the block: a quad of its address, a slash, and its length in one or two
digits. -/
def IsWritten (b : Block) (s : String) : Prop :=
  ∃ quad length, s.toList = quad ++ '/' :: length ∧ b.address.IsQuad quad
    ∧ Numeral.isRun length = true ∧ length.length ≤ 2 ∧ Numeral.value length = b.length

theorem length?_eq_some {cs : List Char} {n : { n : Nat // n ≤ 32 }} :
    length? cs = some n ↔ Numeral.isRun cs = true ∧ cs.length ≤ 2 ∧ Numeral.value cs = n.val := by
  constructor
  · intro h
    unfold length? at h
    split at h
    · rename_i hread
      split at h
      · obtain rfl := Option.some.inj h
        simpa using hread
      · cases h
    · cases h
  · rintro ⟨hrun, hlen, hvalue⟩
    simp [length?, hrun, hlen, hvalue, n.property]

theorem slash_not_mem_quad {a : Address} {cs : List Char} (h : a.IsQuad cs) : '/' ∉ cs :=
  fun hc => absurd (h.isDigit_or_dot hc) (by decide)

theorem slash_not_mem_run {cs : List Char} (h : Numeral.isRun cs = true) : '/' ∉ cs :=
  fun hc => absurd (Numeral.isDigit_of_mem_run h hc) (by decide)

theorem ofText?_eq_some {s : String} {b : Block} : ofText? s = some b ↔ b.IsWritten s := by
  constructor
  · intro h
    unfold ofText? at h
    split at h
    · rename_i quad length hsplit
      simp only [Option.bind_eq_bind, Option.bind_eq_some_iff, Option.pure_def,
        Option.some.injEq] at h
      obtain ⟨a, hquad, n, hlength, rfl⟩ := h
      refine ⟨quad, length, ?_, Address.ofQuad?_eq_some.mp hquad, length?_eq_some.mp hlength⟩
      have hjoin : ['/'].intercalate (s.toList.splitOn '/') = s.toList :=
        List.intercalate_splitOn '/'
      rw [hsplit, List.intercalate_cons_cons, List.intercalate_singleton,
        List.append_assoc] at hjoin
      exact hjoin.symm
    · cases h
  · rintro ⟨quad, length, hs, hquad, hlength⟩
    have hread := length?_eq_some (n := ⟨b.length, b.length_le⟩).mpr hlength
    rw [ofText?, hs, List.splitOn_append_cons_self_of_not_mem (slash_not_mem_quad hquad),
      List.splitOn_eq_singleton (slash_not_mem_run hlength.1)]
    simp only [Address.ofQuad?_eq_some.mpr hquad, hread, Option.bind_eq_bind, Option.bind_some]
    rfl

theorem isWritten_render (b : Block) : b.IsWritten b.render := by
  refine ⟨b.address.render.toList, Numeral.digits b.length, ?_, b.address.isQuad_render,
    Numeral.isRun_digits _, ?_, Numeral.value_digits _⟩
  · simp only [render, String.toList_append, Nat.toString_eq_repr, Nat.toList_repr,
      List.append_assoc]
    rfl
  · have := b.length_le
    exact (Nat.length_toDigits_le_iff (by decide) (by decide)).mpr (by omega)

theorem ofText?_render (b : Block) : ofText? b.render = some b :=
  ofText?_eq_some.mpr b.isWritten_render

end Block

end RangeLab.Ipv4
