import RangeLab.Proofs.Ipv6

/-!
# Reading the block of a lab

The text that a lab gives for its block may be a block in writing, or have an IPv6 address before
its first slash, or neither; it is never both (`not_isIpv6_of_isWritten`). So the order of the
checks makes no difference to what the reader says (`readRoot_eq_iff`), and each of its outcomes has
a condition of its own (`root_blocks_read`).

A block whose address has bits set beyond the length is refused, and the fault names the block that
the address belongs to. That is the only block of the length with the address among its own and
without such bits (`eq_truncated_iff`), and it would have been accepted.
-/

namespace RangeLab.Ipv4.Block

/-! ## Host bits -/

/-- No bit of the address is set beyond the length. -/
def NoHostBits (b : Block) : Prop := ∀ i < 32 - b.length, b.address.toNat.testBit i = false

instance (b : Block) : Decidable b.NoHostBits :=
  inferInstanceAs (Decidable (∀ i < 32 - b.length, b.address.toNat.testBit i = false))

theorem low_bits_clear_iff {n k : Nat} : (∀ i < k, n.testBit i = false) ↔ 2 ^ k ∣ n := by
  rw [Nat.dvd_iff_mod_eq_zero]
  constructor
  · intro h
    refine Nat.eq_of_testBit_eq fun i => ?_
    rw [Nat.testBit_mod_two_pow, Nat.zero_testBit, Bool.and_eq_false_imp]
    exact fun hi => h i (of_decide_eq_true hi)
  · intro h i hi
    have hbit := Nat.testBit_mod_two_pow n k i
    rw [h, Nat.zero_testBit, decide_eq_true hi, Bool.true_and] at hbit
    exact hbit.symm

theorem noHostBits_iff {b : Block} : b.NoHostBits ↔ b.base = b.address.toNat := by
  rw [NoHostBits, low_bits_clear_iff, ← size_eq]
  constructor
  · exact Nat.div_mul_cancel
  · intro h
    exact h ▸ b.size_dvd_base

theorem hasHostBits_eq_false {b : Block} : b.hasHostBits = false ↔ b.NoHostBits := by
  rw [hasHostBits, bne_eq_false_iff_eq, noHostBits_iff, eq_comm]

theorem toNat_address_truncated (b : Block) : b.truncated.address.toNat = b.base :=
  Address.toNat_ofNat (Nat.lt_of_le_of_lt b.base_le b.address.toNat_lt)

theorem noHostBits_truncated (b : Block) : b.truncated.NoHostBits := by
  rw [noHostBits_iff, base_truncated, toNat_address_truncated]

theorem address_mem (b : Block) : b.address ∈ b :=
  ⟨b.base_le, Nat.lt_div_mul_add b.size_pos⟩

theorem base_eq_of_mem {b n : Block} (hsize : n.size = b.size) (h : b.address ∈ n) :
    b.base = n.base := by
  obtain ⟨hlo, hhi⟩ := mem_iff.mp h
  obtain ⟨k, hk⟩ := n.size_dvd_base
  have hdiv : b.address.toNat / b.size = k := by
    rw [hk, Nat.mul_comm, hsize] at hlo hhi
    exact Nat.div_eq_of_lt_le hlo (by rwa [Nat.succ_mul])
  rw [base, hdiv, ← hsize, hk, Nat.mul_comm]

/-- The block that is named in place of one with host bits is the block of its length that holds
the address. -/
theorem eq_truncated_iff {b n : Block} :
    n = b.truncated ↔ n.NoHostBits ∧ n.length = b.length ∧ b.address ∈ n := by
  constructor
  · rintro rfl
    exact ⟨b.noHostBits_truncated, rfl, mem_truncated.mpr b.address_mem⟩
  · rintro ⟨hbits, hlen, hmem⟩
    have hsize : n.size = b.size := by rw [size, size, hlen]
    have haddress : n.address = b.truncated.address := by
      rw [← Address.toNat_inj, toNat_address_truncated, base_eq_of_mem hsize hmem,
        noHostBits_iff.mp hbits]
    cases n
    obtain rfl := haddress
    obtain rfl := hlen
    rfl

/-! ## What a text can be -/

/-- An IPv6 address stands before the first slash of the text. -/
def IsIpv6 (s : String) : Prop :=
  ∃ before after, s.toList = before ++ '/' :: after ∧ '/' ∉ before ∧ Ipv6.IsText before

theorem takeWhile_ne_slash {before : List Char} (h : '/' ∉ before) (after : List Char) :
    (before ++ '/' :: after).takeWhile (· ≠ '/') = before := by
  rw [List.takeWhile_append_of_pos]
  · simp
  · intro c hc
    exact decide_eq_true fun heq => h (heq ▸ hc)

theorem isIpv6_iff {s : String} :
    IsIpv6 s ↔ '/' ∈ s.toList ∧ Ipv6.isAddress (s.toList.takeWhile (· ≠ '/')) = true := by
  rw [Ipv6.isAddress_iff]
  constructor
  · rintro ⟨before, after, hs, hslash, htext⟩
    rw [hs, takeWhile_ne_slash hslash]
    exact ⟨by simp, htext⟩
  · rintro ⟨hmem, htext⟩
    obtain ⟨before, after, hs, hslash⟩ := List.eq_append_cons_of_mem hmem
    rw [hs, takeWhile_ne_slash hslash] at htext
    exact ⟨before, after, hs, hslash, htext⟩

/-- An IPv6 address has a colon, and the quad of a block has none. -/
theorem not_isIpv6_of_isWritten {s : String} {b : Block} (h : b.IsWritten s) : ¬IsIpv6 s := by
  rintro ⟨before, after, hs, hslash, htext⟩
  obtain ⟨quad, length, hs', hquad, -⟩ := h
  have hbefore : quad = before := by
    rw [← takeWhile_ne_slash (slash_not_mem_quad hquad) length, ← hs', hs,
      takeWhile_ne_slash hslash]
  exact absurd (hquad.isDigit_or_dot (hbefore ▸ htext.colon_mem)) (by decide)

theorem slash_mem_of_isWritten {s : String} {b : Block} (h : b.IsWritten s) : '/' ∈ s.toList := by
  obtain ⟨quad, length, hs, -⟩ := h
  simp [hs]

/-! ## The outcomes -/

theorem readRoot_of_isIpv6 {s : String} (h : IsIpv6 s) : readRoot s = .error (.notIpv4 s) := by
  obtain ⟨hslash, htext⟩ := isIpv6_iff.mp h
  rw [readRoot, if_neg (not_not_intro hslash), if_pos htext]

theorem readRoot_of_isWritten {s : String} {b : Block} (h : b.IsWritten s) :
    readRoot s = if b.hasHostBits then .error (.hostBits s b.truncated) else .ok b := by
  have hslash := slash_mem_of_isWritten h
  have hquad := fun htext => not_isIpv6_of_isWritten h (isIpv6_iff.mpr ⟨hslash, htext⟩)
  rw [readRoot, if_neg (not_not_intro hslash), if_neg hquad]
  simp only [ofText?_eq_some.mpr h]

theorem readRoot_of_noHostBits {s : String} {b : Block} (h : b.IsWritten s) (hb : b.NoHostBits) :
    readRoot s = .ok b := by
  rw [readRoot_of_isWritten h, hasHostBits_eq_false.mpr hb, if_neg Bool.false_ne_true]

theorem readRoot_of_hostBits {s : String} {b : Block} (h : b.IsWritten s) (hb : ¬b.NoHostBits) :
    readRoot s = .error (.hostBits s b.truncated) := by
  have hbits : b.hasHostBits = true := eq_true_of_ne_false (mt hasHostBits_eq_false.mp hb)
  rw [readRoot_of_isWritten h, if_pos hbits]

theorem readRoot_of_neither {s : String} (hwritten : ∀ b : Block, ¬b.IsWritten s)
    (h : ¬IsIpv6 s) : readRoot s = .error (.malformed s) := by
  by_cases hslash : '/' ∈ s.toList
  · have hnone : ofText? s = none :=
      Option.eq_none_iff_forall_ne_some.mpr fun b hb => hwritten b (ofText?_eq_some.mp hb)
    have hother := fun htext => h (isIpv6_iff.mpr ⟨hslash, htext⟩)
    rw [readRoot, if_neg (not_not_intro hslash), if_neg hother]
    simp only [hnone]
  · rw [readRoot, if_pos hslash]

/-- What is to be said of a text, by what it is. -/
inductive Outcome (s : String) : Except BlockFault Block → Prop
  | accepted {b : Block} (hw : b.IsWritten s) (hb : b.NoHostBits) : Outcome s (.ok b)
  | named {b : Block} (hw : b.IsWritten s) (hb : ¬b.NoHostBits) :
      Outcome s (.error (.hostBits s b.truncated))
  | ipv6 (h : IsIpv6 s) : Outcome s (.error (.notIpv4 s))
  | neither (hw : ∀ b : Block, ¬b.IsWritten s) (h : ¬IsIpv6 s) : Outcome s (.error (.malformed s))

theorem outcome_readRoot (s : String) : Outcome s (readRoot s) := by
  by_cases hwritten : ∃ b : Block, b.IsWritten s
  · obtain ⟨b, hw⟩ := hwritten
    by_cases hb : b.NoHostBits
    · rw [readRoot_of_noHostBits hw hb]
      exact .accepted hw hb
    · rw [readRoot_of_hostBits hw hb]
      exact .named hw hb
  · have hnone := not_exists.mp hwritten
    by_cases h : IsIpv6 s
    · rw [readRoot_of_isIpv6 h]
      exact .ipv6 h
    · rw [readRoot_of_neither hnone h]
      exact .neither hnone h

theorem readRoot_eq_iff {s : String} {r : Except BlockFault Block} :
    readRoot s = r ↔ Outcome s r := by
  constructor
  · rintro rfl
    exact outcome_readRoot s
  · intro h
    cases h with
    | accepted hw hb => exact readRoot_of_noHostBits hw hb
    | named hw hb => exact readRoot_of_hostBits hw hb
    | ipv6 h => exact readRoot_of_isIpv6 h
    | neither hw h => exact readRoot_of_neither hw h

theorem readRoot_eq_ok {s : String} {b : Block} :
    readRoot s = .ok b ↔ b.IsWritten s ∧ b.NoHostBits := by
  rw [readRoot_eq_iff]
  constructor
  · intro h
    cases h with
    | accepted hw hb => exact ⟨hw, hb⟩
  · rintro ⟨hw, hb⟩
    exact .accepted hw hb

theorem readRoot_eq_hostBits {s t : String} {n : Block} :
    readRoot s = .error (.hostBits t n) ↔
      t = s ∧ ∃ b : Block, b.IsWritten s ∧ ¬b.NoHostBits ∧ n = b.truncated := by
  rw [readRoot_eq_iff]
  constructor
  · intro h
    cases h with
    | named hw hb => exact ⟨rfl, _, hw, hb, rfl⟩
  · rintro ⟨rfl, b, hw, hb, rfl⟩
    exact .named hw hb

theorem readRoot_eq_notIpv4 {s t : String} :
    readRoot s = .error (.notIpv4 t) ↔ t = s ∧ IsIpv6 s := by
  rw [readRoot_eq_iff]
  constructor
  · intro h
    cases h with
    | ipv6 h => exact ⟨rfl, h⟩
  · rintro ⟨rfl, h⟩
    exact .ipv6 h

theorem readRoot_eq_malformed {s t : String} :
    readRoot s = .error (.malformed t) ↔ t = s ∧ (∀ b : Block, ¬b.IsWritten s) ∧ ¬IsIpv6 s := by
  rw [readRoot_eq_iff]
  constructor
  · intro h
    cases h with
    | neither hw h => exact ⟨rfl, hw, h⟩
  · rintro ⟨rfl, hw, h⟩
    exact .neither hw h

theorem readRoot_render {b : Block} (hb : b.NoHostBits) : readRoot b.render = .ok b :=
  readRoot_of_noHostBits b.isWritten_render hb

/-- What is said of a text that a lab gives for its block. A block in writing without host bits is
accepted, and so is the way it is rendered. Of one with host bits, the block of its length that
holds the address is named, which would be accepted. A text with an IPv6 address before its first
slash is told apart, and all other texts are malformed. -/
theorem root_blocks_read (s : String) :
    (∀ b, readRoot s = .ok b ↔ b.IsWritten s ∧ b.NoHostBits)
      ∧ (∀ b, readRoot s = .ok b → readRoot b.render = .ok b)
      ∧ (∀ b : Block, b.IsWritten s → ¬b.NoHostBits →
          ∃ n, readRoot s = .error (.hostBits s n) ∧ readRoot n.render = .ok n
            ∧ ∀ m : Block, m = n ↔ m.NoHostBits ∧ m.length = b.length ∧ b.address ∈ m)
      ∧ (∀ t n, readRoot s = .error (.hostBits t n) →
          t = s ∧ ∃ b : Block, b.IsWritten s ∧ ¬b.NoHostBits)
      ∧ (∀ t, readRoot s = .error (.notIpv4 t) ↔ t = s ∧ IsIpv6 s)
      ∧ ∀ t, readRoot s = .error (.malformed t) ↔
          t = s ∧ (∀ b : Block, ¬b.IsWritten s) ∧ ¬IsIpv6 s := by
  refine ⟨fun b => readRoot_eq_ok, fun b h => ?accepted, fun b hw hb => ?named, fun t n h => ?host,
    fun t => readRoot_eq_notIpv4, fun t => readRoot_eq_malformed⟩
  case accepted => exact readRoot_render (readRoot_eq_ok.mp h).2
  case named =>
    exact ⟨b.truncated, readRoot_of_hostBits hw hb, readRoot_render b.noHostBits_truncated,
      fun m => eq_truncated_iff⟩
  case host =>
    obtain ⟨ht, b, hw, hb, -⟩ := readRoot_eq_hostBits.mp h
    exact ⟨ht, b, hw, hb⟩

/-- A text for each outcome. Zeros may stand before an octet, and an IPv4 address may be the end of
an IPv6 one. -/
theorem root_blocks_read_each :
    ∃ b, readRoot "10.0.0.0/16" = .ok b ∧ readRoot b.render = .ok b
      ∧ readRoot "010.0.3.0/16" = .error (.hostBits "010.0.3.0/16" b)
      ∧ readRoot "::ffff:10.0.0.0/16" = .error (.notIpv4 "::ffff:10.0.0.0/16")
      ∧ readRoot "10.0.0.0" = .error (.malformed "10.0.0.0") := by
  let b : Block := ⟨.ofNat (10 <<< 24), 16, by decide⟩
  let high : Block := ⟨.ofNat (10 <<< 24 + 3 <<< 8), 16, by decide⟩
  have hb : b.IsWritten "10.0.0.0/16" :=
    ⟨"10.0.0.0".toList, ['1', '6'], by decide,
      ⟨['1', '0'], ['0'], ['0'], ['0'], by decide, by decide, by decide⟩, by decide⟩
  have hhigh : high.IsWritten "010.0.3.0/16" :=
    ⟨"010.0.3.0".toList, ['1', '6'], by decide,
      ⟨['0', '1', '0'], ['0'], ['3'], ['0'], by decide, by decide, by decide⟩, by decide⟩
  have hipv6 : IsIpv6 "::ffff:10.0.0.0/16" :=
    ⟨"::ffff:10.0.0.0".toList, ['1', '6'], by decide, by decide,
      Ipv6.isAddress_iff.mp (by decide)⟩
  obtain ⟨haccepts, hrendered, -⟩ := root_blocks_read "10.0.0.0/16"
  obtain ⟨-, -, hnames, -⟩ := root_blocks_read "010.0.3.0/16"
  obtain ⟨-, -, -, -, htells, -⟩ := root_blocks_read "::ffff:10.0.0.0/16"
  obtain ⟨-, -, -, -, -, hmalformed⟩ := root_blocks_read "10.0.0.0"
  have hread := (haccepts b).mpr ⟨hb, by decide⟩
  obtain ⟨n, hnamed, -, hn⟩ := hnames high hhigh (by decide)
  obtain rfl : b = n := (hn b).mpr ⟨by decide, by decide, by decide, by decide⟩
  refine ⟨b, hread, hrendered b hread, hnamed, (htells _).mpr ⟨rfl, hipv6⟩,
    (hmalformed _).mpr ⟨rfl, fun b hb => ?_, fun h => ?_⟩⟩
  · exact absurd (slash_mem_of_isWritten hb) (by decide)
  · exact absurd (isIpv6_iff.mp h).1 (by decide)

end RangeLab.Ipv4.Block
