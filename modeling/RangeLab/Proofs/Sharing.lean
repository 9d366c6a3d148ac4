import Mathlib.Order.Bounds.Defs
import RangeLab.Proofs.Partition

/-!
# How a root block is shared out

A root block is refused iff it cannot be cut into enough parts for the instances, or these into
enough parts for the networks. Otherwise each network of each instance has one block, at a distance
from the root that is settled by the numbers of instance and network alone, and no two blocks meet
(`AddressPlan.make_shares_out`). Host bits of the root play no part.

The networks of an instance are told apart by as many bits as the power of two has that their number
is rounded up to. Beyond the largest power of two among words the rounding comes to 0, and the zeros
of that word are just the bits that it takes (`splitBits_eq`).
-/

namespace RangeLab

open Ipv4 (Address Block)

/-! ## Bits of powers of two -/

/-- The number of zeros that a number of so many bits ends in, which is all of them for 0. -/
def trailingZeros : Nat → Nat → Nat
  | 0, _ => 0
  | width + 1, n => if n % 2 = 1 then 0 else trailingZeros width (n / 2) + 1

/-- The least power of two that is not below a word. It is 0 if that power is no word. -/
def nextPowerOfTwo (n : UInt64) : UInt64 := UInt64.ofNat (2 ^ Nat.clog 2 n.toNat)

/-- The bits that tell `n` equal parts apart, as zeros of a power of two. -/
def splitBits (n : UInt64) : Nat := trailingZeros 64 (nextPowerOfTwo n).toNat

theorem trailingZeros_zero (width : Nat) : trailingZeros width 0 = width := by
  induction width with
  | zero => rfl
  | succ width ih => simp [trailingZeros, ih]

theorem trailingZeros_two_pow {width k : Nat} (h : k < width) :
    trailingZeros width (2 ^ k) = k := by
  induction width generalizing k with
  | zero => cases h
  | succ width ih =>
      cases k with
      | zero => simp [trailingZeros]
      | succ k =>
          have heven : 2 ^ (k + 1) % 2 = 0 := by omega
          have hhalf : 2 ^ (k + 1) / 2 = 2 ^ k := by omega
          simp [trailingZeros, heven, hhalf, ih (Nat.lt_of_succ_lt_succ h)]

/-- Rounding up to a power of two and counting its trailing zeros comes to the bits for a count. The
power one above the words is rounded to 0, which has as many zeros as a word has bits. -/
theorem splitBits_eq (n : UInt64) : splitBits n = bitsFor n.toNat := by
  have hle : Nat.clog 2 n.toNat ≤ 64 :=
    (Nat.clog_le_iff_le_pow Nat.one_lt_two).mpr (Nat.le_of_lt n.toNat_lt)
  rw [bitsFor_eq_clog, splitBits, nextPowerOfTwo, UInt64.toNat_ofNat']
  rcases Nat.lt_or_eq_of_le hle with hlt | heq
  · rw [Nat.mod_eq_of_lt (Nat.pow_lt_pow_right Nat.one_lt_two hlt), trailingZeros_two_pow hlt]
  · rw [heq, Nat.mod_self, trailingZeros_zero]

/-! ## Where the blocks lie -/

/-- A part of a block is given by its lowest address. -/
theorem Ipv4.Block.toNat_address_of_part {b p : Block} {bits k : Nat}
    (h : b.part? bits k = some p) : p.address.toNat = p.base := by
  have hbase := (part?_eq_some h).2.2.2
  have haddr : p.address = .ofNat p.base := by
    rw [hbase, size_eq]
    rw [part?_eq] at h
    split at h
    · split at h
      · obtain rfl := Option.some.inj h
        rfl
      · cases h
    · cases h
  have hlt : p.base < 2 ^ 32 := Nat.lt_of_le_of_lt p.base_le p.address.toNat_lt
  rw [haddr, Address.toNat_ofNat hlt]

namespace AddressPlan

variable {p : AddressPlan} {i : UInt32} {j : Nat} {b : Block}

/-- The block of a network lies behind those of the instances and networks before it. -/
theorem toNat_address_subnet (h : p.subnet? i j = some b) :
    b.address.toNat = p.root.base + i.toNat * 2 ^ (24 - p.root.length)
      + j * 2 ^ (24 - p.root.length - bitsFor p.networks) := by
  obtain ⟨-, block, hblock, hb⟩ := subnet?_eq_some h
  obtain ⟨-, hlen, -, hbase⟩ := Block.part?_eq_some hblock
  obtain ⟨-, hlen', -, hbase'⟩ := Block.part?_eq_some hb
  rw [instanceBits] at hlen
  have hsize : block.size = 2 ^ (24 - p.root.length) := by
    rw [Block.size_eq, hlen]
    congr 1
    omega
  have hsize' : b.size = 2 ^ (24 - p.root.length - bitsFor p.networks) := by
    rw [Block.size_eq, hlen', hlen]
    congr 1
    omega
  rw [Block.toNat_address_of_part hb, hbase', hbase, hsize, hsize']

theorem mem_entries : (i, j, b) ∈ p.entries ↔ p.subnet? i j = some b := by
  simp only [entries, List.mem_flatMap, List.mem_filterMap, Option.map_eq_some_iff,
    Prod.mk.injEq, mem_ordinals, List.mem_range]
  constructor
  · rintro ⟨_, -, _, -, _, h, rfl, rfl, rfl⟩
    exact h
  · intro h
    obtain ⟨⟨h1, hi, hj⟩, -⟩ := subnet?_eq_some h
    exact ⟨i, ⟨h1, hi⟩, j, hj, b, h, rfl, rfl, rfl⟩

/-- A plan with room has an entry for every network of every instance, in this order. -/
theorem keys_entries (hroom : p.root.HasRoom p.instances p.networks) :
    (p.entries.map fun entry => (entry.1, entry.2.1))
      = (ordinals p.instances).product (List.range p.networks) := by
  rw [entries, List.map_flatMap, List.product]
  refine List.flatMap_congr ?_
  intro i hi
  obtain ⟨h1, hle⟩ := mem_ordinals.mp hi
  have hall := forall₂_filterMap (l := List.range p.networks)
    (f := fun index => (p.subnet? i index).map fun block => (i, index, block)) (by
      intro index hindex
      obtain ⟨block, hblock⟩ := exists_subnet? hroom h1 hle (List.mem_range.mp hindex)
      exact ⟨_, by rw [hblock]; rfl⟩)
  refine (map_eq_of_forall₂ hall fun index entry h => ?_).symm
  obtain ⟨block, -, rfl⟩ := Option.map_eq_some_iff.mp h
  rfl

/-! ## Sharing out -/

/-- A plan shares a root block out to so many networks of so many instances: each of them has one
block, of the size and at the place that its numbers settle, within the root and apart from the
reserved block and from all others. -/
structure SharesOut (p : AddressPlan) (root : Block) (instances : UInt32) (networks : Nat) :
    Prop where
  keys_eq : (p.entries.map fun entry => (entry.1, entry.2.1))
    = (ordinals instances).product (List.range networks)
  mem_entries_iff : ∀ i j b, (i, j, b) ∈ p.entries ↔ p.subnet? i j = some b
  length_eq : ∀ i j b, p.subnet? i j = some b → b.length = root.length + 8 + bitsFor networks
  address_eq : ∀ i j b, p.subnet? i j = some b →
    b.address.toNat = root.base + i.toNat * 2 ^ (24 - root.length)
      + j * 2 ^ (24 - root.length - bitsFor networks)
  no_host_bits : ∀ i j b, p.subnet? i j = some b → b.hasHostBits = false
  apart : ∀ i j b i' j' b', p.subnet? i j = some b → p.subnet? i' j' = some b' →
    (i, j) ≠ (i', j') → ∀ a ∈ b, a ∉ b'
  within_root : ∀ i j b, p.subnet? i j = some b → ∀ a ∈ b, a ∈ root
  off_reserved : ∃ reserved, p.reserved? = some reserved ∧ reserved.base = root.base
    ∧ reserved.length = root.length + 8 ∧ ∀ i j b, p.subnet? i j = some b → ∀ a ∈ b, a ∉ reserved

theorem sharesOut_of_hasRoom {root : Block} {instances : UInt32} {networks : Nat}
    (hroom : root.HasRoom instances networks) :
    SharesOut { root := root.truncated, instances, networks } root instances networks := by
  have hroom' : root.truncated.HasRoom instances networks := ⟨hroom.instances_le, hroom.length_le⟩
  obtain ⟨reserved, hpart⟩ := Block.exists_part?_iff.mpr
    (show root.truncated.length + instanceBits ≤ 32 ∧ 0 < 2 ^ instanceBits from
      ⟨Nat.le_trans (Nat.le_add_right _ _) hroom'.length_le, Nat.two_pow_pos _⟩)
  obtain ⟨-, hlen, -, hbase⟩ := Block.part?_eq_some hpart
  exact {
    keys_eq := keys_entries hroom'
    mem_entries_iff := fun _ _ _ => mem_entries
    length_eq := fun _ _ _ h => length_subnet h
    address_eq := fun _ _ _ h => by
      simpa using toNat_address_subnet h
    no_host_bits := fun _ _ _ h => by
      obtain ⟨-, _, -, hb⟩ := subnet?_eq_some h
      simp [Block.hasHostBits, Block.toNat_address_of_part hb]
    apart := fun _ _ _ _ _ _ h h' hne a ha ha' => by
      obtain ⟨hi, hj⟩ := eq_of_mem_subnet h h' ha ha'
      exact hne (by rw [hi, hj])
    within_root := fun _ _ _ h _ ha => Block.mem_truncated.mp (mem_root_of_mem_subnet h ha)
    off_reserved := ⟨reserved, hpart, by simpa using hbase, hlen,
      fun _ _ _ h _ ha => not_mem_reserved_of_mem_subnet h hpart ha⟩ }

end AddressPlan

/-! ## Refusals -/

/-- A root block falls short of so many instances of so many networks: a part would be smaller than
one address, or there are more instances than parts besides the reserved one. -/
def Ipv4.Block.FallsShort (root : Block) (instances : UInt32) (networks : Nat) : Prop :=
  1 ≤ instances ∧ 1 ≤ networks
    ∧ (32 < root.length + 8 ∨ 255 < instances.toNat ∨ 32 < root.length + 8 + bitsFor networks)

instance (root : Block) (instances : UInt32) (networks : Nat) :
    Decidable (root.FallsShort instances networks) := inferInstanceAs (Decidable (_ ∧ _))

namespace AddressPlan

variable {root : Block} {instances : UInt32} {networks : Nat}

theorem not_fallsShort_iff (hi : 1 ≤ instances) (hn : 1 ≤ networks) :
    ¬root.FallsShort instances networks ↔ root.HasRoom instances networks := by
  unfold Block.FallsShort
  constructor
  · intro h
    simp only [hi, hn, true_and] at h
    exact ⟨by omega, by rw [instanceBits]; omega⟩
  · rintro ⟨h255, hlen⟩ ⟨-, -, hshort⟩
    rw [instanceBits] at hlen
    omega

theorem exhausted_of_make_eq_error {fault : Fault}
    (h : make root instances networks = .error fault) :
    ∃ requested length, fault = .addressSpaceExhausted root.truncated requested length := by
  simp only [make] at h
  split at h
  · cases h
  · split at h
    · exact ⟨_, _, (Except.error.inj h).symm⟩
    · split at h
      · exact ⟨_, _, (Except.error.inj h).symm⟩
      · cases h

/-- A plan is refused iff the root falls short. -/
theorem make_eq_error_iff :
    (∃ fault, make root instances networks = .error fault) ↔
      root.FallsShort instances networks := by
  by_cases hempty : instances = 0 ∨ networks = 0
  · rw [make_of_empty root hempty]
    refine iff_of_false (fun ⟨_, h⟩ => nomatch h) ?_
    rintro ⟨hi, hn, -⟩
    rcases hempty with hzero | hzero
    · exact one_le_iff_ne_zero.mp hi hzero
    · omega
  · obtain ⟨hi, hn⟩ := not_or.mp hempty
    rw [← not_iff_not, not_fallsShort_iff (one_le_iff_ne_zero.mpr hi) (Nat.pos_of_ne_zero hn)]
    constructor
    · intro h
      cases hmake : make root instances networks with
      | error fault => exact absurd ⟨fault, hmake⟩ h
      | ok p => exact ((make_eq_ok hi hn).mp hmake).1
    · rintro hroom ⟨fault, h⟩
      cases h.symm.trans ((make_eq_ok hi hn).mpr ⟨hroom, rfl⟩)

/-! ## All root blocks -/

/-- A plan is refused iff the root falls short, always for that reason. Otherwise the root is shared
out, unless there are no instances or no networks, and what is shared out is what cutting it step by
step yields. Networks are told apart by the least number of bits that do. -/
theorem make_shares_out (root : Block) (instances : UInt32) (networks : Nat) :
    (∀ fault, make root instances networks = .error fault →
      ∃ requested length, fault = .addressSpaceExhausted root.truncated requested length)
    ∧ ((∃ fault, make root instances networks = .error fault) ↔
      root.FallsShort instances networks)
    ∧ (¬root.FallsShort instances networks → ∃ p, make root instances networks = .ok p
      ∧ carve root instances networks = .ok p.entries
      ∧ (instances = 0 ∨ networks = 0 → p.entries = [] ∧ ∀ i j, p.subnet? i j = none)
      ∧ (1 ≤ instances → 1 ≤ networks → p.SharesOut root instances networks))
    ∧ IsLeast {k | networks ≤ 2 ^ k} (bitsFor networks)
    ∧ ∀ word : UInt64, word.toNat = networks → splitBits word = bitsFor networks := by
  refine ⟨fun _ => exhausted_of_make_eq_error, make_eq_error_iff, fun hroom => ?_,
    ⟨bitsFor_le_iff.mp (Nat.le_refl _), fun _ => bitsFor_le_iff.mpr⟩, fun word hword => ?_⟩
  · cases hmake : make root instances networks with
    | error fault => exact absurd (make_eq_error_iff.mp ⟨fault, hmake⟩) hroom
    | ok p =>
        refine ⟨p, rfl, by rw [carve_eq_map_make, hmake]; rfl, fun hempty => ?_, fun hi hn => ?_⟩
        · obtain rfl := Except.ok.inj ((make_of_empty root hempty).symm.trans hmake)
          refine ⟨rfl, fun i j => ?_⟩
          rw [subnet?, if_neg]
          rintro ⟨-, -, hj⟩
          exact absurd hj (Nat.not_lt_zero j)
        · obtain ⟨hroom, rfl⟩ :=
            (make_eq_ok (one_le_iff_ne_zero.mp hi) (Nat.ne_zero_of_lt hn)).mp hmake
          exact sharesOut_of_hasRoom hroom
  · rw [← hword, splitBits_eq]

/-- The block of 10.0.7.9/16, which has host bits. -/
def inside : Block := ⟨.ofNat 0x0a000709, 16, by decide⟩

/-- Three networks take two bits, and the second one of instance 2 is 10.0.2.64/26. -/
theorem make_shares_out_inside : ∃ p, make inside 2 3 = .ok p ∧ ¬inside.FallsShort 2 3
    ∧ p.SharesOut inside 2 3 ∧ p.subnet? 2 1 = some ⟨.ofNat 0x0a000240, 26, by decide⟩ := by
  obtain ⟨-, -, hok, -⟩ := make_shares_out inside 2 3
  have hroom : ¬inside.FallsShort 2 3 := by decide
  obtain ⟨p, hmake, -, -, hshares⟩ := hok hroom
  refine ⟨p, hmake, hroom, hshares (by decide) (by decide), ?_⟩
  obtain rfl := Except.ok.inj hmake
  decide

end AddressPlan

end RangeLab
