import Mathlib.Data.Nat.Log
import RangeLab.AddressPlan
import RangeLab.Proofs.Block
import RangeLab.Proofs.Word

/-!
# What a plan gives out

A plan can be made iff the root block is large enough (`make_eq_ok`), and then it has a block for
every network of every instance (`exists_subnet?`). Its blocks are parts of parts of the root, so
they lie in the root (`mem_root_of_mem_subnet`), outside the reserved part
(`not_mem_reserved_of_mem_subnet`), and no two of them share an address (`eq_of_mem_subnet`). A plan
for fewer instances gives these the same blocks (`exists_make_of_le`).
-/

namespace RangeLab

open Ipv4 (Address Block)

/-! ## The bits that tell networks apart -/

theorem bitsFor_le_iff {n b : Nat} : bitsFor n ≤ b ↔ n ≤ 2 ^ b := by
  unfold bitsFor
  split
  · rename_i hn
    have := Nat.two_pow_pos b
    exact ⟨fun _ => by omega, fun _ => Nat.zero_le b⟩
  · rename_i hn
    rw [Nat.add_one_le_iff, Nat.log2_lt (by omega)]
    omega

theorem bitsFor_eq_clog (n : Nat) : bitsFor n = Nat.clog 2 n :=
  eq_of_forall_ge_iff fun _ => by rw [bitsFor_le_iff, Nat.clog_le_iff_le_pow Nat.one_lt_two]

theorem lt_two_pow_bitsFor {k n : Nat} (h : k < n) : k < 2 ^ bitsFor n :=
  Nat.lt_of_lt_of_le h (bitsFor_le_iff.mp (Nat.le_refl _))

/-! ## Making a plan -/

/-- The root block has room for so many instances of so many networks. -/
structure Ipv4.Block.HasRoom (root : Block) (instances : UInt32) (networks : Nat) : Prop where
  instances_le : instances.toNat ≤ 255
  length_le : root.length + instanceBits + bitsFor networks ≤ 32

/-- Networks are told apart within 24 bits: the other eight tell the instances apart. -/
theorem Ipv4.Block.HasRoom.networks_le {root : Block} {instances : UInt32} {networks : Nat}
    (h : root.HasRoom instances networks) : networks ≤ 2 ^ 24 := by
  have hbits := h.length_le
  rw [instanceBits] at hbits
  exact bitsFor_le_iff.mp (by omega)

namespace AddressPlan

/-- Without instances or without networks the plan is empty, whatever the root. -/
theorem make_of_empty (root : Block) {instances : UInt32} {networks : Nat}
    (h : instances = 0 ∨ networks = 0) :
    make root instances networks
      = .ok { root := root.truncated, instances := 0, networks := 0 } := by
  simp only [make, if_pos h]

/-- Otherwise there is a plan iff the root has room. -/
theorem make_eq_ok {root : Block} {instances : UInt32} {networks : Nat} {p : AddressPlan}
    (hi : instances ≠ 0) (hn : networks ≠ 0) :
    make root instances networks = .ok p ↔
      root.HasRoom instances networks ∧ p = { root := root.truncated, instances, networks } := by
  have hne : ¬(instances = 0 ∨ networks = 0) := by simp [hi, hn]
  have hlen := root.length_truncated
  have hbits : instanceBits = 8 := rfl
  unfold make
  dsimp only
  rw [if_neg hne]
  by_cases hbad : root.truncated.length + instanceBits > 32
      ∨ instances.toNat + 1 > 1 <<< instanceBits
  · rw [if_pos hbad]
    refine ⟨nofun, fun ⟨⟨_, _⟩, _⟩ => ?_⟩
    rw [hbits] at hbad
    omega
  · rw [if_neg hbad]
    rw [hbits] at hbad
    by_cases hlong : root.truncated.length + instanceBits + bitsFor networks > 32
    · rw [if_pos hlong]
      refine ⟨nofun, fun ⟨⟨_, _⟩, _⟩ => ?_⟩
      omega
    · rw [if_neg hlong, Except.ok.injEq, eq_comm]
      exact ⟨fun h => ⟨⟨by omega, Nat.le_of_not_lt hlong⟩, h⟩, fun h => h.2⟩

theorem networks_le_of_make {root : Block} {instances : UInt32} {networks : Nat} {p : AddressPlan}
    (h : make root instances networks = .ok p) (hi : 1 ≤ instances) : networks ≤ 2 ^ 24 := by
  rcases Nat.eq_zero_or_pos networks with hnil | hpos
  · omega
  · exact ((make_eq_ok (one_le_iff_ne_zero.mp hi) (by omega)).mp h).1.networks_le

theorem instances_le_of_make {root : Block} {instances : UInt32} {networks : Nat}
    {p : AddressPlan} (h : make root instances networks = .ok p) : p.instances ≤ instances := by
  by_cases hempty : instances = 0 ∨ networks = 0
  · rw [← Except.ok.inj ((make_of_empty root hempty).symm.trans h)]
    exact UInt32.zero_le
  · obtain ⟨hi, hn⟩ := not_or.mp hempty
    rw [((make_eq_ok hi hn).mp h).2]
    exact UInt32.le_refl _

/-! ## The blocks of a plan -/

variable {p : AddressPlan} {i i' : UInt32} {j j' : Nat} {b b' : Block} {a : Address}

/-- The block of a network is a part of the part of its instance. -/
theorem subnet?_eq_some (h : p.subnet? i j = some b) :
    (1 ≤ i ∧ i ≤ p.instances ∧ j < p.networks)
      ∧ ∃ block, p.root.part? instanceBits i.toNat = some block
        ∧ block.part? (bitsFor p.networks) j = some b := by
  unfold subnet? at h
  split at h
  · rename_i hij
    exact ⟨hij, Option.bind_eq_some_iff.mp h⟩
  · cases h

theorem length_subnet (h : p.subnet? i j = some b) :
    b.length = p.root.length + instanceBits + bitsFor p.networks := by
  obtain ⟨-, block, hblock, hb⟩ := subnet?_eq_some h
  rw [(Block.part?_eq_some hb).2.1, (Block.part?_eq_some hblock).2.1]

theorem exists_subnet? (hroom : p.root.HasRoom p.instances p.networks) (h1 : 1 ≤ i)
    (hi : i ≤ p.instances) (hj : j < p.networks) : ∃ b, p.subnet? i j = some b := by
  obtain ⟨h255, hlen⟩ := hroom
  have hi' : i.toNat ≤ p.instances.toNat := UInt32.le_iff_toNat_le.mp hi
  obtain ⟨block, hblock⟩ := Block.exists_part?_iff.mpr
    (show p.root.length + instanceBits ≤ 32 ∧ i.toNat < 2 ^ instanceBits from
      ⟨by omega, by rw [instanceBits]; omega⟩)
  obtain ⟨b, hb⟩ := Block.exists_part?_iff.mpr
    (show block.length + bitsFor p.networks ≤ 32 ∧ j < 2 ^ bitsFor p.networks from
      ⟨by rw [(Block.part?_eq_some hblock).2.1]; exact hlen, lt_two_pow_bitsFor hj⟩)
  exact ⟨b, by rw [subnet?, if_pos ⟨h1, hi, hj⟩]; exact Option.bind_eq_some_iff.mpr ⟨_, hblock, hb⟩⟩

/-- A plan that is made has a block for every network of every instance it was made for. -/
theorem exists_subnet?_of_make {root : Block} {instances : UInt32} {networks : Nat}
    (h : make root instances networks = .ok p) (h1 : 1 ≤ i) (hi : i ≤ instances)
    (hj : j < networks) : ∃ b, p.subnet? i j = some b := by
  have hinstances : instances ≠ 0 := one_le_iff_ne_zero.mp (UInt32.le_trans h1 hi)
  obtain ⟨hroom, rfl⟩ := (make_eq_ok hinstances (Nat.ne_zero_of_lt hj)).mp h
  have hroom' : root.truncated.HasRoom instances networks := ⟨hroom.instances_le, hroom.length_le⟩
  exact exists_subnet? hroom' h1 hi hj

theorem mem_root_of_mem_subnet (h : p.subnet? i j = some b) (ha : a ∈ b) : a ∈ p.root := by
  obtain ⟨-, block, hblock, hb⟩ := subnet?_eq_some h
  exact Block.mem_of_mem_part hblock (Block.mem_of_mem_part hb ha)

/-- A block that the plan gives out belongs to one instance and one network only. -/
theorem eq_of_mem_subnet (h : p.subnet? i j = some b) (h' : p.subnet? i' j' = some b')
    (ha : a ∈ b) (ha' : a ∈ b') : i = i' ∧ j = j' := by
  obtain ⟨-, block, hblock, hb⟩ := subnet?_eq_some h
  obtain ⟨-, block', hblock', hb'⟩ := subnet?_eq_some h'
  have hi : i = i' := UInt32.toNat_inj.mp
    (Block.eq_of_mem_part hblock hblock' (Block.mem_of_mem_part hb ha)
      (Block.mem_of_mem_part hb' ha'))
  subst hi
  obtain rfl := Option.some.inj (hblock.symm.trans hblock')
  exact ⟨rfl, Block.eq_of_mem_part hb hb' ha ha'⟩

theorem exists_reserved? (h : p.subnet? i j = some b) : ∃ r, p.reserved? = some r := by
  obtain ⟨-, block, hblock, -⟩ := subnet?_eq_some h
  exact Block.exists_part?_iff.mpr
    ⟨(Block.exists_part?_iff.mp ⟨block, hblock⟩).1, Nat.two_pow_pos _⟩

theorem not_mem_reserved_of_mem_subnet {r : Block} (h : p.subnet? i j = some b)
    (hr : p.reserved? = some r) (ha : a ∈ b) : a ∉ r := by
  intro har
  obtain ⟨⟨h1, -, -⟩, block, hblock, hb⟩ := subnet?_eq_some h
  have h0 := Block.eq_of_mem_part hblock hr (Block.mem_of_mem_part hb ha) har
  have h1' : 1 ≤ i.toNat := UInt32.le_iff_toNat_le.mp h1
  omega

/-! ## More instances -/

/-- The plan, for at most `n` instances, gives out what a larger plan gives out to these. -/
structure AgreesUpTo (p p' : AddressPlan) (n : UInt32) : Prop where
  root_eq : p.root = p'.root
  instances_le : p.instances ≤ p'.instances
  instances_le_bound : p.instances ≤ n
  subnet?_eq : ∀ i ≤ n, ∀ j, p.subnet? i j = p'.subnet? i j

theorem subnet?_zero (p : AddressPlan) (j : Nat) : p.subnet? 0 j = none := by
  rw [subnet?, if_neg]
  intro h
  exact absurd h.1 (by decide)

/-- A root block with room for more instances has room for fewer, and these get the same blocks. -/
theorem exists_make_of_le {root : Block} {n n' : UInt32} {networks : Nat} {p' : AddressPlan}
    (hle : n ≤ n') (h' : make root n' networks = .ok p') :
    ∃ p, make root n networks = .ok p ∧ p.AgreesUpTo p' n := by
  by_cases hempty' : n' = 0 ∨ networks = 0
  · have hempty : n = 0 ∨ networks = 0 := by
      rcases hempty' with rfl | hnetworks
      · exact .inl (UInt32.le_zero_iff.mp hle)
      · exact .inr hnetworks
    obtain rfl := Except.ok.inj ((make_of_empty root hempty').symm.trans h')
    exact ⟨_, make_of_empty root hempty, rfl, UInt32.le_refl 0, UInt32.zero_le, fun _ _ _ => rfl⟩
  · obtain ⟨hn', hnetworks⟩ := not_or.mp hempty'
    obtain ⟨hroom, rfl⟩ := (make_eq_ok hn' hnetworks).mp h'
    by_cases hn : n = 0
    · subst hn
      refine ⟨_, make_of_empty root (.inl rfl), rfl, UInt32.zero_le, UInt32.zero_le, ?_⟩
      intro i hi j
      rw [UInt32.le_zero_iff.mp hi, subnet?_zero, subnet?_zero]
    · have hroom₀ : root.HasRoom n networks :=
        ⟨Nat.le_trans (UInt32.le_iff_toNat_le.mp hle) hroom.instances_le, hroom.length_le⟩
      refine ⟨_, (make_eq_ok hn hnetworks).mpr ⟨hroom₀, rfl⟩, rfl, hle, UInt32.le_refl n, ?_⟩
      intro i hi j
      simp only [subnet?, hi, UInt32.le_trans hi hle, true_and]

theorem AgreesUpTo.reserved?_eq {p p' : AddressPlan} {n : UInt32} (h : p.AgreesUpTo p' n) :
    p.reserved? = p'.reserved? := by
  rw [reserved?, reserved?, h.root_eq]

end AddressPlan

end RangeLab
