import RangeLab.Proofs.AddressPlan
import RangeLab.Proofs.Attempt

/-!
# Cutting a root block

A plan says where the block of a network lies without cutting anything. Here the root block is cut
in fact: into the blocks of the instances, and the block of each instance into those of its networks
(`AddressPlan.carve`). A cut can fail, but not after the checks that are made first
(`cut?_of_hasRoom`). So what is cut off is what a plan gives out, and a root block is refused where
there is no plan for it (`carve_eq_map_make`).
-/

namespace RangeLab

open Ipv4 (Address Block)

/-! ## Cutting a block -/

namespace Ipv4.Block

/-- The blocks of a length that a block consists of, in ascending order. There are none if a block
of this length is larger than the block or smaller than one address. -/
def cut? (b : Block) (length : Nat) : Option (List Block) :=
  if h : b.length ≤ length ∧ length ≤ 32 then
    some <| (List.range (2 ^ (length - b.length))).map fun k =>
      { address := .ofNat (b.base + k * 2 ^ (32 - length)), length, length_le := h.2 }
  else none

variable {b : Block} {length : Nat} {blocks : List Block}

theorem cut?_eq_some : b.cut? length = some blocks ↔ ∃ h : b.length ≤ length ∧ length ≤ 32,
    blocks = (List.range (2 ^ (length - b.length))).map fun k =>
      { address := .ofNat (b.base + k * 2 ^ (32 - length)), length, length_le := h.2 } := by
  unfold cut?
  split
  · rename_i h
    rw [Option.some.injEq, eq_comm, exists_prop_of_true h]
  · rename_i h
    constructor
    · intro hnone
      cases hnone
    · rintro ⟨h', -⟩
      exact absurd h' h

theorem exists_cut?_iff :
    (∃ blocks, b.cut? length = some blocks) ↔ b.length ≤ length ∧ length ≤ 32 := by
  simp only [cut?_eq_some]
  constructor
  · rintro ⟨_, h, -⟩
    exact h
  · intro h
    exact ⟨_, h, rfl⟩

/-- What is cut off at a place is the part with this number. -/
theorem getElem?_of_cut? {bits : Nat} (h : b.cut? (b.length + bits) = some blocks) (k : Nat) :
    blocks[k]? = b.part? bits k := by
  obtain ⟨⟨-, hle⟩, rfl⟩ := cut?_eq_some.mp h
  rw [part?_eq, dif_pos hle, List.getElem?_map, Nat.add_sub_cancel_left]
  by_cases hk : k < 2 ^ bits
  · rw [List.getElem?_range hk, if_pos hk, Option.map_some]
  · rw [List.getElem?_eq_none (by rwa [List.length_range, ← Nat.not_lt]), if_neg hk,
      Option.map_none]

theorem length_of_cut? {bits : Nat} (h : b.cut? (b.length + bits) = some blocks) :
    blocks.length = 2 ^ bits := by
  obtain ⟨hle, rfl⟩ := cut?_eq_some.mp h
  rw [List.length_map, List.length_range, Nat.add_sub_cancel_left]

theorem length_of_mem_cut? (h : b.cut? length = some blocks) {block : Block}
    (hmem : block ∈ blocks) : block.length = length := by
  obtain ⟨hle, heq⟩ := cut?_eq_some.mp h
  rw [heq] at hmem
  obtain ⟨k, -, rfl⟩ := List.mem_map.mp hmem
  rfl

end Ipv4.Block

/-! ## Cutting step by step -/

namespace AddressPlan

/-- Cuts the block of an instance into the blocks of its networks. -/
def carveInstance (fault : Fault) (networks length : Nat) (own : UInt32 × Block) :
    Except Fault (List (UInt32 × Nat × Block)) :=
  match own.2.cut? length with
  | none => .error fault
  | some blocks => .ok ((blocks.take networks).zipIdx.map fun entry => (own.1, entry.2, entry.1))

/-- Cuts a root block into the blocks of the instances, which follow the reserved one, and each of
these into the blocks of its networks. -/
def carveRoot (fault : Fault) (root : Block) (instances : UInt32) (networks : Nat) :
    Except Fault (List (UInt32 × Nat × Block)) :=
  let length := root.length + instanceBits
  match root.cut? length with
  | none => .error fault
  | some blocks => do
    let rows ← ((ordinals instances).zip (blocks.drop 1)).mapM
      (carveInstance fault networks (length + bitsFor networks))
    return rows.flatten

/-- The checks that are made before anything is cut. -/
def checkRoom (root : Block) (instances : UInt32) (networks : Nat) : Except Fault Unit :=
  let length := root.length + instanceBits
  if length > 32 ∨ instances.toNat + 1 > 1 <<< instanceBits then
    .error (.addressSpaceExhausted root (instances.toNat + 1) (min length 32))
  else if length + bitsFor networks > 32 then .error (.addressSpaceExhausted root networks 32)
  else .ok ()

/-- Shares out a root block by cutting it, after the checks. -/
def carve (root : Block) (instances : UInt32) (networks : Nat) :
    Except Fault (List (UInt32 × Nat × Block)) :=
  let root := root.truncated
  if instances = 0 ∨ networks = 0 then .ok []
  else do
    checkRoom root instances networks
    let length := root.length + instanceBits + bitsFor networks
    carveRoot (.addressSpaceExhausted root networks length) root instances networks

/-! ## No cut fails -/

theorem hasRoom_of_checkRoom {root : Block} {instances : UInt32} {networks : Nat}
    (h : checkRoom root instances networks = .ok ()) : root.HasRoom instances networks := by
  simp only [checkRoom] at h
  split at h
  · cases h
  · rename_i hblocks
    split at h
    · cases h
    · rename_i hlong
      rw [instanceBits] at hblocks
      exact ⟨by omega, Nat.le_of_not_lt hlong⟩

/-- After the checks neither the root nor the block of an instance is too small to be cut. -/
theorem cut?_of_hasRoom {root : Block} {instances : UInt32} {networks : Nat}
    (hroom : root.HasRoom instances networks) :
    ∃ blocks, root.cut? (root.length + instanceBits) = some blocks
      ∧ ∀ block ∈ blocks, ∃ subnets,
        block.cut? (root.length + instanceBits + bitsFor networks) = some subnets := by
  have hle := hroom.length_le
  obtain ⟨blocks, hblocks⟩ := Block.exists_cut?_iff.mpr
    (show root.length ≤ root.length + instanceBits ∧ root.length + instanceBits ≤ 32 from
      ⟨Nat.le_add_right _ _, Nat.le_trans (Nat.le_add_right _ _) hle⟩)
  refine ⟨blocks, hblocks, fun block hblock => Block.exists_cut?_iff.mpr ⟨?_, hle⟩⟩
  rw [Block.length_of_mem_cut? hblocks hblock]
  exact Nat.le_add_right _ _

/-! ## What is cut off -/

/-- The blocks that the plan gives out to an instance. -/
def entriesOf (p : AddressPlan) (i : UInt32) : List (UInt32 × Nat × Block) :=
  (List.range p.networks).filterMap fun index =>
    (p.subnet? i index).map fun subnet => (i, index, subnet)

variable {p : AddressPlan} {fault : Fault} {i : UInt32} {block : Block}

/-- The block of an instance is cut into what the plan gives out to the instance. -/
theorem carveInstance_eq_ok (hroom : p.root.HasRoom p.instances p.networks)
    (hi : 1 ≤ i ∧ i ≤ p.instances) (hblock : p.root.part? instanceBits i.toNat = some block) :
    carveInstance fault p.networks (p.root.length + instanceBits + bitsFor p.networks) (i, block)
      = .ok (p.entriesOf i) := by
  obtain ⟨-, hlen, -⟩ := Block.part?_eq_some hblock
  have hle := hroom.length_le
  rw [← hlen] at hle ⊢
  obtain ⟨subnets, hsubnets⟩ := Block.exists_cut?_iff.mpr ⟨Nat.le_add_right _ _, hle⟩
  have hsubnet : ∀ index ∈ List.range p.networks, p.subnet? i index = subnets[index]? := by
    intro index hindex
    rw [Block.getElem?_of_cut? hsubnets, subnet?, if_pos ⟨hi.1, hi.2, List.mem_range.mp hindex⟩,
      hblock]
    rfl
  rw [carveInstance, hsubnets, entriesOf, List.filterMap_congr fun index hindex => by
    rw [hsubnet index hindex]]
  exact congrArg Except.ok
    (filterMap_getElem?_range subnets (fun entry => (i, entry.2, entry.1)) p.networks).symm

/-- An instance gets the part with its number, as the first block is left out. -/
theorem part?_of_mem_zip {b : Block} {blocks : List Block} {n : UInt32}
    (hblocks : b.cut? (b.length + instanceBits) = some blocks)
    (h : (i, block) ∈ (ordinals n).zip (blocks.drop 1)) :
    b.part? instanceBits i.toNat = some block := by
  obtain ⟨k, hk⟩ := List.mem_iff_getElem?.mp h
  obtain ⟨hi, hblock⟩ := List.getElem?_zip_eq_some.mp hk
  rw [List.getElem?_drop, Block.getElem?_of_cut? hblocks] at hblock
  rwa [toNat_of_getElem?_ordinals hi, Nat.add_comm]

/-- With room for all networks, cutting goes through and comes to what the plan gives out. There are
255 blocks behind the first one, so no instance is left without. -/
theorem carveRoot_eq_ok (hroom : p.root.HasRoom p.instances p.networks) :
    carveRoot fault p.root p.instances p.networks = .ok p.entries := by
  obtain ⟨blocks, hblocks, -⟩ := cut?_of_hasRoom hroom
  have hrow : ∀ own ∈ (ordinals p.instances).zip (blocks.drop 1),
      carveInstance fault p.networks (p.root.length + instanceBits + bitsFor p.networks) own
        = .ok (p.entriesOf own.1) := by
    intro own hown
    have hi := mem_ordinals.mp (List.of_mem_zip hown).1
    exact carveInstance_eq_ok hroom hi (part?_of_mem_zip hblocks hown)
  have hrows := Attempt.mapM_eq_ok.mpr
    (List.forall₂_map_right_iff.mpr (List.forall₂_same.mpr hrow))
  have henough : (ordinals p.instances).length ≤ (blocks.drop 1).length := by
    have h255 := hroom.instances_le
    rw [List.length_drop, Block.length_of_cut? hblocks, length_ordinals, instanceBits]
    omega
  have hentries : (((ordinals p.instances).zip (blocks.drop 1)).map fun own => p.entriesOf own.1)
      = (ordinals p.instances).map p.entriesOf :=
    calc _ = (((ordinals p.instances).zip (blocks.drop 1)).map Prod.fst).map p.entriesOf :=
          List.map_map.symm
      _ = _ := by rw [List.map_fst_zip henough]
  rw [hentries] at hrows
  rw [carveRoot, hblocks]
  refine Attempt.bind_eq_ok.mpr ⟨_, hrows, ?_⟩
  rw [← List.flatMap_def]
  rfl

/-- A plan is made after the same checks. -/
theorem make_eq_bind_checkRoom (root : Block) {instances : UInt32} {networks : Nat}
    (h : ¬(instances = 0 ∨ networks = 0)) :
    make root instances networks = do
      checkRoom root.truncated instances networks
      return { root := root.truncated, instances, networks } := by
  simp only [make, checkRoom, if_neg h]
  split
  · rfl
  · split <;> rfl

/-- Cutting step by step comes to what a plan gives out, and is refused where a plan is. -/
theorem carve_eq_map_make (root : Block) (instances : UInt32) (networks : Nat) :
    carve root instances networks = (make root instances networks).map entries := by
  by_cases hempty : instances = 0 ∨ networks = 0
  · rw [make_of_empty root hempty, carve]
    simp only [if_pos hempty]
    rfl
  · rw [make_eq_bind_checkRoom root hempty]
    simp only [carve, if_neg hempty]
    cases hcheck : checkRoom root.truncated instances networks with
    | error fault => rfl
    | ok _ =>
        exact carveRoot_eq_ok (p := { root := root.truncated, instances, networks })
          (hasRoom_of_checkRoom hcheck)

end AddressPlan

end RangeLab
