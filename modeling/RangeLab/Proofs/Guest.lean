import RangeLab.Inventory
import RangeLab.Proofs.AddressPlan
import RangeLab.Proofs.Attempt
import RangeLab.Proofs.Members
import RangeLab.Proofs.Name

/-!
# Guests and their interfaces

The guests of a lab are one for each instance, role and copy (`mem_guests`), and these three tell
them apart (`nodup_keys_guests`). An interface of a guest is settled by the block that the plan has
for the segment in the guest's instance and by the run of the guest's role among the members
(`interfaceAt_eq_ok`).
-/

namespace RangeLab

/-! ## Expansion -/

/-- A guest before it has interfaces. -/
def LabId.guest (id : LabId) (instanceNumber : UInt32) (role : Role) (copy : UInt32) : Guest :=
  { name := (id.machineName instanceNumber role.name copy role.copies).render
    instanceNumber, copy, role
    interfaces := [] }

theorem LabId.name_guest_ne_empty (id : LabId) (instanceNumber : UInt32) (role : Role)
    (copy : UInt32) : (id.guest instanceNumber role copy).name.isEmpty = false :=
  MachineName.render_ne_empty (id.machineName instanceNumber role.name copy role.copies)

/-- What tells the guests of a lab apart. -/
def Guest.key (g : Guest) : UInt32 × Slug × UInt32 := (g.instanceNumber, g.role.name, g.copy)

namespace LabId

variable {id : LabId} {roles : List Role} {instances : UInt32}

theorem guests_eq_flatMap :
    id.guests roles instances = (ordinals instances).flatMap fun i =>
      roles.flatMap fun role => (ordinals role.guestCount).map (id.guest i role) := by
  unfold guests
  split
  · rename_i h
    rw [List.isEmpty_iff.mp h]
    simp
  · rfl

/-- The guests of a lab: one for each instance, role and copy. -/
theorem mem_guests {g : Guest} :
    g ∈ id.guests roles instances ↔ ∃ i role copy, (1 ≤ i ∧ i ≤ instances) ∧ role ∈ roles
      ∧ (1 ≤ copy ∧ copy ≤ role.guestCount) ∧ id.guest i role copy = g := by
  rw [guests_eq_flatMap]
  simp only [List.mem_flatMap, List.mem_map, mem_ordinals]
  constructor
  · rintro ⟨i, hi, role, hrole, copy, hcopy, rfl⟩
    exact ⟨i, role, copy, hi, hrole, hcopy, rfl⟩
  · rintro ⟨i, role, copy, hi, hrole, hcopy, rfl⟩
    exact ⟨i, hi, role, hrole, copy, hcopy, rfl⟩

theorem instanceNumber_le_of_mem_guests {g : Guest} (h : g ∈ id.guests roles instances) :
    g.instanceNumber ≤ instances := by
  obtain ⟨i, role, copy, hi, -, -, rfl⟩ := mem_guests.mp h
  exact hi.2

theorem nodup_keys_instance (hnd : (roles.map Role.name).Nodup) (i : UInt32) :
    (roles.flatMap fun role => (ordinals role.guestCount).map fun copy =>
      (i, role.name, copy)).Nodup := by
  refine nodup_flatMap_of_key hnd ?_ ?_
  · intro role _
    refine List.Nodup.map_on ?_ (nodup_ordinals _)
    intro copy _ copy' _ h
    cases h
    rfl
  · intro role _ role' _ k hk hk'
    obtain ⟨copy, -, rfl⟩ := List.mem_map.mp hk
    obtain ⟨copy', -, h⟩ := List.mem_map.mp hk'
    exact (congrArg (fun k : UInt32 × Slug × UInt32 => k.2.1) h).symm

theorem nodup_keys_guests (hnd : (roles.map Role.name).Nodup) :
    ((id.guests roles instances).map Guest.key).Nodup := by
  have hkeys : (id.guests roles instances).map Guest.key =
      (ordinals instances).flatMap fun i => roles.flatMap fun role =>
        (ordinals role.guestCount).map fun copy => (i, role.name, copy) := by
    rw [guests_eq_flatMap]
    simp only [List.map_flatMap, List.map_map]
    rfl
  have hinstances : ((ordinals instances).map fun i => i).Nodup := by
    rw [List.map_id']
    exact nodup_ordinals instances
  rw [hkeys]
  refine nodup_flatMap_of_key hinstances (fun i _ => nodup_keys_instance hnd i) ?_
  intro i _ i' _ k hk hk'
  obtain ⟨role, -, hk⟩ := List.mem_flatMap.mp hk
  obtain ⟨role', -, hk'⟩ := List.mem_flatMap.mp hk'
  obtain ⟨copy, -, rfl⟩ := List.mem_map.mp hk
  obtain ⟨copy', -, h⟩ := List.mem_map.mp hk'
  exact (congrArg Prod.fst h).symm

/-- More instances add guests behind those that are there. -/
theorem guests_append (id : LabId) (roles : List Role) {n n' : UInt32} (h : n ≤ n') :
    ∃ later, id.guests roles n' = id.guests roles n ++ later
      ∧ ∀ g ∈ later, n < g.instanceNumber := by
  obtain ⟨later, hlater, hlt⟩ := ordinals_append h
  simp only [guests_eq_flatMap, hlater, List.flatMap_append]
  refine ⟨_, rfl, ?_⟩
  intro g hg
  obtain ⟨i, hi, hg⟩ := List.mem_flatMap.mp hg
  obtain ⟨role, -, hg⟩ := List.mem_flatMap.mp hg
  obtain ⟨copy, -, rfl⟩ := List.mem_map.mp hg
  exact hlt i hi

end LabId

/-! ## Interfaces -/

open Ipv4 (Address Block)

namespace Guest

variable {plan : AddressPlan} {id : LabId} {indexOffset : UInt32} {g : Guest}

theorem hostOffset_eq_ok {segment : Segment} {offset : Nat} :
    g.hostOffset segment = .ok offset ↔ ∃ position, segment.position? g.role.name = some position
      ∧ position + g.copy.toNat + reservedHosts - 1 = offset := by
  unfold hostOffset
  split <;> simp_all

/-- The interface of a guest on a network, from the block of the network and the address. -/
def interfaceIn (g : Guest) (id : LabId) (indexOffset : UInt32) (entry : Segment × Nat)
    (block : Block) (address : Address) : Interface where
  name := g.name ++ "-" ++ toString (UInt32.ofNat (entry.2 + 1))
  index := UInt32.ofNat (entry.2 + 1) + indexOffset
  address
  mask := UInt8.ofNat block.length
  network := id.networkName g.instanceNumber entry.1.name

theorem interfaceOn_eq_ok {ordinal : UInt32} {segment : Segment} {network : Network}
    {interface : Interface} (hname : g.name.isEmpty = false) :
    g.interfaceOn ordinal segment network indexOffset = .ok interface ↔
      ∃ offset, g.hostOffset segment = .ok offset ∧ ordinal.toNat + indexOffset.toNat < 2 ^ 32
        ∧ ∃ address, network.block.host? offset = some address
          ∧ { name := g.name ++ "-" ++ toString ordinal
              index := ordinal + indexOffset
              address
              mask := UInt8.ofNat network.block.length
              network := network.name } = interface := by
  have hif : interfaceName g.name ordinal = .ok (g.name ++ "-" ++ toString ordinal) := by
    rw [interfaceName, hname]
    rfl
  unfold interfaceOn
  rw [Attempt.bind_eq_ok]
  refine exists_congr fun offset => and_congr_right fun _ => ?_
  by_cases hindex : ordinal.toNat + indexOffset.toNat ≥ UInt32.size
  · rw [if_pos hindex]
    exact ⟨nofun, fun h => absurd h.1 (Nat.not_lt.mpr hindex)⟩
  · rw [if_neg hindex, hif]
    cases network.block.host? offset with
    | none => exact ⟨nofun, fun ⟨_, _, h, _⟩ => nomatch h⟩
    | some address =>
        constructor
        · intro h
          exact ⟨Nat.lt_of_not_le hindex, address, rfl, Except.ok.inj h⟩
        · rintro ⟨-, _, h, rfl⟩
          obtain rfl := Option.some.inj h
          rfl

/-- The interface of a guest on a segment: the plan has a block for the segment in the guest's
instance, the role is attached to the segment, the index fits in 32 bits, and the block has the
host that the run of the role has for the copy. -/
theorem interfaceAt_eq_ok {entry : Segment × Nat} {interface : Interface}
    (hname : g.name.isEmpty = false) :
    g.interfaceAt (plan.network? id) indexOffset entry = .ok interface ↔
      ∃ block position address, plan.subnet? g.instanceNumber entry.1.index = some block
        ∧ entry.1.position? g.role.name = some position
        ∧ (UInt32.ofNat (entry.2 + 1)).toNat + indexOffset.toNat < 2 ^ 32
        ∧ block.host? (position + g.copy.toNat + reservedHosts - 1) = some address
        ∧ g.interfaceIn id indexOffset entry block address = interface := by
  unfold interfaceAt AddressPlan.network?
  cases plan.subnet? g.instanceNumber entry.1.index with
  | none => exact ⟨nofun, fun ⟨_, _, _, h, _⟩ => nomatch h⟩
  | some block =>
      rw [Option.map_some]
      show g.interfaceOn _ _ _ _ = _ ↔ _
      rw [interfaceOn_eq_ok hname]
      constructor
      · rintro ⟨offset, hoffset, hindex, address, hhost, rfl⟩
        obtain ⟨position, hposition, rfl⟩ := hostOffset_eq_ok.mp hoffset
        exact ⟨block, position, address, rfl, hposition, hindex, hhost, rfl⟩
      · rintro ⟨block', position, address, hblock, hposition, hindex, hhost, rfl⟩
        obtain rfl := Option.some.inj hblock
        exact ⟨_, hostOffset_eq_ok.mpr ⟨position, hposition, rfl⟩, hindex, address, hhost, rfl⟩

/-- The interfaces of a guest: one for each segment of its role, put into a table under its name. -/
theorem allocate_eq_ok {t : Topology} {networkOf : UInt32 → Segment → Option Network}
    {table : List (String × Interface)} :
    g.allocate t networkOf indexOffset = .ok table ↔
      ∃ interfaces, List.Forall₂ (fun entry interface =>
          g.interfaceAt networkOf indexOffset entry = .ok interface)
          (t.segmentsOf g.role.name).zipIdx interfaces
        ∧ Table.ofEntries (interfaces.map fun interface => (interface.name, interface))
          = table := by
  unfold allocate
  rw [Attempt.bind_eq_ok]
  exact exists_congr fun interfaces => and_congr Attempt.mapM_eq_ok Attempt.pure_eq_ok

/-- The interfaces of a guest are settled by the networks of its instance. -/
theorem allocate_congr {t : Topology} {networkOf networkOf' : UInt32 → Segment → Option Network}
    (h : networkOf g.instanceNumber = networkOf' g.instanceNumber) :
    g.allocate t networkOf indexOffset = g.allocate t networkOf' indexOffset := by
  have hat : interfaceAt networkOf indexOffset g = interfaceAt networkOf' indexOffset g := by
    funext entry
    rw [interfaceAt, interfaceAt, h]
  rw [allocate, allocate, hat]

end Guest

end RangeLab
