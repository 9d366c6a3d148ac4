import RangeLab.Proofs.Guest

/-!
# How an inventory is made

An inventory is made of a scenario iff every stage succeeds, and then each of its parts is what the
stage for it yields (`compile_eq_ok`). What is said of compiled inventories is read off the fields
of `Inventory.MadeFrom`; no proof after this module opens the chain of stages again.
-/

namespace RangeLab

open Ipv4 (Address Block)

/-- The network of a segment in an instance that has this block for it. -/
def Segment.network (segment : Segment) (id : LabId) (instanceNumber : UInt32) (block : Block) :
    Network :=
  { name := id.networkName instanceNumber segment.name
    base := segment.name
    instanceNumber, block
    members := segment.members }

namespace Inventory

/-- The guest of an inventory that a guest without interfaces becomes. -/
def Furnished (t : Topology) (plan : AddressPlan) (id : LabId) (indexOffset : UInt32)
    (bare g : Guest) : Prop :=
  ∃ table, bare.allocate t (plan.network? id) indexOffset = .ok table
    ∧ { bare with interfaces := table } = g

/-- The parts of a scenario that an inventory is made from: what its identity, its root block, its
roles and its networks are read as, the networks by the slugs of their names and members. -/
structure Reads (s : Scenario) (id : LabId) (root : Block) (roles : List Role)
    (networks : List (Slug × List Slug)) : Prop where
  id_read : LabId.read s.institution s.lab = .ok id
  id_check : id.check = .ok ()
  root_read : Block.readRoot s.rootBlock = .ok root
  roles_read : s.roles.mapM RoleDeclaration.toRole = .ok roles
  networks_read : s.networks.mapM NetworkDeclaration.toSlugs = .ok networks
  admissible : Topology.Admissible roles networks

/-- An inventory is made from a scenario with this root block and these networks. -/
structure MadeFrom (s : Scenario) (root : Block) (networks : List (Slug × List Slug))
    (inv : Inventory) : Prop extends Reads s inv.id root inv.topology.roles networks where
  topology_eq : inv.topology = Topology.expand inv.topology.roles networks
  plan_made : AddressPlan.make root s.instances networks.length = .ok inv.plan
  networks_eq : inv.networks = inv.plan.networkList inv.id inv.topology.segments
  guests_furnished : List.Forall₂ (Furnished inv.topology inv.plan inv.id s.indexOffset)
    (inv.id.guests inv.topology.roles s.instances) inv.guests
  services_eq : inv.services = inv.id.serviceGuests s.services.enabled
  instances_eq : inv.instances = s.instances
  randomSeed_eq : inv.randomSeed = s.randomSeed

theorem ofScenario_eq_ok {roles : List RoleDeclaration} {networks : List NetworkDeclaration}
    {t : Topology} :
    Topology.ofScenario roles networks = .ok t ↔ ∃ slugs,
      roles.mapM RoleDeclaration.toRole = .ok t.roles
        ∧ networks.mapM NetworkDeclaration.toSlugs = .ok slugs
        ∧ Topology.Admissible t.roles slugs ∧ t = Topology.expand t.roles slugs := by
  constructor
  · intro h
    obtain ⟨rs, hroles, h⟩ := Attempt.bind_eq_ok.mp h
    obtain ⟨slugs, hnetworks, h⟩ := Attempt.bind_eq_ok.mp h
    obtain ⟨hadm, rfl⟩ := Topology.ofDeclarations_eq_ok.mp h
    exact ⟨slugs, Attempt.mapError_eq_ok.mp hroles, Attempt.mapError_eq_ok.mp hnetworks, hadm, rfl⟩
  · rintro ⟨slugs, hroles, hnetworks, hadm, ht⟩
    exact Attempt.bind_eq_ok.mpr ⟨_, Attempt.mapError_eq_ok.mpr hroles, Attempt.bind_eq_ok.mpr
      ⟨_, Attempt.mapError_eq_ok.mpr hnetworks, Topology.ofDeclarations_eq_ok.mpr ⟨hadm, ht⟩⟩⟩

theorem furnish_eq_ok {t : Topology} {plan : AddressPlan} {id : LabId} {indexOffset : UInt32}
    {bare g : Guest} :
    (do return { bare with interfaces := ← bare.allocate t (plan.network? id) indexOffset }) =
      (.ok g : Except Fault Guest) ↔ Furnished t plan id indexOffset bare g := by
  rw [Attempt.bind_eq_ok]
  exact exists_congr fun table => and_congr_right fun _ => Attempt.pure_eq_ok

theorem build_eq_ok {id : LabId} {instances : UInt32} {root : Block} {t : Topology}
    {services : ServiceSwitches} {indexOffset : UInt32} {randomSeed : Option UInt64}
    {inv : Inventory} :
    build id instances root t services indexOffset randomSeed = .ok inv ↔ ∃ plan guests,
      AddressPlan.make root instances t.segments.length = .ok plan
        ∧ List.Forall₂ (Furnished t plan id indexOffset) (id.guests t.roles instances) guests
        ∧ { id, instances, randomSeed, topology := t, plan
            networks := plan.networkList id t.segments
            guests
            services := id.serviceGuests services.enabled } = inv := by
  constructor
  · intro h
    obtain ⟨plan, hplan, h⟩ := Attempt.bind_eq_ok.mp h
    obtain ⟨guests, hguests, h⟩ := Attempt.bind_eq_ok.mp h
    have hall := (Attempt.mapM_eq_ok.mp hguests).imp fun _ _ => furnish_eq_ok.mp
    exact ⟨plan, guests, hplan, hall, Attempt.pure_eq_ok.mp h⟩
  · rintro ⟨plan, guests, hplan, hall, rfl⟩
    have hguests := Attempt.mapM_eq_ok.mpr (hall.imp fun _ _ => furnish_eq_ok.mpr)
    exact Attempt.bind_eq_ok.mpr ⟨plan, hplan, Attempt.bind_eq_ok.mpr ⟨guests, hguests, rfl⟩⟩

/-- A scenario is compiled by reading its parts and building the inventory from them. -/
theorem compile_eq_ok_iff_build {s : Scenario} {inv : Inventory} :
    compile s = .ok inv ↔ ∃ id root roles networks, Reads s id root roles networks
      ∧ build id s.instances root (Topology.expand roles networks) s.services s.indexOffset
        s.randomSeed = .ok inv := by
  constructor
  · intro h
    obtain ⟨id, hid, h⟩ := Attempt.bind_eq_ok.mp h
    obtain ⟨_, hcheck, h⟩ := Attempt.bind_eq_ok.mp h
    obtain ⟨root, hroot, h⟩ := Attempt.bind_eq_ok.mp h
    obtain ⟨t, ht, hbuild⟩ := Attempt.bind_eq_ok.mp h
    obtain ⟨networks, hroles, hnetworks, hadm, hexpand⟩ := ofScenario_eq_ok.mp ht
    exact ⟨id, root, t.roles, networks, {
      id_read := Attempt.mapError_eq_ok.mp hid
      id_check := Attempt.mapError_eq_ok.mp hcheck
      root_read := Attempt.mapError_eq_ok.mp hroot
      roles_read := hroles
      networks_read := hnetworks
      admissible := hadm }, hexpand ▸ hbuild⟩
  · rintro ⟨id, root, roles, networks, r, hbuild⟩
    have ht : Topology.ofScenario s.roles s.networks = .ok (Topology.expand roles networks) :=
      ofScenario_eq_ok.mpr ⟨networks, r.roles_read, r.networks_read, r.admissible, rfl⟩
    refine Attempt.bind_eq_ok.mpr ⟨id, Attempt.mapError_eq_ok.mpr r.id_read, ?_⟩
    refine Attempt.bind_eq_ok.mpr ⟨(), Attempt.mapError_eq_ok.mpr r.id_check, ?_⟩
    refine Attempt.bind_eq_ok.mpr ⟨root, Attempt.mapError_eq_ok.mpr r.root_read, ?_⟩
    exact Attempt.bind_eq_ok.mpr ⟨_, ht, hbuild⟩

/-- The stages that make an inventory of a scenario. -/
theorem compile_eq_ok {s : Scenario} {inv : Inventory} :
    compile s = .ok inv ↔ ∃ root networks, MadeFrom s root networks inv := by
  rw [compile_eq_ok_iff_build]
  constructor
  · rintro ⟨id, root, roles, networks, r, hbuild⟩
    obtain ⟨plan, guests, hplan, hguests, rfl⟩ := build_eq_ok.mp hbuild
    rw [Topology.length_segments_expand] at hplan
    exact ⟨root, networks, {
      toReads := r
      topology_eq := rfl
      plan_made := hplan
      networks_eq := rfl
      guests_furnished := hguests
      services_eq := rfl
      instances_eq := rfl
      randomSeed_eq := rfl }⟩
  · rintro ⟨root, networks, m⟩
    refine ⟨inv.id, root, inv.topology.roles, networks, m.toReads, ?_⟩
    rw [← m.topology_eq]
    have hlen : inv.topology.segments.length = networks.length := by
      rw [m.topology_eq, Topology.length_segments_expand]
    refine build_eq_ok.mpr ⟨inv.plan, inv.guests, hlen ▸ m.plan_made, m.guests_furnished, ?_⟩
    rw [← m.networks_eq, ← m.services_eq, ← m.instances_eq, ← m.randomSeed_eq]

/-! ## Parts of a made inventory -/

namespace MadeFrom

variable {s : Scenario} {root : Block} {networks : List (Slug × List Slug)} {inv : Inventory}

theorem mem_segments (m : MadeFrom s root networks inv) {segment : Segment}
    (h : segment ∈ inv.topology.segments) :
    segment ∈ (Topology.expand inv.topology.roles networks).segments := m.topology_eq ▸ h

theorem nodup_segments (m : MadeFrom s root networks inv) :
    (inv.topology.segments.map Segment.name).Nodup := by
  rw [m.topology_eq]
  exact Topology.nodup_names_expand m.admissible

theorem root_plan (m : MadeFrom s root networks inv) : inv.plan.root = root.truncated := by
  have hplan := m.plan_made
  by_cases h : s.instances = 0 ∨ networks.length = 0
  · rw [AddressPlan.make_of_empty root h] at hplan
    exact (Except.ok.inj hplan) ▸ rfl
  · obtain ⟨hi, hn⟩ := not_or.mp h
    rw [((AddressPlan.make_eq_ok hi hn).mp hplan).2]

/-! ### Guests -/

theorem exists_bare (m : MadeFrom s root networks inv) {g : Guest} (h : g ∈ inv.guests) :
    ∃ i role copy, (1 ≤ i ∧ i ≤ inv.instances) ∧ role ∈ inv.topology.roles
      ∧ (1 ≤ copy ∧ copy ≤ role.guestCount)
      ∧ Furnished inv.topology inv.plan inv.id s.indexOffset (inv.id.guest i role copy) g := by
  obtain ⟨bare, hbare, hg⟩ := exists_left_of_forall₂ m.guests_furnished h
  obtain ⟨i, role, copy, hi, hrole, hcopy, rfl⟩ := LabId.mem_guests.mp hbare
  exact ⟨i, role, copy, m.instances_eq ▸ hi, hrole, hcopy, hg⟩

theorem role_and_copy (m : MadeFrom s root networks inv) {g : Guest} (hg : g ∈ inv.guests) :
    1 ≤ g.instanceNumber ∧ g.role ∈ inv.topology.roles ∧ 1 ≤ g.copy.toNat
      ∧ g.copy.toNat ≤ Topology.guestCountOf inv.topology.roles g.role.name := by
  obtain ⟨i, role, copy, hi, hrole, ⟨hone, hle⟩, table, -, rfl⟩ := m.exists_bare hg
  have hcount : copy.toNat ≤ Topology.guestCountOf inv.topology.roles role.name := by
    rw [Topology.guestCountOf_name m.admissible.roles_nodup hrole]
    exact UInt32.le_iff_toNat_le.mp hle
  exact ⟨hi.1, hrole, UInt32.le_iff_toNat_le.mp hone, hcount⟩

/-- A lab has a guest for each of its instances, each role and each copy of the role. -/
theorem exists_guest (m : MadeFrom s root networks inv) {i copy : UInt32} {role : Role}
    (hi : 1 ≤ i ∧ i ≤ inv.instances) (hrole : role ∈ inv.topology.roles)
    (hcopy : 1 ≤ copy ∧ copy ≤ role.guestCount) :
    ∃ g ∈ inv.guests, g.instanceNumber = i ∧ g.role = role ∧ g.copy = copy := by
  have hbare : inv.id.guest i role copy ∈ inv.id.guests inv.topology.roles s.instances :=
    LabId.mem_guests.mpr ⟨i, role, copy, m.instances_eq ▸ hi, hrole, hcopy, rfl⟩
  obtain ⟨g, hg, table, -, rfl⟩ := exists_right_of_forall₂ m.guests_furnished hbare
  exact ⟨_, hg, rfl, rfl, rfl⟩

/-- In a lab with an instance every role has a guest. -/
theorem exists_guest_of_role (m : MadeFrom s root networks inv) (hi : 1 ≤ inv.instances)
    {role : Role} (hrole : role ∈ inv.topology.roles) : ∃ g ∈ inv.guests, g.role = role := by
  obtain ⟨g, hg, -, heq, -⟩ := m.exists_guest ⟨UInt32.le_refl 1, hi⟩ hrole
    ⟨UInt32.le_refl 1, role.one_le_guestCount⟩
  exact ⟨g, hg, heq⟩

theorem nodup_keys (m : MadeFrom s root networks inv) : (inv.guests.map Guest.key).Nodup := by
  refine nodup_map_of_forall₂ m.guests_furnished
    (LabId.nodup_keys_guests m.admissible.roles_nodup) ?_
  rintro bare _ bare' _ _ _ ⟨table, _, rfl⟩ ⟨table', _, rfl⟩ hkey
  exact hkey

/-! ### Services -/

theorem mem_services (m : MadeFrom s root networks inv) {guest : ServiceGuest} :
    guest ∈ inv.services ↔ guest.service ∈ s.services.enabled
      ∧ guest = { name := inv.id.serviceName guest.service, service := guest.service } := by
  rw [m.services_eq, LabId.serviceGuests, List.mem_map]
  constructor
  · rintro ⟨v, hv, rfl⟩
    exact ⟨hv, rfl⟩
  · rintro ⟨hv, h⟩
    exact ⟨guest.service, hv, h.symm⟩

/-! ### Networks -/

/-- A network of an inventory is that of a segment in an instance for which the plan has a block. -/
theorem mem_networks (m : MadeFrom s root networks inv) {n : Network} :
    n ∈ inv.networks ↔ ∃ i block, ∃ segment ∈ inv.topology.segments, 1 ≤ i
      ∧ inv.plan.subnet? i segment.index = some block ∧ segment.network inv.id i block = n := by
  rw [m.networks_eq, AddressPlan.networkList]
  simp only [List.mem_flatMap, List.mem_filterMap, mem_ordinals, AddressPlan.network?,
    Option.map_eq_some_iff]
  constructor
  · rintro ⟨i, hi, segment, hsegment, block, hblock, rfl⟩
    exact ⟨i, block, segment, hsegment, hi.1, hblock, rfl⟩
  · rintro ⟨i, block, segment, hsegment, hi, hblock, rfl⟩
    obtain ⟨⟨-, hle, -⟩, -⟩ := AddressPlan.subnet?_eq_some hblock
    exact ⟨i, ⟨hi, hle⟩, segment, hsegment, block, hblock, rfl⟩

theorem network?_networkName (m : MadeFrom s root networks inv) {i : UInt32} {segment : Segment}
    {block : Block} (hsegment : segment ∈ inv.topology.segments) (hi : 1 ≤ i)
    (hblock : inv.plan.subnet? i segment.index = some block) :
    inv.network? (inv.id.networkName i segment.name) = some (segment.network inv.id i block) := by
  refine find?_of_key (m.mem_networks.mpr ⟨i, block, segment, hsegment, hi, hblock, rfl⟩) ?_
  intro n hn hname
  obtain ⟨i', block', segment', hsegment', hi', hblock', rfl⟩ := m.mem_networks.mp hn
  obtain ⟨rfl, hbase⟩ := LabId.networkName_inj inv.id hi' hi hname
  obtain rfl := List.inj_on_of_nodup_map m.nodup_segments hsegment' hsegment hbase
  obtain rfl := Option.some.inj (hblock'.symm.trans hblock)
  rfl

end MadeFrom

end Inventory

/-! ## A small lab -/

/-- Two instances of a lab with a role of three copies, which shares a network with another role,
and a service that is named like no role. -/
def Scenario.small : Scenario where
  institution := "Uni 1"
  lab := "lab"
  instances := 2
  roles := [{ name := "web", copies := 3 }, { name := "Data base" }]
  networks := [{ name := "dmz", members := ["web"] },
    { name := "lan", members := ["database", "WEB"] }]

end RangeLab
