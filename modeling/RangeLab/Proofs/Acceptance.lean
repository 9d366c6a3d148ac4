import RangeLab.Proofs.Capacity
import RangeLab.Proofs.Reading

/-!
# Which scenarios are accepted

A scenario is compiled iff it satisfies conditions that can be read off its declarations
(`exists_compile_iff`): names that have slugs, roles and networks that are told apart by them, and a
root block with room for all networks and guests. The conditions are about the texts as the user
writes them; a text stands for its letters, and the proof carries each condition over to the slugs
that the declarations are read as.
-/

namespace RangeLab

open Ipv4 (Block)

/-! ## The conditions -/

namespace Scenario

/-- The declared number of copies of the role that a text names. -/
def copiesOf (s : Scenario) (name : String) : Nat :=
  match s.roles.find? fun d => Slug.letters d.name == Slug.letters name with
  | some d => d.copies.toNat
  | none => 0

/-- The number of networks that a role is a member of. -/
def attachments (s : Scenario) (role : String) : Nat :=
  s.networks.countP fun n => (n.members.map Slug.letters).contains (Slug.letters role)

/-- The length of the block that each network gets. -/
def subnetLength (s : Scenario) (root : Block) : Nat :=
  root.length + 8 + Nat.clog 2 s.networks.length

/-- The root block has room for the instances and their networks, each network has room for its
guests above the hosts that are kept free, and a word has room for the index of every interface. -/
structure FitsIn (s : Scenario) (root : Block) : Prop where
  instances_le : s.instances.toNat ≤ 255
  length_le : s.subnetLength root ≤ 32
  hosts_le : ∀ n ∈ s.networks, n.members ≠ [] →
    3 + (n.members.map fun member => max 1 (s.copiesOf member)).sum
      ≤ Block.usableHostsOf (s.subnetLength root)
  index_le : ∀ d ∈ s.roles, 1 ≤ s.attachments d.name →
    s.attachments d.name + s.indexOffset.toNat ≤ 2 ^ 32 - 1

/-- Every name of a scenario has a letter or digit, and the names of its machines have room for
more than institution and lab. -/
structure Named (s : Scenario) : Prop where
  institution_ne : Slug.letters s.institution ≠ []
  lab_ne : Slug.letters s.lab ≠ []
  identity_le : (Slug.letters s.institution).length + (Slug.letters s.lab).length ≤ 252
  roles_ne : ∀ d ∈ s.roles, Slug.letters d.name ≠ []
  networks_ne : ∀ n ∈ s.networks, Slug.letters n.name ≠ []
  members_ne : ∀ n ∈ s.networks, ∀ member ∈ n.members, Slug.letters member ≠ []

/-- The rules for roles and networks. -/
structure Consistent (s : Scenario) : Prop where
  roles_nodup : (s.roles.map fun d => Slug.letters d.name).Nodup
  not_service : ∀ d ∈ s.roles, ∀ v : Service, v.id.toList ≠ Slug.letters d.name
  copies_le : ∀ d ∈ s.roles, d.copies.toNat ≤ 251
  networks_nodup : (s.networks.map fun n => Slug.letters n.name).Nodup
  members_declared : ∀ n ∈ s.networks, ∀ member ∈ n.members,
    ∃ d ∈ s.roles, Slug.letters d.name = Slug.letters member
  members_nodup : ∀ n ∈ s.networks, (n.members.map Slug.letters).Nodup

/-- What a scenario must satisfy to be compiled. Without instances or without networks there is
nothing that needs room. -/
structure Acceptable (s : Scenario) : Prop where
  named : s.Named
  consistent : s.Consistent
  fits : ∃ root, Block.readRoot s.rootBlock = .ok root
    ∧ (1 ≤ s.instances → 1 ≤ s.networks.length → s.FitsIn root)

end Scenario

/-! ## Names -/

theorem RoleDeclaration.exists_toRole {d : RoleDeclaration} :
    (∃ r, d.toRole = .ok r) ↔ Slug.letters d.name ≠ [] := by
  rw [← Slug.exists_read]
  constructor
  · rintro ⟨r, h⟩
    exact ⟨r.name, Slug.read_eq_ok.mpr (toRole_eq_ok.mp h).1⟩
  · rintro ⟨name, h⟩
    exact ⟨{ name, sizing := d.sizing, copies := d.copies, entryPoint := d.entryPoint
             internetAccess := d.internetAccess, os := d.os },
      toRole_eq_ok.mpr ⟨Slug.read_eq_ok.mp h, rfl⟩⟩

theorem NetworkDeclaration.exists_toSlugs {d : NetworkDeclaration} :
    (∃ n, d.toSlugs = .ok n) ↔
      Slug.letters d.name ≠ [] ∧ ∀ member ∈ d.members, Slug.letters member ≠ [] := by
  simp only [← Slug.exists_read, ← Attempt.exists_mapM_eq_ok]
  constructor
  · rintro ⟨n, h⟩
    obtain ⟨members, hmembers, h⟩ := Attempt.bind_eq_ok.mp h
    obtain ⟨name, hname, -⟩ := Attempt.bind_eq_ok.mp h
    exact ⟨⟨name, hname⟩, members, hmembers⟩
  · rintro ⟨⟨name, hname⟩, members, hmembers⟩
    exact ⟨(name, members), Attempt.bind_eq_ok.mpr
      ⟨members, hmembers, Attempt.bind_eq_ok.mpr ⟨name, hname, rfl⟩⟩⟩

theorem LabId.exists_read {institution lab : String} :
    (∃ id, LabId.read institution lab = .ok id) ↔
      Slug.letters institution ≠ [] ∧ Slug.letters lab ≠ [] := by
  rw [← Slug.exists_read, ← Slug.exists_read]
  simp only [read_eq_ok, Slug.read_eq_ok]
  exact ⟨fun ⟨id, h, h'⟩ => ⟨⟨_, h⟩, _, h'⟩, fun ⟨⟨a, h⟩, b, h'⟩ => ⟨⟨a, b⟩, h, h'⟩⟩

/-! ## Rules -/

namespace Scenario.Spells

variable {s : Scenario} {roles : List Role} {networks : List (Slug × List Slug)}

theorem map_roles (h : s.Spells roles networks) :
    (s.roles.map fun d => Slug.letters d.name) = (roles.map Role.name).map Slug.chars := by
  rw [List.map_map]
  exact map_eq_of_forall₂ h.roles fun _ _ hr => hr.1

theorem map_networks (h : s.Spells roles networks) :
    (s.networks.map fun n => Slug.letters n.name) = (networks.map Prod.fst).map Slug.chars := by
  rw [List.map_map]
  exact map_eq_of_forall₂ h.networks fun _ _ hn => hn.1

theorem members_declared_iff (h : s.Spells roles networks) :
    (∀ n ∈ s.networks, ∀ member ∈ n.members,
        ∃ d ∈ s.roles, Slug.letters d.name = Slug.letters member) ↔
      ∀ n ∈ networks, ∀ member ∈ n.2, member ∈ roles.map Role.name := by
  refine forall_mem_iff_of_forall₂ h.networks fun d n hn => ?_
  have hchars : (∀ cs ∈ d.members.map Slug.letters, cs ∈ s.roles.map fun d => Slug.letters d.name)
      ↔ ∀ cs ∈ n.2.map Slug.chars, cs ∈ (roles.map Role.name).map Slug.chars := by
    rw [hn.2, h.map_roles]
  rw [List.forall_mem_map, List.forall_mem_map] at hchars
  simp only [List.mem_map_of_injective Slug.chars_injective] at hchars
  rw [← hchars]
  exact forall₂_congr fun _ _ => List.mem_map.symm

theorem consistent_iff (h : s.Spells roles networks) :
    s.Consistent ↔ Topology.Admissible roles networks := by
  have hroles : (s.roles.map fun d => Slug.letters d.name).Nodup ↔ (roles.map Role.name).Nodup := by
    rw [h.map_roles, List.nodup_map_iff Slug.chars_injective]
  have hnetworks : (s.networks.map fun n => Slug.letters n.name).Nodup ↔
      (networks.map Prod.fst).Nodup := by
    rw [h.map_networks, List.nodup_map_iff Slug.chars_injective]
  have hservice : (∀ d ∈ s.roles, ∀ v : Service, v.id.toList ≠ Slug.letters d.name) ↔
      ∀ r ∈ roles, ∀ v : Service, v.id ≠ r.name.text := by
    refine forall_mem_iff_of_forall₂ h.roles fun d r hr => forall_congr' fun v => ?_
    rw [hr.1, Slug.chars, ne_eq, String.toList_inj]
  have hcopies : (∀ d ∈ s.roles, d.copies.toNat ≤ 251) ↔ ∀ r ∈ roles, r.copies ≤ maxCopies := by
    refine forall_mem_iff_of_forall₂ h.roles fun d r hr => ?_
    rw [hr.2, UInt32.le_iff_toNat_le]
    rfl
  have hmembers : (∀ n ∈ s.networks, (n.members.map Slug.letters).Nodup) ↔
      ∀ n ∈ networks, n.2.Nodup := by
    refine forall_mem_iff_of_forall₂ h.networks fun d n hn => ?_
    rw [hn.2, List.nodup_map_iff Slug.chars_injective]
  constructor
  · intro c
    exact ⟨hroles.mp c.roles_nodup, hservice.mp c.not_service, hcopies.mp c.copies_le,
      hnetworks.mp c.networks_nodup, h.members_declared_iff.mp c.members_declared,
      hmembers.mp c.members_nodup⟩
  · intro c
    exact ⟨hroles.mpr c.roles_nodup, hservice.mpr c.not_service, hcopies.mpr c.copies_le,
      hnetworks.mpr c.networks_nodup, h.members_declared_iff.mpr c.members_declared,
      hmembers.mpr c.members_nodup⟩

/-! ## Room -/

/-- A member counts as often as an instance has guests of its role. -/
theorem guestCountOf_eq (h : s.Spells roles networks) {member : String} {name : Slug}
    (hname : Slug.letters member = name.chars) :
    max 1 (s.copiesOf member) = Topology.guestCountOf roles name := by
  have hfind : (s.roles.find? fun d => Slug.letters d.name == Slug.letters member).map
      RoleDeclaration.copies = (roles.find? fun r => r.name == name).map Role.copies := by
    refine map_find?_of_forall₂ h.roles (fun d r hr => ?_) fun _ _ hr => hr.2
    rw [hr.1, hname, Bool.eq_iff_iff, beq_iff_eq, beq_iff_eq]
    exact Slug.toList_text_inj
  unfold copiesOf Topology.guestCountOf
  cases hd : s.roles.find? fun d => Slug.letters d.name == Slug.letters member with
  | none =>
      rw [hd] at hfind
      rw [Option.map_eq_none_iff.mp hfind.symm]
      rfl
  | some d =>
      rw [hd] at hfind
      obtain ⟨r, hr, hrd⟩ := Option.map_eq_some_iff.mp hfind.symm
      rw [hr]
      show max 1 d.copies.toNat = r.guestCount.toNat
      rw [Role.toNat_guestCount, hrd]

theorem attachments_eq (h : s.Spells roles networks) {role : String} {name : Slug}
    (hname : Slug.letters role = name.chars) :
    s.attachments role = Topology.attachments networks name := by
  have hcontains :
      s.networks.map (fun n => (n.members.map Slug.letters).contains (Slug.letters role))
      = networks.map fun n => n.2.contains name := by
    refine map_eq_of_forall₂ h.networks fun d n hn => ?_
    rw [hn.2, hname, Bool.eq_iff_iff, List.contains_iff_mem, List.contains_iff_mem]
    exact List.mem_map_of_injective Slug.chars_injective
  have hcount := congrArg (List.countP id) hcontains
  rwa [List.countP_map, List.countP_map] at hcount

theorem subnetLength_eq (h : s.Spells roles networks) (root : Block) :
    s.subnetLength root = Topology.subnetLength root networks.length := by
  rw [subnetLength, Topology.subnetLength, bitsFor_eq_clog, h.networks.length_eq]
  rfl

theorem hosts_le_iff (h : s.Spells roles networks) {root : Block} :
    (∀ n ∈ s.networks, n.members ≠ [] →
        3 + (n.members.map fun member => max 1 (s.copiesOf member)).sum
          ≤ Block.usableHostsOf (s.subnetLength root)) ↔
      ∀ n ∈ networks, n.2 ≠ [] → reservedHosts + (n.2.map (Topology.guestCountOf roles)).sum
        ≤ Block.usableHostsOf (Topology.subnetLength root networks.length) := by
  refine forall_mem_iff_of_forall₂ h.networks fun d n hn => ?_
  have hmembers := hn.2
  have hnil : d.members = [] ↔ n.2 = [] := by
    rw [← List.map_eq_nil_iff, hmembers, List.map_eq_nil_iff]
  rw [← List.forall₂_eq_eq_eq, List.forall₂_map_left_iff, List.forall₂_map_right_iff] at hmembers
  rw [ne_eq, hnil, map_eq_of_forall₂ hmembers fun _ _ => h.guestCountOf_eq, h.subnetLength_eq]
  rfl

theorem index_le_iff (h : s.Spells roles networks) :
    (∀ d ∈ s.roles, 1 ≤ s.attachments d.name →
        s.attachments d.name + s.indexOffset.toNat ≤ 2 ^ 32 - 1) ↔
      ∀ r ∈ roles, 0 < Topology.attachments networks r.name →
        Topology.attachments networks r.name + s.indexOffset.toNat < 2 ^ 32 := by
  refine forall_mem_iff_of_forall₂ h.roles fun d r hr => ?_
  rw [h.attachments_eq hr.1]
  omega

theorem fitsIn_iff (h : s.Spells roles networks) {root : Block} :
    s.FitsIn root ↔ Topology.Fits roles networks root s.instances s.indexOffset := by
  constructor
  · intro f
    have hlen := f.length_le
    rw [h.subnetLength_eq] at hlen
    exact ⟨⟨f.instances_le, hlen⟩, h.hosts_le_iff.mp f.hosts_le, h.index_le_iff.mp f.index_le⟩
  · intro f
    have hlen : Topology.subnetLength root networks.length ≤ 32 := f.room.length_le
    rw [← h.subnetLength_eq] at hlen
    exact ⟨f.room.instances_le, hlen, h.hosts_le_iff.mpr f.hosts_le, h.index_le_iff.mpr f.index_le⟩

end Scenario.Spells

/-! ## Accepted scenarios -/

namespace Inventory

theorem exists_reads_iff {s : Scenario} :
    s.Named ↔ ∃ id roles networks, LabId.read s.institution s.lab = .ok id ∧ id.check = .ok ()
      ∧ s.roles.mapM RoleDeclaration.toRole = .ok roles
      ∧ s.networks.mapM NetworkDeclaration.toSlugs = .ok networks := by
  constructor
  · intro h
    obtain ⟨id, hid⟩ := LabId.exists_read.mpr ⟨h.institution_ne, h.lab_ne⟩
    obtain ⟨hinstitution, hlab⟩ := LabId.read_eq_ok.mp hid
    obtain ⟨roles, hroles⟩ := Attempt.exists_mapM_eq_ok.mpr fun d hd =>
      RoleDeclaration.exists_toRole.mpr (h.roles_ne d hd)
    obtain ⟨networks, hnetworks⟩ := Attempt.exists_mapM_eq_ok.mpr fun n hn =>
      NetworkDeclaration.exists_toSlugs.mpr ⟨h.networks_ne n hn, h.members_ne n hn⟩
    have hle := h.identity_le
    rw [hinstitution, hlab] at hle
    exact ⟨id, roles, networks, hid, LabId.check_eq_ok.mpr hle, hroles, hnetworks⟩
  · rintro ⟨id, roles, networks, hid, hcheck, hroles, hnetworks⟩
    obtain ⟨hinstitution, hlab⟩ := LabId.read_eq_ok.mp hid
    have hnamed := LabId.exists_read.mp ⟨id, hid⟩
    have hrole := Attempt.exists_mapM_eq_ok.mp ⟨roles, hroles⟩
    have hnetwork := Attempt.exists_mapM_eq_ok.mp ⟨networks, hnetworks⟩
    have hle := LabId.check_eq_ok.mp hcheck
    rw [← hinstitution, ← hlab] at hle
    exact {
      institution_ne := hnamed.1
      lab_ne := hnamed.2
      identity_le := hle
      roles_ne := fun d hd => RoleDeclaration.exists_toRole.mp (hrole d hd)
      networks_ne := fun n hn => (NetworkDeclaration.exists_toSlugs.mp (hnetwork n hn)).1
      members_ne := fun n hn => (NetworkDeclaration.exists_toSlugs.mp (hnetwork n hn)).2 }

/-- A scenario is compiled iff it is acceptable. -/
theorem exists_compile_iff {s : Scenario} : (∃ inv, compile s = .ok inv) ↔ s.Acceptable := by
  constructor
  · rintro ⟨inv, h⟩
    obtain ⟨id, root, roles, networks, r, hbuild⟩ := compile_eq_ok_iff_build.mp h
    have hspells := Scenario.spells_of_read r.roles_read r.networks_read
    have hfits := (exists_build_expand_iff r.admissible).mp ⟨inv, hbuild⟩
    refine ⟨?_, hspells.consistent_iff.mpr r.admissible, root, r.root_read, fun hi hn => ?_⟩
    · exact exists_reads_iff.mpr
        ⟨id, roles, networks, r.id_read, r.id_check, r.roles_read, r.networks_read⟩
    · rw [hspells.networks.length_eq] at hn
      exact hspells.fitsIn_iff.mpr
        (hfits (one_le_iff_ne_zero.mp hi) (List.ne_nil_of_length_pos hn))
  · rintro ⟨hnamed, hconsistent, root, hroot, hfits⟩
    obtain ⟨id, roles, networks, hid, hcheck, hroles, hnetworks⟩ := exists_reads_iff.mp hnamed
    have hspells := Scenario.spells_of_read hroles hnetworks
    have hadm := hspells.consistent_iff.mp hconsistent
    obtain ⟨inv, hbuild⟩ := (exists_build_expand_iff hadm).mpr fun hi hn =>
      hspells.fitsIn_iff.mp (hfits (one_le_iff_ne_zero.mpr hi)
        (hspells.networks.length_eq ▸ List.length_pos_iff.mpr hn))
    exact ⟨inv, compile_eq_ok_iff_build.mpr
      ⟨id, root, roles, networks, ⟨hid, hcheck, hroot, hroles, hnetworks, hadm⟩, hbuild⟩⟩

end Inventory

end RangeLab
