import RangeLab.Proofs.Inventory

/-!
# Room for the guests of a lab

Declarations that satisfy all rules make an inventory iff the root block has room for what they
declare (`Topology.Fits`). The checks are made for one guest and one network at a time; over all
guests they come down to one bound for each network and one for each role:

* the runs of the members fill the first places of a network, so all of its guests find a host iff
  the last place does (`Allocates.hosts_le`);
* the interfaces of a guest are numbered without gaps, so all of its indices fit in a word iff the
  last one does (`Allocates.index_le`).
-/

namespace RangeLab

open Ipv4 (Address Block)

namespace Topology

/-- The number of networks that have the role as a member. -/
def attachments (networks : List (Slug × List Slug)) (role : Slug) : Nat :=
  networks.countP fun network => network.2.contains role

def subnetLength (root : Block) (networks : Nat) : Nat :=
  root.length + instanceBits + bitsFor networks

/-- The root block has room for the declarations: for each network and its guests, and a word has
room for the indices of all interfaces. -/
structure Fits (roles : List Role) (networks : List (Slug × List Slug)) (root : Block)
    (instances indexOffset : UInt32) : Prop where
  room : root.HasRoom instances networks.length
  hosts_le : ∀ network ∈ networks, network.2 ≠ [] →
    reservedHosts + (network.2.map (guestCountOf roles)).sum
      ≤ Block.usableHostsOf (subnetLength root networks.length)
  index_le : ∀ role ∈ roles, 0 < attachments networks role.name →
    attachments networks role.name + indexOffset.toNat < 2 ^ 32

variable {roles : List Role} {networks : List (Slug × List Slug)}

/-! ## The segments of a role -/

theorem map_members_segments_expand :
    (expand roles networks).segments.map Segment.members
      = networks.map fun network => expandMembers roles network.2 := by
  refine List.ext_getElem (by simp) fun index h h' => ?_
  simp [expand, segmentAt]

theorem length_segmentsOf_expand (name : Slug) :
    ((expand roles networks).segmentsOf name).length = attachments networks name := by
  have hcount := congrArg (List.countP fun members => members.contains name)
    (@map_members_segments_expand roles networks)
  rw [List.countP_map, List.countP_map] at hcount
  rw [segmentsOf, ← List.countP_eq_length_filter, attachments]
  refine hcount.trans (List.countP_congr fun network _ => ?_)
  simp

theorem mem_segmentsOf_expand {segment : Segment} {name : Slug} :
    segment ∈ (expand roles networks).segmentsOf name ↔
      segment ∈ (expand roles networks).segments ∧ name ∈ segment.members := by
  rw [segmentsOf, List.mem_filter, Segment.contains, List.contains_iff_mem]

/-! ## One interface -/

variable {p : AddressPlan} {id : LabId} {indexOffset : UInt32}

/-- With room for the networks, a guest gets an interface on a segment iff the index fits in a word
and the place of the guest is the place of a host. -/
theorem exists_interfaceAt_iff {g : Guest} {segment : Segment} {k : Nat}
    (hroom : p.root.HasRoom p.instances p.networks) (hname : g.name.isEmpty = false)
    (h1 : 1 ≤ g.instanceNumber) (hi : g.instanceNumber ≤ p.instances)
    (hindex : segment.index < p.networks) :
    (∃ interface, g.interfaceAt (p.network? id) indexOffset (segment, k) = .ok interface) ↔
      (UInt32.ofNat (k + 1)).toNat + indexOffset.toNat < 2 ^ 32
        ∧ ∃ position, segment.position? g.role.name = some position
          ∧ position + g.copy.toNat + reservedHosts - 1
            < Block.usableHostsOf (subnetLength p.root p.networks) := by
  obtain ⟨block, hblock⟩ := AddressPlan.exists_subnet? hroom h1 hi hindex
  have hlen : block.length = subnetLength p.root p.networks := AddressPlan.length_subnet hblock
  constructor
  · rintro ⟨interface, h⟩
    obtain ⟨block', position, address, hblock', hposition, hordinal, hhost, -⟩ :=
      (Guest.interfaceAt_eq_ok hname).mp h
    obtain rfl := Option.some.inj (hblock.symm.trans hblock')
    have hlt := Block.exists_host?_iff.mp ⟨address, hhost⟩
    rw [Block.usableHosts_eq, hlen] at hlt
    exact ⟨hordinal, position, hposition, hlt⟩
  · rintro ⟨hordinal, position, hposition, hlt⟩
    rw [← hlen, ← Block.usableHosts_eq] at hlt
    obtain ⟨address, hhost⟩ := Block.exists_host?_iff.mpr hlt
    exact ⟨_, (Guest.interfaceAt_eq_ok hname).mpr
      ⟨block, position, address, hblock, hposition, hordinal, hhost, rfl⟩⟩

theorem exists_allocate_iff {t : Topology} {g : Guest}
    {networkOf : UInt32 → Segment → Option Network} :
    (∃ table, g.allocate t networkOf indexOffset = .ok table) ↔
      ∀ entry ∈ (t.segmentsOf g.role.name).zipIdx,
        ∃ interface, g.interfaceAt networkOf indexOffset entry = .ok interface := by
  rw [← Attempt.exists_mapM_eq_ok]
  constructor
  · rintro ⟨table, h⟩
    obtain ⟨interfaces, hall, -⟩ := Guest.allocate_eq_ok.mp h
    exact ⟨interfaces, Attempt.mapM_eq_ok.mpr hall⟩
  · rintro ⟨interfaces, h⟩
    exact ⟨_, Guest.allocate_eq_ok.mpr ⟨interfaces, Attempt.mapM_eq_ok.mp h, rfl⟩⟩

/-! ## All guests -/

/-- The guests get all of their interfaces. -/
def Allocates (roles : List Role) (networks : List (Slug × List Slug)) (p : AddressPlan)
    (id : LabId) (indexOffset : UInt32) : Prop :=
  ∀ bare ∈ id.guests roles p.instances, ∃ table,
    bare.allocate (expand roles networks) (p.network? id) indexOffset = .ok table

/-- The guests of the first instance get an interface for each segment of their role. -/
theorem Allocates.first_instance (h : Allocates roles networks p id indexOffset)
    (hroom : p.root.HasRoom p.instances p.networks) (hnetworks : p.networks = networks.length)
    (hi : p.instances ≠ 0) {role : Role} (hrole : role ∈ roles) {copy : UInt32} (hone : 1 ≤ copy)
    (hcopy : copy ≤ role.guestCount) {k : Nat} {segment : Segment}
    (hk : ((expand roles networks).segmentsOf role.name)[k]? = some segment) :
    (UInt32.ofNat (k + 1)).toNat + indexOffset.toNat < 2 ^ 32
      ∧ ∃ position, segment.position? role.name = some position
        ∧ position + copy.toNat + reservedHosts - 1
          < Block.usableHostsOf (subnetLength p.root p.networks) := by
  have h1 : (1 : UInt32) ≤ p.instances := one_le_iff_ne_zero.mpr hi
  have hbare : id.guest 1 role copy ∈ id.guests roles p.instances := LabId.mem_guests.mpr
    ⟨1, role, copy, ⟨UInt32.le_refl 1, h1⟩, hrole, ⟨hone, hcopy⟩, rfl⟩
  have hentry : (segment, k) ∈ ((expand roles networks).segmentsOf role.name).zipIdx :=
    List.mk_mem_zipIdx_iff_getElem?.mpr hk
  have hsegment := (mem_segmentsOf_expand.mp (List.mem_of_getElem? hk)).1
  have hindex := (exists_network_of_mem_segments hsegment).1
  exact (exists_interfaceAt_iff hroom (id.name_guest_ne_empty 1 role copy) (UInt32.le_refl 1) h1
    (hnetworks ▸ hindex)).mp (exists_allocate_iff.mp (h _ hbare) _ hentry)

/-- The last place of a network is the place of one of the guests, so it is that of a host. The
guest is the copy that many places into the run of its role. -/
theorem Allocates.hosts_le (h : Allocates roles networks p id indexOffset)
    (hadm : Admissible roles networks) (hroom : p.root.HasRoom p.instances p.networks)
    (hnetworks : p.networks = networks.length) (hi : p.instances ≠ 0)
    {network : Slug × List Slug} (hmem : network ∈ networks) (hne : network.2 ≠ []) :
    reservedHosts + (network.2.map (guestCountOf roles)).sum
      ≤ Block.usableHostsOf (subnetLength p.root p.networks) := by
  obtain ⟨index, hindex, rfl⟩ := List.getElem_of_mem hmem
  rw [← length_expandMembers]
  have hpos : 0 < (expandMembers roles networks[index].2).length :=
    List.length_pos_iff.mpr fun hnil => hne (expandMembers_eq_nil_iff.mp hnil)
  obtain ⟨name, hname, position, hposition, hle, hlt⟩ :=
    exists_run (hadm.members_nodup _ hmem) (Nat.sub_lt hpos Nat.one_pos)
  obtain ⟨role, hrole, rfl⟩ := List.mem_map.mp (hadm.members_declared _ hmem _ hname)
  rw [guestCountOf_name hadm.roles_nodup hrole] at hlt
  have hcount : role.guestCount.toNat < 2 ^ 32 := role.guestCount.toNat_lt
  have hcopy : (UInt32.ofNat ((expandMembers roles networks[index].2).length - position)).toNat
      = (expandMembers roles networks[index].2).length - position :=
    toNat_ofNat_of_lt (by omega)
  have hsegment : segmentAt roles index networks[index]
      ∈ (expand roles networks).segmentsOf role.name :=
    mem_segmentsOf_expand.mpr
      ⟨mem_segments_expand.mpr ⟨index, hindex, rfl⟩, mem_expandMembers.mpr hname⟩
  obtain ⟨k, hk⟩ := List.getElem?_of_mem hsegment
  obtain ⟨-, position', hposition', hhost⟩ := h.first_instance hroom hnetworks hi hrole
    (UInt32.le_iff_toNat_le.mpr (by rw [hcopy]; show 1 ≤ _; omega))
    (UInt32.le_iff_toNat_le.mpr (by rw [hcopy]; omega)) hk
  obtain rfl := Option.some.inj (hposition.symm.trans hposition')
  rw [hcopy, reservedHosts] at hhost
  rw [reservedHosts]
  omega

/-- A guest has as many interfaces as its role has networks, and the index of the last one fits. -/
theorem Allocates.index_le (h : Allocates roles networks p id indexOffset)
    (hroom : p.root.HasRoom p.instances p.networks) (hnetworks : p.networks = networks.length)
    (hi : p.instances ≠ 0) {role : Role} (hrole : role ∈ roles)
    (hpos : 0 < attachments networks role.name) :
    attachments networks role.name + indexOffset.toNat < 2 ^ 32 := by
  have hle : attachments networks role.name ≤ 2 ^ 24 :=
    Nat.le_trans List.countP_le_length (hnetworks ▸ hroom.networks_le)
  rw [← @length_segmentsOf_expand roles] at hpos hle ⊢
  have hlast := List.getElem?_eq_getElem (Nat.sub_lt hpos Nat.one_pos)
  obtain ⟨hindex, -⟩ := h.first_instance hroom hnetworks hi hrole (UInt32.le_refl 1)
    role.one_le_guestCount hlast
  rwa [Nat.sub_add_cancel hpos, toNat_ofNat_of_lt (by omega)] at hindex

/-- The ordinal of a segment is at most the number of those of the role. -/
theorem Fits.ordinal_add_lt {root : Block} {instances : UInt32}
    (h : Fits roles networks root instances indexOffset) {role : Role} (hrole : role ∈ roles)
    {k : Nat} (hk : k < attachments networks role.name) :
    (UInt32.ofNat (k + 1)).toNat + indexOffset.toNat < 2 ^ 32 := by
  have hbound := h.index_le role hrole (by omega)
  have hle : attachments networks role.name ≤ 2 ^ 24 :=
    Nat.le_trans List.countP_le_length h.room.networks_le
  rw [toNat_ofNat_of_lt (by omega)]
  omega

/-- The place of a copy is one of the places of the network. -/
theorem Fits.place_lt {root : Block} {instances : UInt32}
    (h : Fits roles networks root instances indexOffset) (hadm : Admissible roles networks)
    {network : Slug × List Slug} (hnetwork : network ∈ networks) {role : Role}
    (hrole : role ∈ roles) {copy : UInt32} (hone : 1 ≤ copy) (hcopy : copy ≤ role.guestCount)
    {position : Nat}
    (hposition : (expandMembers roles network.2).idxOf? role.name = some position) :
    position + copy.toNat + reservedHosts - 1
      < Block.usableHostsOf (subnetLength root networks.length) := by
  have hone' : 1 ≤ copy.toNat := UInt32.le_iff_toNat_le.mp hone
  have hcopy' : copy.toNat ≤ guestCountOf roles role.name := by
    rw [guestCountOf_name hadm.roles_nodup hrole]
    exact UInt32.le_iff_toNat_le.mp hcopy
  have hplace : (expandMembers roles network.2)[position + (copy.toNat - 1)]? = some role.name :=
    getElem?_run hposition (by omega)
  have hlt := (List.getElem?_eq_some_iff.mp hplace).1
  rw [length_expandMembers] at hlt
  have hne : network.2 ≠ [] := fun hnil => by
    rw [hnil] at hlt
    exact absurd hlt (Nat.not_lt_zero _)
  have hbound := h.hosts_le network hnetwork hne
  rw [reservedHosts] at hbound ⊢
  omega

/-- If the bounds hold of the last places and indices, they hold of all. -/
theorem Fits.allocates (hadm : Admissible roles networks) (hnetworks : p.networks = networks.length)
    (h : Fits roles networks p.root p.instances indexOffset) :
    Allocates roles networks p id indexOffset := by
  have hroom : p.root.HasRoom p.instances p.networks := hnetworks ▸ h.room
  intro bare hbare
  obtain ⟨i, role, copy, ⟨h1, hi⟩, hrole, ⟨hone, hcopy⟩, rfl⟩ := LabId.mem_guests.mp hbare
  refine exists_allocate_iff.mpr fun ⟨segment, k⟩ hentry => ?_
  have hk := List.mk_mem_zipIdx_iff_getElem?.mp hentry
  obtain ⟨hsegment, hmem⟩ := mem_segmentsOf_expand.mp (List.mem_of_getElem? hk)
  obtain ⟨hindex, network, hnetwork, -, hmembers⟩ := exists_network_of_mem_segments hsegment
  have hlt : k < attachments networks role.name := by
    rw [← @length_segmentsOf_expand roles]
    exact (List.getElem?_eq_some_iff.mp hk).1
  rw [hmembers] at hmem
  obtain ⟨position, hposition⟩ := Option.isSome_iff_exists.mp (List.isSome_idxOf?.mpr hmem)
  have hposition' : segment.position? role.name = some position := by
    rw [Segment.position?, hmembers]
    exact hposition
  have hplace := h.place_lt hadm hnetwork hrole hone hcopy hposition
  rw [← hnetworks] at hplace
  exact (exists_interfaceAt_iff hroom (id.name_guest_ne_empty i role copy) h1 hi
    (hnetworks ▸ hindex)).mpr ⟨h.ordinal_add_lt hrole hlt, position, hposition', hplace⟩

end Topology

namespace Inventory

open RangeLab.Topology

variable {roles : List Role} {networks : List (Slug × List Slug)} {root : Block} {id : LabId}
variable {instances indexOffset : UInt32} {services : ServiceSwitches} {randomSeed : Option UInt64}

theorem exists_build_iff {t : Topology} :
    (∃ inv, build id instances root t services indexOffset randomSeed = .ok inv) ↔
      ∃ plan, AddressPlan.make root instances t.segments.length = .ok plan
        ∧ ∀ bare ∈ id.guests t.roles instances, ∃ table,
          bare.allocate t (plan.network? id) indexOffset = .ok table := by
  constructor
  · rintro ⟨inv, h⟩
    obtain ⟨plan, guests, hplan, hall, -⟩ := build_eq_ok.mp h
    have hguests := Attempt.mapM_eq_ok.mpr (hall.imp fun _ _ => furnish_eq_ok.mpr)
    refine ⟨plan, hplan, fun bare hbare => ?_⟩
    obtain ⟨g, hg⟩ := Attempt.exists_mapM_eq_ok.mp ⟨guests, hguests⟩ bare hbare
    obtain ⟨table, htable, -⟩ := furnish_eq_ok.mp hg
    exact ⟨table, htable⟩
  · rintro ⟨plan, hplan, hall⟩
    have hfurnish : ∀ bare ∈ id.guests t.roles instances, ∃ g,
        (do return { bare with
          interfaces := ← bare.allocate t (plan.network? id) indexOffset }) =
          (.ok g : Except Fault Guest) := by
      intro bare hbare
      obtain ⟨table, htable⟩ := hall bare hbare
      exact ⟨_, furnish_eq_ok.mpr ⟨table, htable, rfl⟩⟩
    obtain ⟨guests, hguests⟩ := Attempt.exists_mapM_eq_ok.mpr hfurnish
    have hforall := (Attempt.mapM_eq_ok.mp hguests).imp fun _ _ => furnish_eq_ok.mp
    exact ⟨_, build_eq_ok.mpr ⟨plan, guests, hplan, hforall, rfl⟩⟩

/-- An inventory is made of declarations that satisfy all rules iff there is nothing to make or the
root block has room for it. -/
theorem exists_build_expand_iff (hadm : Admissible roles networks) :
    (∃ inv, build id instances root (expand roles networks) services indexOffset randomSeed
      = .ok inv) ↔
      (instances ≠ 0 → networks ≠ [] → Fits roles networks root instances indexOffset) := by
  rw [exists_build_iff, length_segments_expand, roles_expand]
  by_cases hempty : instances = 0 ∨ networks.length = 0
  · refine iff_of_true ⟨_, AddressPlan.make_of_empty root hempty, fun bare hbare => ?_⟩ ?_
    · obtain ⟨i, role, copy, ⟨h1, hi⟩, -, -, rfl⟩ := LabId.mem_guests.mp hbare
      refine exists_allocate_iff.mpr fun entry hentry => ?_
      rcases hempty with rfl | hnil
      · exact absurd (UInt32.le_trans h1 hi) (by decide)
      · obtain rfl := List.eq_nil_of_length_eq_zero hnil
        cases hentry
    · intro hi hn
      rcases hempty with h | h
      · exact absurd h hi
      · exact absurd (List.eq_nil_of_length_eq_zero h) hn
  · obtain ⟨hi, hn⟩ := not_or.mp hempty
    have hne : networks ≠ [] := fun h => hn (congrArg List.length h)
    rw [forall_prop_of_true hi, forall_prop_of_true hne]
    constructor
    · rintro ⟨plan, hplan, h⟩
      obtain ⟨hroom, rfl⟩ := (AddressPlan.make_eq_ok hi hn).mp hplan
      have hroom' : root.truncated.HasRoom instances networks.length :=
        ⟨hroom.instances_le, hroom.length_le⟩
      have hall : Allocates roles networks
          { root := root.truncated, instances, networks := networks.length } id indexOffset := h
      exact {
        room := hroom
        hosts_le := fun network hmem hmembers =>
          hall.hosts_le hadm hroom' rfl hi hmem hmembers
        index_le := fun role hrole hpos => hall.index_le hroom' rfl hi hrole hpos }
    · intro h
      have h' : Fits roles networks root.truncated instances indexOffset :=
        ⟨⟨h.room.instances_le, h.room.length_le⟩, h.hosts_le, h.index_le⟩
      have hall : Allocates roles networks
          { root := root.truncated, instances, networks := networks.length } id indexOffset :=
        Fits.allocates hadm rfl h'
      exact ⟨_, (AddressPlan.make_eq_ok hi hn).mpr ⟨h.room, rfl⟩, hall⟩

end Inventory

end RangeLab
