import RangeLab.Proofs.Addresses

/-!
# The guests on a network

The members of a network are listed with an entry for every guest that is to be on it. A guest takes
the entry at the place of its role, and further copies take those behind it (`Guest.place?`).
Nothing checks that what a guest takes is an entry of its role. It is, since the entries of a role
are a run as long as the role has copies (`Topology.getElem?_run`), and no entry is left over, since
every one of them is in such a run (`Topology.exists_run`). So guests and entries correspond one to
one, and the hosts that are given out on a network are as many in a row as it has entries
(`Inventory.guests_take_entries`).
-/

namespace RangeLab

open Ipv4 (Address Block)

namespace Guest

/-- The place of the entry that a guest takes on a segment. Copies are numbered from 1. -/
def place? (g : Guest) (segment : Segment) : Option Nat :=
  (segment.position? g.role.name).map fun position => position + g.copy.toNat - 1

/-- The interfaces that a guest has on the network with this name. -/
def interfacesOn (g : Guest) (network : String) : List Interface :=
  (g.interfaces.map Prod.snd).filter fun i => i.network == network

/-- The guest takes the entry at a place of a network, which is one of its role, and has a single
interface on the network, with the host at that place, counted from the fourth. -/
structure Takes (g : Guest) (n : Network) (segment : Segment) (k : Nat) : Prop where
  place_eq : g.place? segment = some k
  entry_eq : n.members[k]? = some g.role.name
  host_eq : ∃ i, g.interfacesOn n.name = [i] ∧ n.block.host? (k + 3) = some i.address

end Guest

namespace Inventory

/-- The guests of the network's instance that have an interface on it. -/
def guestsOn (inv : Inventory) (n : Network) : List Guest :=
  (inv.guestsOfInstance n.instanceNumber).filter fun g => !(g.interfacesOn n.name).isEmpty

def interfacesOn (inv : Inventory) (network : String) : List Interface :=
  inv.interfaces.filter fun i => i.network == network

/-- The network is that of the segment in its instance. -/
structure Instantiates (inv : Inventory) (n : Network) (segment : Segment) : Prop where
  segment_mem : segment ∈ inv.topology.segments
  one_le : 1 ≤ n.instanceNumber
  subnet : inv.plan.subnet? n.instanceNumber segment.index = some n.block
  eq_network : n = segment.network inv.id n.instanceNumber n.block

namespace MadeFrom

variable {s : Scenario} {root : Block} {networks : List (Slug × List Slug)} {inv : Inventory}
variable {n : Network} {segment : Segment} {g : Guest} {i : Interface}

theorem exists_segment (m : MadeFrom s root networks inv) (hn : n ∈ inv.networks) :
    ∃ segment, inv.Instantiates n segment := by
  obtain ⟨instanceNumber, block, segment, hsegment, hone, hblock, rfl⟩ := m.mem_networks.mp hn
  exact ⟨segment, hsegment, hone, hblock, rfl⟩

theorem instance_le_of_subnet (m : MadeFrom s root networks inv) {instanceNumber : UInt32}
    {index : Nat} {block : Block} (h : inv.plan.subnet? instanceNumber index = some block) :
    instanceNumber ≤ inv.instances := by
  obtain ⟨⟨-, hle, -⟩, -⟩ := AddressPlan.subnet?_eq_some h
  rw [m.instances_eq]
  exact UInt32.le_trans hle (AddressPlan.instances_le_of_make m.plan_made)

/-! ## From an interface to the entry -/

/-- A guest with an interface on a network is of its instance and sits on its segment. -/
theorem sitsAt_of_mem_interfacesOn (m : MadeFrom s root networks inv)
    (hn : inv.Instantiates n segment) (hg : g ∈ inv.guests) (hi : i ∈ g.interfacesOn n.name) :
    g.instanceNumber = n.instanceNumber ∧ inv.SitsAt g segment n.block i.address := by
  obtain ⟨hmem, hnetwork⟩ := List.mem_filter.mp hi
  obtain ⟨entry, block, address, hsits, rfl⟩ := m.seat_of_mem_interfaces hg hmem
  have hname : inv.id.networkName g.instanceNumber entry.1.name
      = inv.id.networkName n.instanceNumber segment.name :=
    (beq_iff_eq.mp hnetwork).trans (congrArg Network.name hn.eq_network)
  obtain ⟨hinstance, hbase⟩ := inv.id.networkName_inj (m.role_and_copy hg).1 hn.one_le hname
  obtain rfl := List.inj_on_of_nodup_map m.nodup_segments hsits.segment_mem hn.segment_mem hbase
  obtain rfl := Option.some.inj (hsits.subnet.symm.trans (hinstance ▸ hn.subnet))
  exact ⟨hinstance, hsits⟩

/-- Where a guest sits is the entry that it takes, one of the run of its role. -/
theorem place_of_sitsAt (m : MadeFrom s root networks inv) {block : Block} {address : Address}
    (hg : g ∈ inv.guests) (h : inv.SitsAt g segment block address) :
    ∃ k, g.place? segment = some k ∧ segment.members[k]? = some g.role.name
      ∧ block.host? (k + 3) = some address := by
  obtain ⟨hsegment, -, position, hposition, hhost⟩ := h
  obtain ⟨-, -, hone, hle⟩ := m.role_and_copy hg
  obtain ⟨-, network, -, -, hmembers⟩ :=
    Topology.exists_network_of_mem_segments (m.mem_segments hsegment)
  refine ⟨position + g.copy.toNat - 1, by rw [Guest.place?, hposition, Option.map_some], ?_, ?_⟩
  · rw [Segment.position?, hmembers] at hposition
    rw [hmembers, Nat.add_sub_assoc hone]
    exact Topology.getElem?_run hposition (by omega)
  · rw [← hhost, reservedHosts]
    congr 1
    omega

/-- The place of a guest settles its address on a network. -/
theorem host_of_mem_interfacesOn (m : MadeFrom s root networks inv)
    (hn : inv.Instantiates n segment) (hg : g ∈ inv.guests) {k : Nat}
    (hk : g.place? segment = some k) (hi : i ∈ g.interfacesOn n.name) :
    n.block.host? (k + 3) = some i.address := by
  obtain ⟨k', hk', -, hhost⟩ := m.place_of_sitsAt hg (m.sitsAt_of_mem_interfacesOn hn hg hi).2
  obtain rfl := Option.some.inj (hk.symm.trans hk')
  exact hhost

/-- A guest has one interface on a network at most, as all of them have the host of the one place
that the guest takes. -/
theorem interfacesOn_eq_singleton (m : MadeFrom s root networks inv)
    (hn : inv.Instantiates n segment) (hg : g ∈ inv.guests) (hi : i ∈ g.interfacesOn n.name) :
    g.interfacesOn n.name = [i] := by
  obtain ⟨k, hk, -, -⟩ := m.place_of_sitsAt hg (m.sitsAt_of_mem_interfacesOn hn hg hi).2
  have hhost := m.host_of_mem_interfacesOn hn hg hk hi
  have hall : ∀ i' ∈ g.interfaces.map Prod.snd, i' ∈ inv.interfaces :=
    fun i' hi' => List.mem_flatMap.mpr ⟨g, hg, hi'⟩
  have hnd : (g.interfacesOn n.name).Nodup :=
    ((List.nodup_flatMap.mp (List.Nodup.of_map _ m.nodup_addresses)).1 g hg).filter _
  refine List.perm_singleton.mp ((List.perm_ext_iff_of_nodup hnd (List.nodup_singleton i)).mpr ?_)
  intro i'
  rw [List.mem_singleton]
  constructor
  · intro hi'
    have haddr := (m.host_of_mem_interfacesOn hn hg hk hi').symm.trans hhost
    exact List.inj_on_of_nodup_map m.nodup_addresses (hall i' (List.mem_of_mem_filter hi'))
      (hall i (List.mem_of_mem_filter hi)) (Option.some.inj haddr)
  · rintro rfl
    exact hi

/-- No guest of another instance has an interface on a network. -/
theorem guestsOn_eq (m : MadeFrom s root networks inv) (hn : inv.Instantiates n segment) :
    inv.guestsOn n = inv.guests.filter fun g => !(g.interfacesOn n.name).isEmpty := by
  rw [guestsOn, guestsOfInstance, List.filter_filter]
  refine List.filter_congr fun g hg => ?_
  cases hinterfaces : g.interfacesOn n.name with
  | nil => rfl
  | cons i rest =>
      have hi : i ∈ g.interfacesOn n.name := hinterfaces ▸ List.mem_cons_self
      simp [(m.sitsAt_of_mem_interfacesOn hn hg hi).1]

theorem mem_guestsOn (m : MadeFrom s root networks inv) (hn : inv.Instantiates n segment) :
    g ∈ inv.guestsOn n ↔ g ∈ inv.guests ∧ ∃ i, i ∈ g.interfacesOn n.name := by
  rw [m.guestsOn_eq hn, List.mem_filter, Bool.not_eq_true', List.isEmpty_eq_false_iff_exists_mem]

theorem exists_takes (m : MadeFrom s root networks inv) (hn : inv.Instantiates n segment)
    (hg : g ∈ inv.guestsOn n) : ∃ k, g.Takes n segment k := by
  obtain ⟨hg, i, hi⟩ := (m.mem_guestsOn hn).mp hg
  obtain ⟨k, hk, hentry, hhost⟩ :=
    m.place_of_sitsAt hg (m.sitsAt_of_mem_interfacesOn hn hg hi).2
  refine ⟨k, hk, ?_, i, m.interfacesOn_eq_singleton hn hg hi, hhost⟩
  rw [hn.eq_network]
  exact hentry

theorem eq_of_place_eq (m : MadeFrom s root networks inv) (hn : inv.Instantiates n segment)
    {g' : Guest} (hg : g ∈ inv.guestsOn n) (hg' : g' ∈ inv.guestsOn n)
    (hplace : g.place? segment = g'.place? segment) : g = g' := by
  obtain ⟨hmem, i, hi⟩ := (m.mem_guestsOn hn).mp hg
  obtain ⟨hmem', i', hi'⟩ := (m.mem_guestsOn hn).mp hg'
  obtain ⟨k, hk, -, -⟩ := m.exists_takes hn hg
  have hhost := m.host_of_mem_interfacesOn hn hmem hk hi
  have hhost' := m.host_of_mem_interfacesOn hn hmem' (hplace ▸ hk) hi'
  have hsits := (m.sitsAt_of_mem_interfacesOn hn hmem hi).2
  have hsits' := (m.sitsAt_of_mem_interfacesOn hn hmem' hi').2
  rw [← Option.some.inj (hhost.symm.trans hhost')] at hsits'
  exact List.inj_on_of_nodup_map m.nodup_keys hmem hmem' (m.sitsAt_unique hmem hmem' hsits hsits').2

/-! ## From an entry to the guest -/

/-- A guest whose role is attached to the segment of a network has an interface on it. -/
theorem exists_interfaceOn (m : MadeFrom s root networks inv) (hn : inv.Instantiates n segment)
    (hg : g ∈ inv.guests) (hinstance : g.instanceNumber = n.instanceNumber)
    (hrole : g.role.name ∈ segment.members) : ∃ i, i ∈ g.interfacesOn n.name := by
  have hsegment : segment ∈ inv.topology.segmentsOf g.role.name :=
    List.mem_filter.mpr ⟨hn.segment_mem, List.contains_iff_mem.mpr hrole⟩
  obtain ⟨place, hplace⟩ := List.mem_iff_getElem?.mp hsegment
  obtain ⟨i, hi, block, address, -, rfl⟩ := exists_right_of_forall₂ (m.seats_of_guest hg)
    (List.mk_mem_zipIdx_iff_getElem?.mpr hplace)
  refine ⟨_, List.mem_filter.mpr ⟨g.perm_interfacesInOrder.mem_iff.mp hi, beq_iff_eq.mpr ?_⟩⟩
  rw [hn.eq_network, ← hinstance]
  rfl

/-- Every entry is in the run of a role, which has a copy for it. -/
theorem exists_guest_at (m : MadeFrom s root networks inv) (hn : inv.Instantiates n segment)
    {k : Nat} (hk : k < segment.members.length) :
    ∃ g ∈ inv.guestsOn n, g.place? segment = some k := by
  obtain ⟨-, network, hnetwork, -, hmembers⟩ :=
    Topology.exists_network_of_mem_segments (m.mem_segments hn.segment_mem)
  rw [hmembers] at hk
  obtain ⟨name, hname, position, hposition, hle, hlt⟩ :=
    Topology.exists_run (m.admissible.members_nodup network hnetwork) hk
  obtain ⟨role, hrole, rfl⟩ :=
    List.mem_map.mp (m.admissible.members_declared network hnetwork name hname)
  rw [Topology.guestCountOf_name m.admissible.roles_nodup hrole] at hlt
  have hcopy : (UInt32.ofNat (k - position + 1)).toNat = k - position + 1 :=
    toNat_ofNat_of_lt (by have := role.guestCount.toNat_lt; omega)
  have hcopies : 1 ≤ UInt32.ofNat (k - position + 1)
      ∧ UInt32.ofNat (k - position + 1) ≤ role.guestCount := by
    rw [UInt32.le_iff_toNat_le, UInt32.le_iff_toNat_le, hcopy, UInt32.toNat_one]
    omega
  obtain ⟨g, hg, hinstance, rfl, hgcopy⟩ :=
    m.exists_guest ⟨hn.one_le, m.instance_le_of_subnet hn.subnet⟩ hrole hcopies
  have hmem : g.role.name ∈ segment.members := by
    rw [hmembers]
    exact Topology.mem_expandMembers.mpr hname
  refine ⟨g, (m.mem_guestsOn hn).mpr ⟨hg, m.exists_interfaceOn hn hg hinstance hmem⟩, ?_⟩
  rw [Guest.place?, Segment.position?, hmembers, hposition, Option.map_some, hgcopy, hcopy]
  congr 1
  omega

/-! ## All guests and entries -/

theorem nodup_guestsOn (m : MadeFrom s root networks inv) : (inv.guestsOn n).Nodup :=
  ((List.Nodup.of_map _ m.nodup_keys).filter _).filter _

/-- Every entry is taken, and by one guest only. -/
theorem perm_places (m : MadeFrom s root networks inv) (hn : inv.Instantiates n segment) :
    ((inv.guestsOn n).map fun g => g.place? segment).Perm
      ((List.range n.members.length).map some) := by
  have hmembers : n.members = segment.members := congrArg Network.members hn.eq_network
  have hplaces : ((inv.guestsOn n).map fun g => g.place? segment).Nodup :=
    List.Nodup.map_on (fun g hg g' hg' => m.eq_of_place_eq hn hg hg') m.nodup_guestsOn
  have hrange : ((List.range n.members.length).map some).Nodup :=
    List.nodup_range.map fun _ _ => Option.some.inj
  refine (List.perm_ext_iff_of_nodup hplaces hrange).mpr fun place => ?_
  rw [List.mem_map, List.mem_map]
  constructor
  · rintro ⟨g, hg, rfl⟩
    obtain ⟨k, htakes⟩ := m.exists_takes hn hg
    have hlt := (List.getElem?_eq_some_iff.mp htakes.entry_eq).1
    exact ⟨k, List.mem_range.mpr hlt, htakes.place_eq.symm⟩
  · rintro ⟨k, hk, rfl⟩
    exact m.exists_guest_at hn (hmembers ▸ List.mem_range.mp hk)

/-- The guests on a network have the hosts at their places, and no other interface is on it. -/
theorem map_address_interfacesOn (m : MadeFrom s root networks inv)
    (hn : inv.Instantiates n segment) :
    ((inv.interfacesOn n.name).map fun i => some i.address)
      = (inv.guestsOn n).map fun g => (g.place? segment).bind fun k => n.block.host? (k + 3) := by
  have hinterfaces : inv.interfacesOn n.name
      = (inv.guestsOn n).flatMap fun g => g.interfacesOn n.name := by
    rw [m.guestsOn_eq hn, flatMap_filter_not_isEmpty, interfacesOn, interfaces,
      List.filter_flatMap]
    rfl
  rw [hinterfaces, List.map_flatMap, List.map_eq_flatMap]
  refine List.flatMap_congr fun g hg => ?_
  obtain ⟨k, htakes⟩ := m.exists_takes hn hg
  obtain ⟨i, hi, hhost⟩ := htakes.host_eq
  rw [hi, htakes.place_eq, Option.bind_some, hhost, List.map_singleton]

end MadeFrom

/-- The guests with an interface on a network and the entries of its members correspond one to one:
each of these guests is of the network's instance and takes an entry of its role, and each entry is
taken by one of them. The hosts that they have are those from the fourth on, one for each entry. -/
theorem guests_take_entries {s : Scenario} {inv : Inventory} (h : compile s = .ok inv)
    {n : Network} (hn : n ∈ inv.networks) :
    ∃ segment ∈ inv.topology.segments, segment.name = n.base ∧ segment.members = n.members
      ∧ (∀ g ∈ inv.guests, g.interfacesOn n.name ≠ [] → g ∈ inv.guestsOn n)
      ∧ (∀ g ∈ inv.guestsOn n, ∃ k, g.Takes n segment k)
      ∧ ((inv.guestsOn n).map fun g => g.place? segment).Perm
        ((List.range n.members.length).map some)
      ∧ ((inv.interfacesOn n.name).map fun i => some i.address).Perm
        ((List.range n.members.length).map fun k => n.block.host? (k + 3))
      ∧ ((inv.interfacesOn n.name).map Interface.address).Nodup := by
  obtain ⟨root, networks, m⟩ := compile_eq_ok.mp h
  obtain ⟨segment, hsegment⟩ := m.exists_segment hn
  have hbase : segment.name = n.base := congrArg Network.base hsegment.eq_network.symm
  have hmembers : segment.members = n.members :=
    congrArg Network.members hsegment.eq_network.symm
  have hplaces := m.perm_places hsegment
  have haddresses := hplaces.map fun place => place.bind fun k => n.block.host? (k + 3)
  rw [List.map_map, List.map_map] at haddresses
  refine ⟨segment, hsegment.segment_mem, hbase, hmembers, fun g hg hne => ?_,
    fun g hg => m.exists_takes hsegment hg, hplaces, ?_, ?_⟩
  · exact (m.mem_guestsOn hsegment).mpr ⟨hg, List.exists_mem_of_ne_nil _ hne⟩
  · rw [m.map_address_interfacesOn hsegment]
    exact haddresses
  · exact m.nodup_addresses.sublist (List.filter_sublist.map Interface.address)

theorem guests_take_entries_small : ∃ inv n, compile .small = .ok inv ∧ n ∈ inv.networks
    ∧ n.name = "uni1-lab-2-lan" ∧ n.members.map Slug.text = ["database", "web", "web", "web"]
    ∧ (inv.guestsOn n).map Guest.name
      = ["uni1-lab-2-web-1", "uni1-lab-2-web-2", "uni1-lab-2-web-3", "uni1-lab-2-database"]
    ∧ (inv.interfacesOn n.name).map (fun i => i.address.render)
      = ["10.0.2.133", "10.0.2.134", "10.0.2.135", "10.0.2.132"]
    ∧ ∃ segment ∈ inv.topology.segments, segment.members = n.members
      ∧ (∀ g ∈ inv.guestsOn n, ∃ k, g.Takes n segment k)
      ∧ ((inv.guestsOn n).map fun g => g.place? segment).Perm
        ((List.range n.members.length).map some)
      ∧ ((inv.interfacesOn n.name).map fun i => some i.address).Perm
        ((List.range n.members.length).map fun k => n.block.host? (k + 3)) := by
  have hrun : (compile .small).map (fun inv => (inv.networks.map fun n => (n.name,
      n.members.map Slug.text, (inv.guestsOn n).map Guest.name,
      (inv.interfacesOn n.name).map fun i => i.address.render))[3]?)
        = .ok (some ("uni1-lab-2-lan", ["database", "web", "web", "web"],
          ["uni1-lab-2-web-1", "uni1-lab-2-web-2", "uni1-lab-2-web-3", "uni1-lab-2-database"],
          ["10.0.2.133", "10.0.2.134", "10.0.2.135", "10.0.2.132"])) := by decide +kernel
  obtain ⟨inv, h, hfacts⟩ := Attempt.map_eq_ok.mp hrun
  rw [List.getElem?_map, Option.map_eq_some_iff] at hfacts
  obtain ⟨n, hplace, hfacts⟩ := hfacts
  simp only [Prod.mk.injEq] at hfacts
  obtain ⟨hname, hmembers, hguests, haddresses⟩ := hfacts
  have hn := List.mem_of_getElem? hplace
  obtain ⟨segment, hsegment, -, hsame, -, htakes, hplaces, hhosts, -⟩ := guests_take_entries h hn
  exact ⟨inv, n, h, hn, hname, hmembers, hguests, haddresses, segment, hsegment, hsame, htakes,
    hplaces, hhosts⟩

end Inventory

end RangeLab
