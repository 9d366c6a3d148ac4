import RangeLab.Proofs.Inventory
import RangeLab.Proofs.Reading
import RangeLab.Proofs.Table
import RangeLab.Record

/-!
# The interfaces of a guest

The interfaces of a guest are made in the order in which its networks are declared, and numbered in
that order. Their names differ in their numbers, so each of them stays in the table of the guest
(`MadeFrom.equipped_of_guest`). The table has them in the order of their names, where the tenth
comes before the second; by their indices they are in the order of declaration again
(`interfaces_in_declared_order`).
-/

namespace RangeLab

open Ipv4 (Block)

namespace Guest

variable {g : Guest} {plan : AddressPlan} {id : LabId} {indexOffset : UInt32}

theorem perm_interfacesInOrder (g : Guest) :
    g.interfacesInOrder.Perm (g.interfaces.map Prod.snd) := List.mergeSort_perm _ _

/-- Interfaces whose indices ascend are in order. -/
theorem interfacesInOrder_eq {interfaces : List Interface}
    (hperm : (g.interfaces.map Prod.snd).Perm interfaces)
    (hindex : interfaces.Pairwise fun i i' => i.index < i'.index) :
    g.interfacesInOrder = interfaces := by
  have hsorted : g.interfacesInOrder.Pairwise fun i i' => i.index ≤ i'.index := by
    refine (List.pairwise_mergeSort (fun i i' i'' h h' => ?_) (fun i i' => ?_) _).imp
      of_decide_eq_true
    · exact decide_eq_true (UInt32.le_trans (of_decide_eq_true h) (of_decide_eq_true h'))
    · simpa using UInt32.le_total i.index i'.index
  have hinj : ∀ i ∈ interfaces, ∀ i' ∈ interfaces, i.index = i'.index → i = i' :=
    List.inj_on_of_nodup_map (List.pairwise_map.mpr (hindex.imp UInt32.ne_of_lt))
  have hall := g.perm_interfacesInOrder.trans hperm
  refine List.Perm.eq_of_pairwise (fun i i' hi hi' hle hle' => ?_) hsorted
    (hindex.imp UInt32.le_of_lt) hall
  exact hinj i (hall.mem_iff.mp hi) i' hi' (UInt32.le_antisymm hle hle')

/-! ## Names and indices -/

variable {t : Topology} {interfaces : List Interface}

/-- Ordinals of interfaces do not wrap round where there are less than `2 ^ 32` segments. -/
theorem toNat_ordinal (hfew : (t.segmentsOf g.role.name).length < 2 ^ 32) {entry : Segment × Nat}
    (h : entry ∈ (t.segmentsOf g.role.name).zipIdx) :
    (UInt32.ofNat (entry.2 + 1)).toNat = entry.2 + 1 := by
  have hlt := List.snd_lt_of_mem_zipIdx h
  exact toNat_ofNat_of_lt (by omega)

/-- The interface of a guest at a place is named and numbered by the place. -/
structure NumberedAt (g : Guest) (indexOffset : UInt32) (place : Nat) (i : Interface) : Prop where
  name_eq : i.name = g.name ++ "-" ++ toString (place + 1)
  index_eq : i.index.toNat = place + 1 + indexOffset.toNat

theorem numberedAt_of_interfaceAt (hname : g.name.isEmpty = false) {entry : Segment × Nat}
    (hordinal : (UInt32.ofNat (entry.2 + 1)).toNat = entry.2 + 1) {i : Interface}
    (h : g.interfaceAt (plan.network? id) indexOffset entry = .ok i) :
    g.NumberedAt indexOffset entry.2 i := by
  obtain ⟨block, position, address, -, -, hfits, -, rfl⟩ := (interfaceAt_eq_ok hname).mp h
  rw [hordinal] at hfits
  refine { name_eq := ?_, index_eq := ?_ }
  · show g.name ++ "-" ++ toString (UInt32.ofNat (entry.2 + 1)).toNat = _
    rw [hordinal]
  · show (UInt32.ofNat (entry.2 + 1) + indexOffset).toNat = _
    rw [UInt32.toNat_add, hordinal]
    exact Nat.mod_eq_of_lt hfits

section

variable {segments : List Segment}

/-- Interfaces that are numbered by their places have different names. -/
theorem nodup_names_of_numberedAt
    (h : List.Forall₂ (fun entry i => g.NumberedAt indexOffset entry.2 i)
      segments.zipIdx interfaces) :
    (interfaces.map Interface.name).Nodup := by
  refine List.pairwise_map.mpr (pairwise_of_forall₂ h (pairwise_lt_zipIdx segments 0) ?_)
  intro entry _ entry' _ i i' hi hi' hlt heq
  rw [hi.name_eq, hi'.name_eq] at heq
  exact Nat.ne_of_lt hlt (Nat.succ.inj (Numeral.numbered_inj heq))

/-- The indices of interfaces that are numbered by their places ascend. -/
theorem pairwise_index_of_numberedAt
    (h : List.Forall₂ (fun entry i => g.NumberedAt indexOffset entry.2 i)
      segments.zipIdx interfaces) :
    interfaces.Pairwise fun i i' => i.index < i'.index := by
  refine pairwise_of_forall₂ h (pairwise_lt_zipIdx segments 0) ?_
  intro entry _ entry' _ i i' hi hi' hlt
  rw [UInt32.lt_iff_toNat_lt, hi.index_eq, hi'.index_eq]
  omega

end

/-- What a guest has for interfaces: by index, those on the segments of its role in the order of the
segments, and each of them once in its table, under its name. -/
structure Equipped (g : Guest) (t : Topology) (plan : AddressPlan) (id : LabId)
    (indexOffset : UInt32) : Prop where
  on_segments : List.Forall₂ (fun entry i =>
      g.interfaceAt (plan.network? id) indexOffset entry = .ok i
        ∧ g.NumberedAt indexOffset entry.2 i)
    (t.segmentsOf g.role.name).zipIdx g.interfacesInOrder
  by_name : g.interfaces.Perm (g.interfacesInOrder.map fun i => (i.name, i))
  sorted : Table.Sorted g.interfaces

end Guest

theorem Inventory.Furnished.equipped {t : Topology} {plan : AddressPlan} {id : LabId}
    {indexOffset : UInt32} {bare g : Guest} (h : Furnished t plan id indexOffset bare g)
    (hname : g.name.isEmpty = false) (hfew : (t.segmentsOf g.role.name).length < 2 ^ 32) :
    g.Equipped t plan id indexOffset := by
  obtain ⟨table, htable, hg⟩ := h
  obtain ⟨interfaces, hall, rfl⟩ := Guest.allocate_eq_ok.mp htable
  have hallocated : List.Forall₂
      (fun entry i => g.interfaceAt (plan.network? id) indexOffset entry = .ok i)
      (t.segmentsOf g.role.name).zipIdx interfaces := by
    rw [← hg]
    exact hall
  have hboth := ((List.forall₂_and_left _ _).mpr
      ⟨fun _ => Guest.toNat_ordinal hfew, hallocated⟩).imp
    fun _ _ h => And.intro h.2 (Guest.numberedAt_of_interfaceAt hname h.1 h.2)
  have hnumbered := hboth.imp fun _ _ h => h.2
  have hperm : g.interfaces.Perm (interfaces.map fun i => (i.name, i)) := by
    rw [← hg]
    refine Table.perm_ofEntries ?_
    rw [List.map_map]
    exact Guest.nodup_names_of_numberedAt hnumbered
  have hvalues : (interfaces.map fun i => (i.name, i)).map Prod.snd = interfaces := by
    rw [List.map_map]
    exact List.map_id interfaces
  have horder : g.interfacesInOrder = interfaces :=
    Guest.interfacesInOrder_eq ((hperm.map Prod.snd).trans (.of_eq hvalues))
      (Guest.pairwise_index_of_numberedAt hnumbered)
  have hsorted : Table.Sorted g.interfaces := by
    rw [← hg]
    exact Table.sorted_ofEntries _
  exact {
    on_segments := horder ▸ hboth
    by_name := horder ▸ hperm
    sorted := hsorted }

/-! ## The interfaces of a lab -/

namespace Inventory.MadeFrom

variable {s : Scenario} {root : Block} {networks : List (Slug × List Slug)} {inv : Inventory}

theorem length_segments_le (m : MadeFrom s root networks inv) {g : Guest} (hg : g ∈ inv.guests) :
    inv.topology.segments.length ≤ 2 ^ 24 := by
  obtain ⟨i, -, -, hi, -⟩ := m.exists_bare hg
  have hone : 1 ≤ s.instances := m.instances_eq ▸ UInt32.le_trans hi.1 hi.2
  rw [m.topology_eq, Topology.length_segments_expand]
  exact AddressPlan.networks_le_of_make m.plan_made hone

theorem name_ne_empty (m : MadeFrom s root networks inv) {g : Guest} (hg : g ∈ inv.guests) :
    g.name.isEmpty = false := by
  obtain ⟨i, role, copy, -, -, -, table, -, rfl⟩ := m.exists_bare hg
  exact inv.id.name_guest_ne_empty i role copy

theorem equipped_of_guest (m : MadeFrom s root networks inv) {g : Guest} (hg : g ∈ inv.guests) :
    g.Equipped inv.topology inv.plan inv.id s.indexOffset := by
  have hfew : (inv.topology.segmentsOf g.role.name).length < 2 ^ 32 := by
    have hle := m.length_segments_le hg
    have hfilter : (inv.topology.segmentsOf g.role.name).length ≤ inv.topology.segments.length :=
      List.length_filter_le _ _
    omega
  obtain ⟨i, role, copy, -, -, -, hfurnished⟩ := m.exists_bare hg
  exact hfurnished.equipped (m.name_ne_empty hg) hfew

end Inventory.MadeFrom

/-! ## Interfaces and declared networks -/

/-- The declared networks of which a role is a member, in the order of declaration. -/
def Scenario.networksOf (s : Scenario) (role : Slug) : List NetworkDeclaration :=
  s.networks.filter fun d => d.members.any fun member => Slug.letters member == role.chars

/-- An interface with this name, index and network is the one that a guest has on a declared
network, the place of the network among those of the guest counted from 0. -/
structure Guest.HasOn (g : Guest) (inv : Inventory) (indexOffset : UInt32)
    (entry : NetworkDeclaration × Nat) (name : String) (index : UInt32) (network : String) :
    Prop where
  name_eq : name = g.name ++ "-" ++ toString (entry.2 + 1)
  index_eq : index.toNat = entry.2 + 1 + indexOffset.toNat
  network_eq : ∃ n, inv.network? network = some n ∧ n.instanceNumber = g.instanceNumber
    ∧ n.base.chars = Slug.letters entry.1.name

/-- A lab with a role on eleven networks and a platform with an interface of its own. -/
def Scenario.wide : Scenario where
  institution := "uni"
  lab := "lab"
  instances := 1
  roles := [{ name := "web" }]
  networks := (List.range 11).map fun k => { name := "net " ++ toString k, members := ["Web"] }
  indexOffset := 1

namespace Inventory

namespace MadeFrom

variable {s : Scenario} {root : Block} {networks : List (Slug × List Slug)} {inv : Inventory}

/-- The segments of a role are the declared networks of which it is a member. -/
theorem networksOf_segmentsOf (m : MadeFrom s root networks inv) (role : Slug) :
    List.Forall₂ (fun d segment => Slug.letters d.name = segment.name.chars)
      (s.networksOf role) (inv.topology.segmentsOf role) := by
  have hread := forall₂_comp (Attempt.mapM_eq_ok.mp m.networks_read)
    (@Topology.forall₂_segments_expand inv.topology.roles networks)
  rw [← m.topology_eq] at hread
  have hboth : List.Forall₂ (fun d segment => Slug.letters d.name = segment.name.chars
      ∧ (d.members.any fun member => Slug.letters member == role.chars) = segment.contains role)
      s.networks inv.topology.segments := by
    refine hread.imp ?_
    rintro d segment ⟨n, hn, hname, hmembers⟩
    refine ⟨hname ▸ (NetworkDeclaration.toSlugs_eq_ok.mp hn).1, ?_⟩
    rw [NetworkDeclaration.any_letters_eq hn, Segment.contains, hmembers, Bool.eq_iff_iff,
      List.contains_iff_mem, List.contains_iff_mem, Topology.mem_expandMembers]
  exact (List.rel_filter (fun _ _ h => iff_of_eq (congrArg (· = true) h.2)) hboth).imp
    fun _ _ h => h.1

/-- The interface of a guest at a place is on the network that its segment has in the guest's
instance. -/
theorem network?_of_interfaceAt (m : MadeFrom s root networks inv) {g : Guest}
    (hg : g ∈ inv.guests) {entry : Segment × Nat} {i : Interface}
    (hsegment : entry.1 ∈ inv.topology.segments)
    (h : g.interfaceAt (inv.plan.network? inv.id) s.indexOffset entry = .ok i) :
    ∃ block, inv.network? i.network
      = some (entry.1.network inv.id g.instanceNumber block) := by
  obtain ⟨block, position, address, hsubnet, -, -, -, rfl⟩ :=
    (Guest.interfaceAt_eq_ok (m.name_ne_empty hg)).mp h
  exact ⟨block, m.network?_networkName hsegment (m.role_and_copy hg).1 hsubnet⟩

theorem hasOn_networksOf (m : MadeFrom s root networks inv) {g : Guest} (hg : g ∈ inv.guests) :
    List.Forall₂ (fun entry i => g.HasOn inv s.indexOffset entry i.name i.index i.network)
      (s.networksOf g.role.name).zipIdx g.interfacesInOrder := by
  have hall := (List.forall₂_and_left _ _).mpr
    ⟨fun _ => Topology.mem_segments_of_mem_zipIdx, (m.equipped_of_guest hg).on_segments⟩
  refine (forall₂_comp (forall₂_zipIdx (m.networksOf_segmentsOf g.role.name) 0) hall).imp ?_
  rintro ⟨d, k⟩ i ⟨⟨segment, _⟩, ⟨hname, rfl⟩, hsegment, hat, hnumbered⟩
  obtain ⟨block, hnetwork⟩ := m.network?_of_interfaceAt hg hsegment hat
  exact {
    name_eq := hnumbered.name_eq
    index_eq := hnumbered.index_eq
    network_eq := ⟨_, hnetwork, rfl, hname.symm⟩ }

end MadeFrom

/-- A guest has one interface for each declared network of which its role is a member, kept under
its own name. By index, the interfaces and their records are in the order of these networks: the
one at place `k`, counted from 1, has the name and the index that end in `k`, and is on the network
in the guest's own instance. -/
theorem interfaces_in_declared_order {s : Scenario} {inv : Inventory} (h : compile s = .ok inv)
    {g : Guest} (hg : g ∈ inv.guests) :
    g.interfaces.length = (s.networksOf g.role.name).length
    ∧ Table.Sorted g.interfaces ∧ (∀ entry ∈ g.interfaces, entry.1 = entry.2.name)
    ∧ g.interfacesInOrder.Perm (g.interfaces.map Prod.snd)
    ∧ List.Forall₂ (fun entry i => g.HasOn inv s.indexOffset entry i.name i.index i.network)
      (s.networksOf g.role.name).zipIdx g.interfacesInOrder
    ∧ List.Forall₂ (fun entry r => g.HasOn inv s.indexOffset entry r.name r.index r.network)
      (s.networksOf g.role.name).zipIdx g.toRecord.interfaces := by
  obtain ⟨root, networks, m⟩ := compile_eq_ok.mp h
  have hequipped := m.equipped_of_guest hg
  have hall := m.hasOn_networksOf hg
  refine ⟨?_, hequipped.sorted, fun entry hentry => ?_, g.perm_interfacesInOrder, hall, ?_⟩
  · rw [hequipped.by_name.length_eq, List.length_map, ← hall.length_eq, List.length_zipIdx]
  · obtain ⟨i, -, rfl⟩ := List.mem_map.mp (hequipped.by_name.mem_iff.mp hentry)
    rfl
  · exact List.forall₂_map_right_iff.mpr hall

theorem interfaces_in_declared_order_wide : ∃ inv g, compile .wide = .ok inv ∧ g ∈ inv.guests
    ∧ (g.interfaces.map Prod.fst).take 3
      = ["uni-lab-1-web-1", "uni-lab-1-web-10", "uni-lab-1-web-11"]
    ∧ g.interfaces.length = 11 ∧ Table.Sorted g.interfaces
    ∧ (∀ entry ∈ g.interfaces, entry.1 = entry.2.name)
    ∧ List.Forall₂ (fun entry i => g.HasOn inv 1 entry i.name i.index i.network)
      (Scenario.wide.networksOf g.role.name).zipIdx g.interfacesInOrder
    ∧ List.Forall₂ (fun entry r => g.HasOn inv 1 entry r.name r.index r.network)
      (Scenario.wide.networksOf g.role.name).zipIdx g.toRecord.interfaces := by
  have hrun : (compile .wide).map (fun inv => inv.guests.map fun g =>
        ((g.interfaces.map Prod.fst).take 3, (Scenario.wide.networksOf g.role.name).length))
      = .ok [(["uni-lab-1-web-1", "uni-lab-1-web-10", "uni-lab-1-web-11"], 11)] := by
    decide +kernel
  obtain ⟨inv, h, heq⟩ := Attempt.map_eq_ok.mp hrun
  obtain ⟨g, hg, hfacts⟩ := List.mem_map.mp (heq ▸ List.mem_singleton_self _)
  obtain ⟨hfirst, hcount⟩ := Prod.mk.inj hfacts
  obtain ⟨hlen, hsorted, hkeys, -, hinterfaces, hrecords⟩ := interfaces_in_declared_order h hg
  exact ⟨inv, g, h, hg, hfirst, hlen.trans hcount, hsorted, hkeys, hinterfaces, hrecords⟩

end Inventory

end RangeLab
