import RangeLab.Proofs.Interfaces

/-!
# The addresses of a lab

No two interfaces of a lab have the same address, and every address is in its place: on the network
that the interface names, above the hosts that are kept free, below the broadcast address, within
the root block and outside the reserved part of it (`placed_interfaces`).

An interface has its address from where its guest *sits*: on a host of the block that the plan has
for a segment in the guest's instance. Blocks are disjoint, so an address gives away instance and
segment; on the segment, the runs of the roles are disjoint, so it gives away role and copy as well
(`sitsAt_unique`).
-/

namespace RangeLab

open Ipv4 (Address Block)

/-- Where an interface is to be on its network, within the root block and apart from the reserved
part of it. -/
structure Interface.PlacedOn (i : Interface) (n : Network) (root reserved : Block) : Prop where
  mem_network : i.address ∈ n.block
  mask_eq : i.mask.toNat = n.block.length
  above_kept_hosts : n.block.base + 4 ≤ i.address.toNat
  below_broadcast : i.address.toNat < n.block.base + n.block.size - 1
  mem_root : i.address ∈ root
  not_mem_reserved : i.address ∉ reserved

namespace Inventory

def interfaces (inv : Inventory) : List Interface :=
  inv.guests.flatMap fun g => g.interfaces.map Prod.snd

/-- The guest has this address on a segment, in the block that the segment has in the guest's
instance. -/
structure SitsAt (inv : Inventory) (g : Guest) (segment : Segment) (block : Block)
    (address : Address) : Prop where
  segment_mem : segment ∈ inv.topology.segments
  subnet : inv.plan.subnet? g.instanceNumber segment.index = some block
  host : ∃ position, segment.position? g.role.name = some position
    ∧ block.host? (position + g.copy.toNat + reservedHosts - 1) = some address

namespace MadeFrom

variable {s : Scenario} {root : Block} {networks : List (Slug × List Slug)} {inv : Inventory}

/-! ## Where guests sit -/

/-- The interfaces of a guest are those of where it sits on the segments of its role. -/
theorem seats_of_guest (m : MadeFrom s root networks inv) {g : Guest} (hg : g ∈ inv.guests) :
    List.Forall₂ (fun entry i => ∃ block address, inv.SitsAt g entry.1 block address
        ∧ g.interfaceIn inv.id s.indexOffset entry block address = i)
      (inv.topology.segmentsOf g.role.name).zipIdx g.interfacesInOrder := by
  refine ((List.forall₂_and_left _ _).mpr
    ⟨fun _ => Topology.mem_segments_of_mem_zipIdx, (m.equipped_of_guest hg).on_segments⟩).imp ?_
  rintro entry interface ⟨hsegment, h, -⟩
  obtain ⟨block, position, address, hsubnet, hposition, -, hhost, rfl⟩ :=
    (Guest.interfaceAt_eq_ok (m.name_ne_empty hg)).mp h
  exact ⟨block, address, ⟨hsegment, hsubnet, position, hposition, hhost⟩, rfl⟩

theorem seat_of_mem_interfaces (m : MadeFrom s root networks inv) {g : Guest} (hg : g ∈ inv.guests)
    {i : Interface} (hi : i ∈ g.interfaces.map Prod.snd) :
    ∃ entry block address, inv.SitsAt g entry.1 block address
      ∧ g.interfaceIn inv.id s.indexOffset entry block address = i := by
  obtain ⟨entry, -, hseat⟩ := exists_left_of_forall₂ (m.seats_of_guest hg)
    (g.perm_interfacesInOrder.mem_iff.mpr hi)
  exact ⟨entry, hseat⟩

/-- An address tells the segment and the guest that sits there: blocks of different instances or
segments have no address in common, and on one segment, runs of different roles have no place in
common. -/
theorem sitsAt_unique (m : MadeFrom s root networks inv) {g g' : Guest}
    {segment segment' : Segment} {block block' : Block} {address : Address}
    (hg : g ∈ inv.guests) (hg' : g' ∈ inv.guests) (h : inv.SitsAt g segment block address)
    (h' : inv.SitsAt g' segment' block' address) : segment = segment' ∧ g.key = g'.key := by
  obtain ⟨hsegment, hsubnet, position, hposition, hhost⟩ := h
  obtain ⟨hsegment', hsubnet', position', hposition', hhost'⟩ := h'
  obtain ⟨hinstance, hindex⟩ := AddressPlan.eq_of_mem_subnet hsubnet hsubnet'
    (Block.mem_of_host? hhost) (Block.mem_of_host? hhost')
  have hsegments := m.mem_segments hsegment
  obtain rfl := Topology.eq_of_index_eq hsegments (m.mem_segments hsegment') hindex
  rw [hinstance] at hsubnet
  obtain rfl := Option.some.inj (hsubnet.symm.trans hsubnet')
  obtain ⟨-, hrole, hone, hle⟩ := m.role_and_copy hg
  obtain ⟨-, hrole', hone', hle'⟩ := m.role_and_copy hg'
  obtain ⟨-, network, -, -, hmembers⟩ := Topology.exists_network_of_mem_segments hsegments
  rw [Segment.position?, hmembers] at hposition hposition'
  have hoffset : position + (g.copy.toNat - 1) = position' + (g'.copy.toNat - 1) := by
    have haddr := (Block.host?_eq_some hhost).2
    rw [(Block.host?_eq_some hhost').2] at haddr
    omega
  obtain ⟨hname, hcopy⟩ := Topology.eq_of_run hposition hposition' (by omega) (by omega) hoffset
  have hcopy' : g.copy = g'.copy := UInt32.toNat_inj.mp (by omega)
  refine ⟨rfl, ?_⟩
  rw [Guest.key, Guest.key, hinstance, hname, hcopy']

theorem mask_interfaceIn {g : Guest} {id : LabId} {indexOffset : UInt32} {entry : Segment × Nat}
    {block : Block} {address : Address} :
    (g.interfaceIn id indexOffset entry block address).mask.toNat = block.length := by
  have hle := block.length_le
  show (UInt8.ofNat block.length).toNat = block.length
  rw [UInt8.toNat_ofNat']
  exact Nat.mod_eq_of_lt (by omega)

/-! ## All interfaces of a lab -/

theorem nodup_addresses (m : MadeFrom s root networks inv) :
    (inv.interfaces.map Interface.address).Nodup := by
  rw [interfaces, List.map_flatMap]
  refine nodup_flatMap_of_key m.nodup_keys ?_ ?_
  · intro g hg
    have hsegments : inv.topology.segments.Nodup := List.Nodup.of_map _ m.nodup_segments
    have hentries : ((inv.topology.segmentsOf g.role.name).zipIdx.map Prod.fst).Nodup := by
      rw [List.zipIdx_map_fst]
      exact hsegments.filter _
    rw [← (g.perm_interfacesInOrder.map Interface.address).nodup_iff]
    refine nodup_map_of_forall₂ (m.seats_of_guest hg) hentries ?_
    rintro entry _ entry' _ _ _ ⟨_, _, h, rfl⟩ ⟨_, _, h', rfl⟩ haddr
    obtain rfl : _ = _ := haddr
    exact (m.sitsAt_unique hg hg h h').1
  · intro g hg g' hg' address hmem hmem'
    obtain ⟨i, hi, rfl⟩ := List.mem_map.mp hmem
    obtain ⟨i', hi', haddr⟩ := List.mem_map.mp hmem'
    obtain ⟨_, _, _, h, rfl⟩ := m.seat_of_mem_interfaces hg hi
    obtain ⟨_, _, _, h', rfl⟩ := m.seat_of_mem_interfaces hg' hi'
    obtain rfl : _ = _ := haddr
    exact (m.sitsAt_unique hg hg' h h').2

/-- Where a guest sits is on the network of the segment, and apart from the hosts that are kept
free. -/
theorem placedOn_of_sitsAt (m : MadeFrom s root networks inv) {g : Guest} {segment : Segment}
    {block : Block} {address : Address} {i : Interface} (hg : g ∈ inv.guests)
    (h : inv.SitsAt g segment block address) (haddr : i.address = address)
    (hmask : i.mask.toNat = block.length) :
    ∃ reserved, inv.reserved? = some reserved
      ∧ i.PlacedOn (segment.network inv.id g.instanceNumber block) root reserved := by
  subst haddr
  obtain ⟨hsegment, hsubnet, position, hposition, hhost⟩ := h
  obtain ⟨-, -, hone, -⟩ := m.role_and_copy hg
  obtain ⟨reserved, hreserved⟩ := AddressPlan.exists_reserved? hsubnet
  have hmem := Block.mem_of_host? hhost
  rw [reservedHosts] at hhost
  obtain ⟨haddr, hlt⟩ := Block.host_bounds hhost (by omega)
  have hroot := AddressPlan.mem_root_of_mem_subnet hsubnet hmem
  rw [m.root_plan, Block.mem_truncated] at hroot
  refine ⟨reserved, hreserved, ?_⟩
  exact {
    mem_network := hmem
    mask_eq := hmask
    above_kept_hosts := by
      show block.base + 4 ≤ _
      omega
    below_broadcast := hlt
    mem_root := hroot
    not_mem_reserved := AddressPlan.not_mem_reserved_of_mem_subnet hsubnet hreserved hmem }

end MadeFrom

/-- No two interfaces of a lab have the same address, and each of them is in its place on the
network that it names. -/
theorem placed_interfaces {s : Scenario} {inv : Inventory} (h : compile s = .ok inv) :
    (inv.interfaces.map Interface.address).Nodup
      ∧ ∀ i ∈ inv.interfaces, ∃ n root reserved, inv.network? i.network = some n
        ∧ Block.readRoot s.rootBlock = .ok root ∧ inv.reserved? = some reserved
        ∧ i.PlacedOn n root reserved := by
  obtain ⟨root, networks, m⟩ := compile_eq_ok.mp h
  refine ⟨m.nodup_addresses, fun i hi => ?_⟩
  obtain ⟨g, hg, hi⟩ := List.mem_flatMap.mp hi
  obtain ⟨entry, block, address, hsits, rfl⟩ := m.seat_of_mem_interfaces hg hi
  obtain ⟨reserved, hreserved, hplaced⟩ :=
    m.placedOn_of_sitsAt hg hsits rfl MadeFrom.mask_interfaceIn
  have hnetwork := m.network?_networkName hsits.segment_mem (m.role_and_copy hg).1 hsits.subnet
  exact ⟨_, root, reserved, hnetwork, m.root_read, hreserved, hplaced⟩

theorem placed_interfaces_small : ∃ inv, compile .small = .ok inv ∧ inv.interfaces.length = 14
    ∧ (inv.interfaces.map Interface.address).Nodup
    ∧ ∀ i ∈ inv.interfaces, ∃ n root reserved, inv.network? i.network = some n
      ∧ Block.readRoot Scenario.small.rootBlock = .ok root ∧ inv.reserved? = some reserved
      ∧ i.PlacedOn n root reserved := by
  have hcount : (compile .small).map (fun inv => inv.interfaces.length) = .ok 14 := by
    decide +kernel
  obtain ⟨inv, h, hlen⟩ := Attempt.map_eq_ok.mp hcount
  exact ⟨inv, h, hlen, placed_interfaces h⟩

end Inventory

end RangeLab
