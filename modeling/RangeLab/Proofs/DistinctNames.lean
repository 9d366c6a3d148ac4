import RangeLab.Proofs.Addresses
import RangeLab.Proofs.Machines
import RangeLab.Proofs.Reading

/-!
# Distinct names

No two machines or interfaces of a lab have the same name, no two of its networks have, and labs of
different identity have no name in common (`nodup_names_and_apart`). A name is settled by its
*parts*, the texts between its dashes:

* the first two parts are the institution and the lab, whatever the name is the name of
  (`heads_of_mem_names`);
* an interface has the parts of its guest and one more, its ordinal.

The interface of a single guest is thus named as a numbered copy of the same role would be. No guest
of the lab has this name, because a role has numbered copies only or none
(`guest_name_ne_numbered`).
-/

namespace RangeLab

open Ipv4 (Block)

/-! ## Parts of names -/

/-- The texts between the dashes of a name. -/
def partsOf (name : String) : List (List Char) := name.toList.splitOn '-'

theorem partsOf_inj {name name' : String} : partsOf name = partsOf name' ↔ name = name' := by
  constructor
  · intro h
    have hjoined := congrArg ['-'].intercalate h
    simpa only [partsOf, List.intercalate_splitOn, String.toList_inj] using hjoined
  · rintro rfl
    rfl

/-- A number behind a name is one part more. -/
theorem partsOf_numbered (name : String) (n : UInt32) :
    partsOf (name ++ "-" ++ toString n) = partsOf name ++ [Numeral.digits n.toNat] := by
  have htext : (name ++ "-" ++ toString n).toList
      = name.toList ++ '-' :: Numeral.digits n.toNat := by
    simp [Numeral.toList_toString]
  rw [partsOf, htext, List.splitOn_append_cons_self,
    List.splitOn_eq_singleton (Numeral.dash_not_mem_digits _), partsOf]

/-- The name begins with the institution and the lab. -/
def LabId.Heads (id : LabId) (name : String) : Prop :=
  ∃ rest, partsOf name = id.institution.chars :: id.lab.chars :: rest

theorem LabId.heads_unique {id id' : LabId} {name : String} (h : id.Heads name)
    (h' : id'.Heads name) : id = id' := by
  obtain ⟨rest, hparts⟩ := h
  obtain ⟨rest', hparts'⟩ := h'
  rw [hparts] at hparts'
  obtain ⟨hinstitution, hrest⟩ := List.cons.inj hparts'
  obtain ⟨hlab, -⟩ := List.cons.inj hrest
  cases id
  cases id'
  simp only [LabId.mk.injEq]
  exact ⟨Slug.chars_injective hinstitution, Slug.chars_injective hlab⟩

theorem LabId.Heads.numbered {id : LabId} {name : String} (h : id.Heads name) (n : UInt32) :
    id.Heads (name ++ "-" ++ toString n) := by
  obtain ⟨rest, hparts⟩ := h
  exact ⟨rest ++ [Numeral.digits n.toNat], by rw [partsOf_numbered, hparts]; rfl⟩

theorem LabId.heads_render {id : LabId} {m : MachineName}
    (hinstitution : m.institution = id.institution) (hlab : m.lab = id.lab) :
    id.Heads m.render := by
  refine ⟨[Numeral.digits m.instanceNumber.toNat, m.base.chars]
    ++ m.copy.toList.map fun copy => Numeral.digits copy.toNat, ?_⟩
  rw [partsOf, m.splitOn_render, MachineName.components, hinstitution, hlab]
  rfl

theorem LabId.heads_networkName (id : LabId) (i : UInt32) (base : Slug) :
    id.Heads (id.networkName i base) := by
  rw [networkName_eq_render]
  exact LabId.heads_render rfl rfl

theorem LabId.heads_serviceName (id : LabId) (v : Service) : id.Heads (id.serviceName v) :=
  ⟨[v.id.toList], id.splitOn_serviceName v⟩

namespace Inventory

/-- The names of everything in a lab: its machines, its networks and its interfaces. -/
def names (inv : Inventory) : List String :=
  inv.machineNames false ++ inv.networks.map Network.name ++ inv.interfaces.map Interface.name

theorem mem_machineNames_false {inv : Inventory} {name : String} :
    name ∈ inv.machineNames false ↔
      (∃ g ∈ inv.guests, g.name = name) ∨ ∃ guest ∈ inv.services, guest.name = name := by
  simp [machineNames, machines, Machine.name]

namespace MadeFrom

variable {s : Scenario} {root : Block} {networks : List (Slug × List Slug)} {inv : Inventory}

/-! ## Guests -/

theorem name_of_guest (m : MadeFrom s root networks inv) {g : Guest} (hg : g ∈ inv.guests) :
    g.name = (inv.id.machineName g.instanceNumber g.role.name g.copy g.role.copies).render := by
  obtain ⟨i, role, copy, -, -, -, table, -, rfl⟩ := m.exists_bare hg
  rfl

theorem partsOf_guest (m : MadeFrom s root networks inv) {g : Guest} (hg : g ∈ inv.guests) :
    partsOf g.name = [inv.id.institution.chars, inv.id.lab.chars,
        Numeral.digits g.instanceNumber.toNat, g.role.name.chars]
      ++ if g.role.copies > 1 then [Numeral.digits g.copy.toNat] else [] := by
  rw [m.name_of_guest hg, partsOf, MachineName.splitOn_render, MachineName.components,
    LabId.machineName]
  split <;> rfl

/-- No guest is named as another one with a number behind the name. If that guest has a copy number,
it makes six parts, and guests have five at most. If not, both guests are of one role, which does
not have numbered copies and a single guest. -/
theorem guest_name_ne_numbered (m : MadeFrom s root networks inv) {g g' : Guest}
    (hg : g ∈ inv.guests) (hg' : g' ∈ inv.guests) (n : UInt32) :
    g'.name ≠ g.name ++ "-" ++ toString n := by
  intro h
  have hparts := partsOf_numbered g.name n
  rw [← h, m.partsOf_guest hg, m.partsOf_guest hg'] at hparts
  by_cases hcopies : g.role.copies > 1
  · have hlen := congrArg List.length hparts
    by_cases hcopies' : g'.role.copies > 1
    · simp [hcopies, hcopies'] at hlen
    · simp [hcopies, hcopies'] at hlen
  · by_cases hcopies' : g'.role.copies > 1
    · simp only [if_neg hcopies, if_pos hcopies', List.append_nil, List.cons_append,
        List.nil_append, List.cons.injEq, true_and] at hparts
      obtain ⟨-, hbase, -⟩ := hparts
      have hrole := List.inj_on_of_nodup_map m.admissible.roles_nodup (m.role_and_copy hg').2.1
        (m.role_and_copy hg).2.1 (Slug.chars_injective hbase)
      rw [hrole] at hcopies'
      exact hcopies hcopies'
    · have hlen := congrArg List.length hparts
      simp [hcopies, hcopies'] at hlen

/-! ## Interfaces -/

theorem name_of_interface (m : MadeFrom s root networks inv) {g : Guest} (hg : g ∈ inv.guests)
    {i : Interface} (hi : i ∈ g.interfaces.map Prod.snd) :
    ∃ n : UInt32, i.name = g.name ++ "-" ++ toString n := by
  obtain ⟨entry, block, address, -, rfl⟩ := m.seat_of_mem_interfaces hg hi
  exact ⟨_, rfl⟩

theorem nodup_interface_names_of_guest (m : MadeFrom s root networks inv) {g : Guest}
    (hg : g ∈ inv.guests) : ((g.interfaces.map Prod.snd).map Interface.name).Nodup := by
  rw [← (g.perm_interfacesInOrder.map Interface.name).nodup_iff]
  exact Guest.nodup_names_of_numberedAt ((m.equipped_of_guest hg).on_segments.imp fun _ _ h => h.2)

theorem nodup_interface_names (m : MadeFrom s root networks inv) :
    (inv.interfaces.map Interface.name).Nodup := by
  rw [interfaces, List.map_flatMap]
  refine nodup_flatMap_of_key m.nodup_keys (fun g hg => m.nodup_interface_names_of_guest hg) ?_
  intro g hg g' hg' name hmem hmem'
  obtain ⟨i, hi, rfl⟩ := List.mem_map.mp hmem
  obtain ⟨i', hi', hname⟩ := List.mem_map.mp hmem'
  obtain ⟨n, hn⟩ := m.name_of_interface hg hi
  obtain ⟨n', hn'⟩ := m.name_of_interface hg' hi'
  rw [hn, hn', ← partsOf_inj, partsOf_numbered, partsOf_numbered] at hname
  have hguests := (List.append_inj' hname rfl).1
  exact m.key_eq_of_name_eq hg hg' (partsOf_inj.mp hguests.symm)

/-- No interface is named like a machine. Services have names of three parts, and interfaces of five
at least. -/
theorem interface_name_not_mem_machineNames (m : MadeFrom s root networks inv) {i : Interface}
    (hi : i ∈ inv.interfaces) : i.name ∉ inv.machineNames false := by
  obtain ⟨g, hg, hi⟩ := List.mem_flatMap.mp hi
  obtain ⟨n, hn⟩ := m.name_of_interface hg hi
  rw [hn, mem_machineNames_false]
  rintro (⟨g', hg', hname⟩ | ⟨guest, hguest, hname⟩)
  · exact m.guest_name_ne_numbered hg hg' n hname
  · obtain ⟨-, hservice⟩ := m.mem_services.mp hguest
    rw [hservice, ← partsOf_inj, partsOf_numbered, m.partsOf_guest hg, partsOf,
      LabId.splitOn_serviceName] at hname
    have hlen := congrArg List.length hname
    by_cases hcopies : g.role.copies > 1
    · simp [hcopies] at hlen
    · simp [hcopies] at hlen

/-! ## Networks -/

theorem nodup_network_names (m : MadeFrom s root networks inv) :
    (inv.networks.map Network.name).Nodup := by
  have hname : ∀ {i segment n}, inv.plan.network? inv.id i segment = some n →
      n.name = inv.id.networkName i segment.name := by
    intro i segment n hn
    obtain ⟨block, -, rfl⟩ := Option.map_eq_some_iff.mp hn
    rfl
  have hinstances : ((ordinals inv.plan.instances).map fun i => i).Nodup := by
    rw [List.map_id']
    exact nodup_ordinals _
  rw [m.networks_eq, AddressPlan.networkList, List.map_flatMap]
  refine nodup_flatMap_of_key hinstances (fun i hi => ?_) ?_
  · rw [List.filterMap_eq_flatMap_toList, List.map_flatMap]
    refine nodup_flatMap_of_key m.nodup_segments (fun segment _ => ?_) ?_
    · cases inv.plan.network? inv.id i segment with
      | none => exact List.nodup_nil
      | some n => exact List.nodup_singleton _
    · intro segment _ segment' _ name hmem hmem'
      obtain ⟨n, hn, rfl⟩ := List.mem_map.mp hmem
      obtain ⟨n', hn', heq⟩ := List.mem_map.mp hmem'
      rw [hname (Option.mem_toList.mp hn), hname (Option.mem_toList.mp hn')] at heq
      have hone := (mem_ordinals.mp hi).1
      exact (inv.id.networkName_inj hone hone heq).2.symm
  · intro i hi i' hi' name hmem hmem'
    obtain ⟨n, hn, rfl⟩ := List.mem_map.mp hmem
    obtain ⟨n', hn', heq⟩ := List.mem_map.mp hmem'
    obtain ⟨segment, -, hn⟩ := List.mem_filterMap.mp hn
    obtain ⟨segment', -, hn'⟩ := List.mem_filterMap.mp hn'
    rw [hname hn, hname hn'] at heq
    exact (inv.id.networkName_inj (mem_ordinals.mp hi').1 (mem_ordinals.mp hi).1 heq).1.symm

/-! ## Labs of different identity -/

theorem heads_guest (m : MadeFrom s root networks inv) {g : Guest} (hg : g ∈ inv.guests) :
    inv.id.Heads g.name := by
  rw [m.name_of_guest hg]
  exact LabId.heads_render rfl rfl

theorem heads_of_mem_names (m : MadeFrom s root networks inv) {name : String}
    (h : name ∈ inv.names) : inv.id.Heads name := by
  simp only [names, List.mem_append, mem_machineNames_false, List.mem_map] at h
  rcases h with ((⟨g, hg, rfl⟩ | ⟨guest, hguest, rfl⟩) | ⟨n, hn, rfl⟩) | ⟨i, hi, rfl⟩
  · exact m.heads_guest hg
  · obtain ⟨-, hservice⟩ := m.mem_services.mp hguest
    rw [hservice]
    exact inv.id.heads_serviceName guest.service
  · obtain ⟨i, block, segment, -, -, -, rfl⟩ := m.mem_networks.mp hn
    exact inv.id.heads_networkName i segment.name
  · obtain ⟨g, hg, hi⟩ := List.mem_flatMap.mp hi
    obtain ⟨n, hn⟩ := m.name_of_interface hg hi
    rw [hn]
    exact (m.heads_guest hg).numbered n

end MadeFrom

/-- Machines and interfaces of a lab have different names, and so have its networks; a lab of
another identity has none of these names. -/
theorem nodup_names_and_apart {s : Scenario} {inv : Inventory} (h : compile s = .ok inv) :
    (inv.machineNames false ++ inv.interfaces.map Interface.name).Nodup
      ∧ (inv.networks.map Network.name).Nodup
      ∧ ∀ s' inv', compile s' = .ok inv' → inv'.id ≠ inv.id → inv.names.Disjoint inv'.names := by
  obtain ⟨root, networks, m⟩ := compile_eq_ok.mp h
  refine ⟨?_, m.nodup_network_names, ?_⟩
  · refine List.nodup_append.mpr ⟨m.nodup_machineNames false, m.nodup_interface_names, ?_⟩
    rintro name hmachine _ hinterface rfl
    obtain ⟨i, hi, rfl⟩ := List.mem_map.mp hinterface
    exact m.interface_name_not_mem_machineNames hi hmachine
  · intro s' inv' h' hne name hname hname'
    obtain ⟨root', networks', m'⟩ := compile_eq_ok.mp h'
    exact hne (LabId.heads_unique (m'.heads_of_mem_names hname') (m.heads_of_mem_names hname))

/-- In the small lab an interface of the single data base is named as a numbered copy would be. -/
theorem nodup_names_and_apart_small : ∃ inv inv', compile .small = .ok inv
    ∧ compile { Scenario.small with lab := "lab 2" } = .ok inv' ∧ inv'.id ≠ inv.id
    ∧ "uni1-lab-1-database-1" ∈ inv.interfaces.map Interface.name
    ∧ (inv.machineNames false ++ inv.interfaces.map Interface.name).Nodup
    ∧ (inv.networks.map Network.name).Nodup ∧ inv.names.Disjoint inv'.names := by
  have hlab : (compile .small).map (fun inv =>
      (inv.id.lab.text, (inv.interfaces.map Interface.name).contains "uni1-lab-1-database-1"))
      = .ok ("lab", true) := by decide +kernel
  have hlab' : (compile { Scenario.small with lab := "lab 2" }).map (fun inv => inv.id.lab.text)
      = .ok "lab2" := by decide +kernel
  obtain ⟨inv, h, heq⟩ := Attempt.map_eq_ok.mp hlab
  obtain ⟨inv', h', htext'⟩ := Attempt.map_eq_ok.mp hlab'
  obtain ⟨htext, hcontains⟩ := Prod.mk.inj heq
  have hne : inv'.id ≠ inv.id := by
    intro hid
    rw [hid, htext] at htext'
    exact absurd htext' (by decide)
  obtain ⟨hnames, hnetworks, hapart⟩ := nodup_names_and_apart h
  exact ⟨inv, inv', h, h', hne, List.contains_iff_mem.mp hcontains, hnames, hnetworks,
    hapart _ _ h' hne⟩

end Inventory

end RangeLab
