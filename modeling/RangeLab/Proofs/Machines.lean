import RangeLab.Proofs.Inventory

/-!
# The names of machines

The name of a guest is read back as instance, role and copy of the guest, the name of a service is
not read as that of a guest at all. So no two machines of a lab have the same name
(`nodup_machineNames`).
-/

namespace RangeLab

open Ipv4 (Block)

namespace Inventory

/-- A machine is a guest, or it is a service and services are not left out. -/
theorem mem_machines {inv : Inventory} {onlyInstances : Bool} {machine : Machine} :
    machine ∈ inv.machines onlyInstances ↔ (∃ g ∈ inv.guests, machine = .scenario g)
      ∨ onlyInstances = false ∧ ∃ guest ∈ inv.services, machine = .infrastructure guest := by
  cases onlyInstances <;> simp [machines, eq_comm]

namespace MadeFrom

variable {s : Scenario} {root : Block} {networks : List (Slug × List Slug)} {inv : Inventory}

theorem copy_of_isSingleton (m : MadeFrom s root networks inv) {g : Guest} (hg : g ∈ inv.guests)
    (h : g.role.copies ≤ 1) : g.copy = 1 := by
  obtain ⟨i, role, copy, -, -, ⟨hone, hle⟩, table, -, rfl⟩ := m.exists_bare hg
  have hcopies : role.copies.toNat ≤ 1 := UInt32.le_iff_toNat_le.mp h
  have hone' : 1 ≤ copy.toNat := UInt32.le_iff_toNat_le.mp hone
  have hle' : copy.toNat ≤ role.guestCount.toNat := UInt32.le_iff_toNat_le.mp hle
  rw [Role.toNat_guestCount] at hle'
  exact UInt32.toNat_inj.mp (show copy.toNat = 1 by omega)

theorem parse?_guest (m : MadeFrom s root networks inv) {g : Guest} (hg : g ∈ inv.guests) :
    ∃ n, MachineName.parse? g.name = some n ∧ n.instanceNumber = g.instanceNumber
      ∧ n.base = g.role.name ∧ n.copyNumber = g.copy := by
  have hsingle := m.copy_of_isSingleton hg
  obtain ⟨i, role, copy, hi, -, hcopy, table, -, rfl⟩ := m.exists_bare hg
  exact ⟨_, inv.id.parse?_machineName hi.1 hcopy.1, rfl, rfl, inv.id.copyNumber_machineName hsingle⟩

theorem key_eq_of_name_eq (m : MadeFrom s root networks inv) {g g' : Guest}
    (hg : g ∈ inv.guests) (hg' : g' ∈ inv.guests) (h : g.name = g'.name) : g.key = g'.key := by
  obtain ⟨n, hn, hinstance, hbase, hcopy⟩ := m.parse?_guest hg
  obtain ⟨n', hn', hinstance', hbase', hcopy'⟩ := m.parse?_guest hg'
  rw [h, hn'] at hn
  obtain rfl := Option.some.inj hn
  rw [Guest.key, Guest.key, ← hinstance, ← hbase, ← hcopy, hinstance', hbase', hcopy']

theorem parse?_service (m : MadeFrom s root networks inv) {guest : ServiceGuest}
    (h : guest ∈ inv.services) : MachineName.parse? guest.name = none := by
  obtain ⟨-, hguest⟩ := m.mem_services.mp h
  rw [hguest]
  exact inv.id.parse?_serviceName guest.service

theorem service_eq_of_name_eq (m : MadeFrom s root networks inv) {guest guest' : ServiceGuest}
    (h : guest ∈ inv.services) (h' : guest' ∈ inv.services) (hname : guest.name = guest'.name) :
    guest = guest' := by
  obtain ⟨-, hguest⟩ := m.mem_services.mp h
  obtain ⟨-, hguest'⟩ := m.mem_services.mp h'
  rw [hguest, hguest'] at hname ⊢
  rw [inv.id.serviceName_inj hname]

theorem nodup_services (m : MadeFrom s root networks inv) : inv.services.Nodup := by
  have hall : Service.all.Nodup := by decide
  rw [m.services_eq]
  refine (hall.filter _).map fun v v' h => ?_
  exact congrArg ServiceGuest.service h

/-- No two machines of a lab have the same name. -/
theorem nodup_machineNames (m : MadeFrom s root networks inv) (onlyInstances : Bool) :
    (inv.machineNames onlyInstances).Nodup := by
  have hguests : (inv.guests.map Guest.name).Nodup := by
    refine List.Nodup.map_on (fun g hg g' hg' h => ?_) (List.Nodup.of_map _ m.nodup_keys)
    exact List.inj_on_of_nodup_map m.nodup_keys hg hg' (m.key_eq_of_name_eq hg hg' h)
  have hservices : (inv.services.map ServiceGuest.name).Nodup :=
    m.nodup_services.map_on fun guest h guest' h' => m.service_eq_of_name_eq h h'
  have hnames : inv.machineNames onlyInstances = inv.guests.map Guest.name
      ++ if onlyInstances then [] else inv.services.map ServiceGuest.name := by
    rw [machineNames, machines, List.map_append, List.map_map]
    congr 1
    cases onlyInstances with
    | true => rfl
    | false => exact List.map_map
  rw [hnames]
  cases onlyInstances with
  | true => exact (List.append_nil _).symm ▸ hguests
  | false =>
      refine List.nodup_append.mpr ⟨hguests, hservices, ?_⟩
      intro name hname name' hname' heq
      obtain ⟨g, hg, rfl⟩ := List.mem_map.mp hname
      obtain ⟨guest, hguest, rfl⟩ := List.mem_map.mp hname'
      obtain ⟨n, hn, -⟩ := m.parse?_guest hg
      rw [heq, m.parse?_service hguest] at hn
      cases hn

end MadeFrom

end Inventory

end RangeLab
