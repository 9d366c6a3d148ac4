import RangeLab.Proofs.Answers

/-!
# What can leave a selection empty

A query that passes the checks and takes no role away selects a machine, as long as the machines it
is about have instances where it asks for instances (`resolve_ne_noMatch`). The largest copy that it
may name is that of one of the roles and services that it is about, and every instance has that copy
of that role; so the instance, the role and the copy that it asks for are those of one machine.
-/

namespace RangeLab

open Ipv4 (Block)

namespace Query

variable {q : Query} {inv : Inventory} {s : Scenario} {root : Block}
variable {networks : List (Slug × List Slug)}

/-! ## What a query is about -/

/-- The query names the role, or no role at all. -/
def AsksForRole (q : Query) (inv : Inventory) (role : Role) : Prop :=
  q.guests = [] ∨ ∃ entry ∈ q.guests,
    inv.takesAsService q.onlyInstances entry = false ∧ Slug.ofText? entry = some role.name

/-- The query names the service or nothing, and does not leave services out. -/
def AsksForService (q : Query) (v : Service) : Prop :=
  q.onlyInstances = false ∧ (q.guests = [] ∨ v.id ∈ q.guests)

/-- A number of copies that bounds those a query may name is that of a role it is about, or 1 for a
service. -/
theorem mem_guestCounts (hnames : ∀ name ∈ q.guests,
      inv.takesAsService q.onlyInstances name = false → inv.roleNamed? name ≠ none)
    {n : Nat} (hn : n ∈ q.guestCounts inv) :
    (∃ role ∈ inv.topology.roles, q.AsksForRole inv role ∧ role.guestCount.toNat = n)
      ∨ n = 1 ∧ ∃ guest ∈ inv.services, q.AsksForService guest.service := by
  unfold guestCounts at hn
  by_cases hguests : q.guests = []
  · rw [if_pos hguests, List.mem_append, List.mem_map] at hn
    rcases hn with ⟨role, hrole, rfl⟩ | hn
    · exact .inl ⟨role, hrole, .inl hguests, role.toNat_guestCount⟩
    · cases hscope : q.onlyInstances with
      | true =>
          rw [hscope] at hn
          cases hn
      | false =>
          rw [hscope] at hn
          obtain ⟨guest, hguest, rfl⟩ := List.mem_map.mp hn
          exact .inr ⟨rfl, guest, hguest, hscope, .inl hguests⟩
  · rw [if_neg hguests, List.mem_map] at hn
    obtain ⟨entry, hentry, rfl⟩ := hn
    unfold Inventory.guestCountNamed
    cases htakes : inv.takesAsService q.onlyInstances entry with
    | true =>
        obtain ⟨hscope, guest, hguest, rfl⟩ := Inventory.takesAsService_eq_true.mp htakes
        exact .inr ⟨rfl, guest, hguest, hscope, .inr hentry⟩
    | false =>
        obtain ⟨role, hrole⟩ := Option.ne_none_iff_exists'.mp (hnames entry hentry htakes)
        obtain ⟨hmem, hslug⟩ := Inventory.roleNamed?_eq_some hrole
        rw [hrole]
        exact .inl ⟨role, hmem, .inr ⟨entry, hentry, htakes, hslug⟩, role.toNat_guestCount⟩

theorem guestCounts_ne_nil (m : Inventory.MadeFrom s root networks inv)
    (hmachines : inv.machines q.onlyInstances ≠ []) : q.guestCounts inv ≠ [] := by
  obtain ⟨machine, hmachine⟩ := List.exists_mem_of_ne_nil _ hmachines
  unfold guestCounts
  by_cases hguests : q.guests = []
  · rw [if_pos hguests]
    rcases Inventory.mem_machines.mp hmachine with ⟨g, hg, -⟩ | ⟨hscope, guest, hguest, -⟩
    · exact List.append_ne_nil_of_left_ne_nil
        (List.ne_nil_of_mem (List.mem_map_of_mem (m.role_and_copy hg).2.1)) _
    · rw [hscope]
      exact List.append_ne_nil_of_right_ne_nil _ (List.ne_nil_of_mem (List.mem_map_of_mem hguest))
  · rw [if_neg hguests]
    exact mt List.map_eq_nil_iff.mp hguests

/-! ## The parts of a selected machine -/

theorem exists_instance (hi : 1 ≤ inv.instances) (hvalid : ¬q.Invalid inv) :
    ∃ i, (1 ≤ i ∧ i ≤ inv.instances) ∧ (q.instances = [] ∨ i ∈ q.instances) := by
  cases hinstances : q.instances with
  | nil => exact ⟨1, ⟨UInt32.le_refl 1, hi⟩, .inl rfl⟩
  | cons i rest =>
      have hmem : i ∈ q.instances := hinstances ▸ List.mem_cons_self
      exact ⟨i, (not_invalid_iff.mp hvalid).1 i hmem, .inr List.mem_cons_self⟩

/-- One of the roles and services that the query is about has a copy that it asks for: the one with
the most copies has every copy that the query may ask for. -/
theorem exists_copy (hcounts : q.guestCounts inv ≠ []) (hvalid : ¬q.Invalid inv) :
    ∃ n ∈ q.guestCounts inv, ∃ copy : UInt32,
      (1 ≤ copy ∧ copy.toNat ≤ n) ∧ (q.copies = [] ∨ copy ∈ q.copies) := by
  obtain ⟨-, hnames, hcopies⟩ := not_invalid_iff.mp hvalid
  obtain ⟨n, hmax⟩ := Option.ne_none_iff_exists'.mp (mt List.max?_eq_none_iff.mp hcounts)
  have hn : n ∈ q.guestCounts inv := List.max?_mem hmax
  refine ⟨n, hn, ?_⟩
  cases hasked : q.copies with
  | nil =>
      refine ⟨1, ⟨UInt32.le_refl 1, ?_⟩, .inl rfl⟩
      rcases mem_guestCounts hnames hn with ⟨role, -, -, rfl⟩ | ⟨rfl, -⟩
      · exact UInt32.le_iff_toNat_le.mp role.one_le_guestCount
      · exact Nat.le_refl 1
  | cons copy rest =>
      have hmem : copy ∈ q.copies := hasked ▸ List.mem_cons_self
      have hbounds := hcopies copy hmem
      rw [largestCopy, hmax] at hbounds
      exact ⟨copy, hbounds, .inr List.mem_cons_self⟩

/-- A query that is not refused and takes nothing away selects a machine. -/
theorem exists_selected (m : Inventory.MadeFrom s root networks inv) (hi : 1 ≤ inv.instances)
    (hvalid : ¬q.Invalid inv) (hexclude : q.exclude = [])
    (hmachines : inv.machines q.onlyInstances ≠ [])
    (hscope : q.onlyInstances = true ∨ q.instances = []) {kinds : List RoleKind}
    (hkinds : q.HasKinds inv kinds) :
    ∃ machine ∈ inv.machines q.onlyInstances, (q.filtersOf kinds).selects machine = true := by
  obtain ⟨n, hn, copy, hcopy, hasked⟩ := exists_copy (guestCounts_ne_nil m hmachines) hvalid
  rcases mem_guestCounts (not_invalid_iff.mp hvalid).2.1 hn with
    ⟨role, hrole, hnamed, rfl⟩ | ⟨rfl, guest, hguest, hservices, hnamed⟩
  · obtain ⟨i, hbounds, hinstance⟩ := exists_instance hi hvalid
    obtain ⟨g, hg, rfl, rfl, rfl⟩ :=
      m.exists_guest hbounds hrole ⟨hcopy.1, UInt32.le_iff_toNat_le.mpr hcopy.2⟩
    obtain ⟨name, hname, hi', hbase, hcopy'⟩ := m.parse?_guest hg
    refine ⟨.scenario g, Inventory.mem_machines.mpr (.inl ⟨g, hg, rfl⟩), ?_⟩
    refine (selects_guest_iff m hkinds hg hname).mpr {
      instance_mem := hi' ▸ hinstance
      base_named := hbase ▸ hnamed
      copy_mem := hcopy' ▸ hasked
      not_excluded := ?_ }
    rw [hexclude]
    exact nofun
  · have hone : copy = 1 := UInt32.le_antisymm (UInt32.le_iff_toNat_le.mpr hcopy.2) hcopy.1
    refine ⟨.infrastructure guest,
      Inventory.mem_machines.mpr (.inr ⟨hservices, guest, hguest, rfl⟩), ?_⟩
    refine (selects_service_iff m hkinds hservices hguest).mpr {
      in_scope := hservices
      instances_nil := hscope.resolve_left fun h => by rw [hservices] at h; cases h
      id_named := hnamed
      copy_mem := hone ▸ hasked
      not_excluded := ?_ }
    rw [hexclude]
    exact nofun

end Query

/-! ## Resolving -/

/-- Copy 3 of the roles in the second instance. -/
def Query.third : Query where
  instances := [2]
  copies := [3]

namespace Inventory

/-- A query that takes nothing away is refused for what it names or selects a machine. A query about
services that asks for instances is left out, since services are of no instance. -/
theorem resolve_ne_noMatch {s : Scenario} {inv : Inventory} (h : compile s = .ok inv)
    (hi : 1 ≤ inv.instances) (q : Query) (hexclude : q.exclude = [])
    (hmachines : inv.machines q.onlyInstances ≠ [])
    (hscope : q.onlyInstances = true ∨ q.instances = []) :
    (∃ cause, inv.resolve q = .error (.badFilter cause))
      ∨ ∃ names, names ≠ [] ∧ inv.resolve q = .ok names := by
  obtain ⟨root, networks, m⟩ := compile_eq_ok.mp h
  cases hf : q.filters inv with
  | error e =>
      obtain ⟨cause, rfl⟩ := Query.badFilter_of_filters_eq_error hf
      exact .inl ⟨cause, resolve_of_filters_eq_error hf⟩
  | ok f =>
      obtain ⟨hvalid, kinds, hkinds, rfl⟩ := (Query.filters_eq_ok m hi).mp hf
      obtain ⟨machine, hmem, hselects⟩ :=
        Query.exists_selected m hi hvalid hexclude hmachines hscope hkinds
      have hname := (m.name_mem_selectedNames hmem).mpr hselects
      have hanswer : inv.Selects q (inv.selectedNames q.onlyInstances (q.filtersOf kinds)) :=
        selects_of_filters hf
      rw [Selects, if_neg (List.ne_nil_of_mem hname)] at hanswer
      exact .inr ⟨_, List.ne_nil_of_mem hname, hanswer⟩

theorem resolve_ne_noMatch_third : ∃ inv, compile .small = .ok inv ∧ 1 ≤ inv.instances
    ∧ Query.third.exclude = [] ∧ inv.machines true ≠ []
    ∧ ∃ names, names ≠ [] ∧ inv.resolve .third = .ok names := by
  have hrun : (compile .small).map (fun inv => (inv.instances, (inv.machines true).isEmpty,
      inv.resolve .third)) = .ok (2, false, .ok ["uni1-lab-2-web-3"]) := by decide +kernel
  obtain ⟨inv, h, heq⟩ := Attempt.map_eq_ok.mp hrun
  simp only [Prod.mk.injEq] at heq
  obtain ⟨hinstances, hempty, hok⟩ := heq
  have hi : 1 ≤ inv.instances := by
    rw [hinstances]
    decide
  have hmachines : inv.machines true ≠ [] := List.isEmpty_eq_false_iff.mp hempty
  refine ⟨inv, h, hi, rfl, hmachines, ?_⟩
  rcases resolve_ne_noMatch h hi .third rfl hmachines (.inl rfl) with ⟨cause, hcause⟩ | hnames
  · cases hok.symm.trans hcause
  · exact hnames

end Inventory

end RangeLab
