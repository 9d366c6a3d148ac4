import RangeLab.Proofs.Answers

/-!
# What excluding a name leaves

A name is excluded as it is spelled and by its slug, while a query for the name asks what it refers
to. The two go together: the machines that the name refers to and those that are left without it
have none in common, and they are all machines of the lab but for one case
(`only_without_complement`). A role whose slug is that of an access host's identifier is excluded
with the host, although the identifier refers to the host alone.
-/

namespace RangeLab

open Ipv4 (Block)

namespace Query

/-- The query for the machines of one role or service. -/
def only (name : String) (onlyInstances : Bool) : Query := { guests := [name], onlyInstances }

/-- The query for the machines of all roles and services but one. -/
def without (name : String) (onlyInstances : Bool) : Query := { exclude := [name], onlyInstances }

variable {inv : Inventory} {name : String} {onlyInstances : Bool} {kind : RoleKind}

theorem hasKinds_only (h : inv.roleKind? name onlyInstances = some kind) :
    (only name onlyInstances).HasKinds inv [kind] := .cons h .nil

theorem hasKinds_without : (without name onlyInstances).HasKinds inv [] := .nil

end Query

namespace Inventory

variable {s : Scenario} {root : Block} {networks : List (Slug × List Slug)} {inv : Inventory}
variable {name : String} {onlyInstances : Bool} {kind : RoleKind}

/-- A name that refers to something has the slug of no service but the one it refers to. -/
theorem MadeFrom.ne_id_of_slug (m : MadeFrom s root networks inv)
    (hkind : inv.roleKind? name onlyInstances = some kind) {v : Service} (hv : name ≠ v.id)
    {slug : Slug} (hslug : Slug.ofText? name = some slug) : slug.text ≠ v.id := by
  intro hid
  cases htakes : inv.takesAsService onlyInstances name with
  | true =>
      obtain ⟨-, guest, -, hguest⟩ := takesAsService_eq_true.mp htakes
      have hletters := Slug.ofText?_eq_some.mp hslug
      rw [hid, ← hguest] at hletters
      exact hv (Service.eq_of_letters_id hletters ▸ hguest.symm)
  | false =>
      rw [roleKind?_of_not_takesAsService htakes] at hkind
      obtain ⟨role, hrole, -⟩ := Option.map_eq_some_iff.mp hkind
      obtain ⟨hmem, hname⟩ := roleNamed?_eq_some hrole
      obtain rfl := Option.some.inj (hslug.symm.trans hname)
      exact m.admissible.not_service role hmem v hid.symm

/-- A service whose identifier has the slug of a guest's role is an access host. -/
theorem MadeFrom.isAccess_of_guest (m : MadeFrom s root networks inv) {g : Guest}
    (hg : g ∈ inv.guests) (hslug : Slug.ofText? name = some g.role.name) {v : Service}
    (hv : v.id = name) : v.isAccess = true := by
  have hrole : inv.roleNamed? name = some g.role := by
    rw [roleNamed?, hslug]
    exact Topology.find?_name m.admissible.roles_nodup (m.role_and_copy hg).2.1
  exact m.isAccess_of_roleNamed? hrole hv

/-! ## What is selected -/

theorem MadeFrom.only_selects_guest (m : MadeFrom s root networks inv)
    (hkind : inv.roleKind? name onlyInstances = some kind) {g : Guest} (hg : g ∈ inv.guests) :
    ((Query.only name onlyInstances).filtersOf [kind]).selects (.scenario g) = true ↔
      inv.takesAsService onlyInstances name = false ∧ Slug.ofText? name = some g.role.name := by
  obtain ⟨n, hn, -, hbase, -⟩ := m.parse?_guest hg
  rw [Query.selects_guest_iff m (Query.hasKinds_only hkind) hg hn, ← hbase]
  constructor
  · intro h
    simpa [Query.only] using h.base_named
  · intro h
    exact ⟨.inl rfl, .inr ⟨name, List.mem_singleton_self name, h⟩, .inl rfl, nofun⟩

theorem MadeFrom.without_selects_guest (m : MadeFrom s root networks inv) {g : Guest}
    (hg : g ∈ inv.guests) :
    ((Query.without name onlyInstances).filtersOf []).selects (.scenario g) = true ↔
      Slug.ofText? name ≠ some g.role.name := by
  obtain ⟨n, hn, -, hbase, -⟩ := m.parse?_guest hg
  rw [Query.selects_guest_iff m Query.hasKinds_without hg hn, ← hbase]
  constructor
  · intro h
    exact h.not_excluded name (List.mem_singleton_self name)
  · intro h
    exact ⟨.inl rfl, .inl rfl, .inl rfl, List.forall_mem_singleton.mpr h⟩

theorem MadeFrom.only_selects_service (m : MadeFrom s root networks inv)
    (hkind : inv.roleKind? name false = some kind) {guest : ServiceGuest}
    (hguest : guest ∈ inv.services) :
    ((Query.only name false).filtersOf [kind]).selects (.infrastructure guest) = true ↔
      guest.service.id = name := by
  rw [Query.selects_service_iff m (Query.hasKinds_only hkind) rfl hguest]
  constructor
  · intro h
    simpa [Query.only] using h.id_named
  · rintro rfl
    exact ⟨rfl, rfl, .inr (List.mem_singleton_self _), .inl rfl, nofun⟩

theorem MadeFrom.without_selects_service (m : MadeFrom s root networks inv)
    (hkind : inv.roleKind? name false = some kind) {guest : ServiceGuest}
    (hguest : guest ∈ inv.services) :
    ((Query.without name false).filtersOf []).selects (.infrastructure guest) = true ↔
      guest.service.id ≠ name := by
  rw [Query.selects_service_iff m Query.hasKinds_without rfl hguest]
  constructor
  · intro h
    exact (h.not_excluded name (List.mem_singleton_self name)).1.symm
  · intro h
    refine ⟨rfl, rfl, .inl rfl, .inl rfl, List.forall_mem_singleton.mpr ⟨h.symm, ?_⟩⟩
    exact fun slug hslug => m.ne_id_of_slug hkind h.symm hslug

/-! ## Both queries together -/

theorem MadeFrom.not_selected_twice (m : MadeFrom s root networks inv)
    (hkind : inv.roleKind? name onlyInstances = some kind) {machine : Machine}
    (hmem : machine ∈ inv.machines onlyInstances)
    (honly : ((Query.only name onlyInstances).filtersOf [kind]).selects machine = true) :
    ((Query.without name onlyInstances).filtersOf []).selects machine ≠ true := by
  rcases mem_machines.mp hmem with ⟨g, hg, rfl⟩ | ⟨rfl, guest, hguest, rfl⟩
  · have hslug := ((m.only_selects_guest hkind hg).mp honly).2
    intro hwithout
    exact (m.without_selects_guest hg).mp hwithout hslug
  · have hid := (m.only_selects_service hkind hguest).mp honly
    intro hwithout
    exact (m.without_selects_service hkind hguest).mp hwithout hid

/-- A machine that neither query selects is a guest of a role that shares its slug with the service
that the name refers to. -/
theorem MadeFrom.selected_once_iff (m : MadeFrom s root networks inv)
    (hkind : inv.roleKind? name onlyInstances = some kind) {machine : Machine}
    (hmem : machine ∈ inv.machines onlyInstances) :
    (((Query.only name onlyInstances).filtersOf [kind]).selects machine = true
        ∨ ((Query.without name onlyInstances).filtersOf []).selects machine = true) ↔
      ¬(inv.takesAsService onlyInstances name = true
        ∧ ∃ g ∈ inv.guests, machine = .scenario g ∧ Slug.ofText? name = some g.role.name) := by
  rcases mem_machines.mp hmem with ⟨g, hg, rfl⟩ | ⟨rfl, guest, hguest, rfl⟩
  · rw [m.only_selects_guest hkind hg, m.without_selects_guest hg]
    cases inv.takesAsService onlyInstances name with
    | true => simp [hg]
    | false => simp [em]
  · rw [m.only_selects_service hkind hguest, m.without_selects_service hkind hguest]
    simp [em]

/-- A name that refers to something selects machines, and excluding it selects others. Together
these are the machines of the lab but for the guests of a role that shares its slug with an enabled
access host, if the name is the identifier of the host. -/
theorem only_without_complement {s : Scenario} {inv : Inventory} (h : compile s = .ok inv)
    {name : String} {onlyInstances : Bool} {kind : RoleKind}
    (hkind : inv.roleKind? name onlyInstances = some kind) :
    ∃ chosen left, inv.Selects (Query.only name onlyInstances) chosen
      ∧ inv.Selects (Query.without name onlyInstances) left
      ∧ chosen.Sublist (inv.machineNames onlyInstances)
      ∧ left.Sublist (inv.machineNames onlyInstances) ∧ chosen.Disjoint left
      ∧ ∀ machine ∈ inv.machines onlyInstances,
        (machine.name ∈ chosen ∨ machine.name ∈ left) ↔
          ¬(onlyInstances = false ∧ (∃ v ∈ s.services.enabled, v.isAccess = true ∧ v.id = name)
            ∧ ∃ g ∈ inv.guests, machine = .scenario g ∧ Slug.ofText? name = some g.role.name) := by
  obtain ⟨root, networks, m⟩ := compile_eq_ok.mp h
  have hchosen := selects_of_filters (Query.filters_of_hasKinds (Query.hasKinds_only hkind) rfl rfl)
  have hnone : (Query.without name onlyInstances).HasKinds inv [] := Query.hasKinds_without
  have hleft := selects_of_filters (Query.filters_of_hasKinds hnone rfl rfl)
  refine ⟨_, _, hchosen, hleft, selectedNames_sublist, selectedNames_sublist, ?_, ?_⟩
  · intro n honly hwithout
    obtain ⟨machine, hmem, rfl⟩ := List.mem_map.mp (selectedNames_sublist.subset honly)
    exact m.not_selected_twice hkind hmem ((m.name_mem_selectedNames hmem).mp honly)
      ((m.name_mem_selectedNames hmem).mp hwithout)
  · intro machine hmem
    refine ((or_congr (m.name_mem_selectedNames hmem) (m.name_mem_selectedNames hmem)).trans
      (m.selected_once_iff hkind hmem)).trans (not_congr ?_)
    rw [m.takesAsService_iff, and_assoc]
    refine and_congr_right fun _ => and_congr_left ?_
    intro hguest
    obtain ⟨g, hg, -, hslug⟩ := hguest
    refine exists_congr fun v => and_congr_right fun _ => ?_
    exact (and_iff_right_of_imp (m.isAccess_of_guest hg hslug)).symm

theorem only_without_complement_small : ∃ inv, compile .small = .ok inv
    ∧ inv.roleKind? "Web!" false = some (.scenario 3) ∧ ∃ chosen left,
      inv.Selects (Query.only "Web!" false) chosen ∧ inv.Selects (Query.without "Web!" false) left
      ∧ chosen.Sublist (inv.machineNames false) ∧ left.Sublist (inv.machineNames false)
      ∧ chosen.Disjoint left
      ∧ ∀ machine ∈ inv.machines false, machine.name ∈ chosen ∨ machine.name ∈ left := by
  have hrun : (compile .small).map (fun inv => inv.roleKind? "Web!" false)
      = .ok (some (.scenario 3)) := by decide +kernel
  have hno : ∀ v ∈ Scenario.small.services.enabled, v.id ≠ "Web!" := by decide
  obtain ⟨inv, h, hkind⟩ := Attempt.map_eq_ok.mp hrun
  obtain ⟨chosen, left, honly, hwithout, hsub, hsub', hdisjoint, hall⟩ :=
    only_without_complement h hkind
  refine ⟨inv, h, hkind, chosen, left, honly, hwithout, hsub, hsub', hdisjoint, ?_⟩
  intro machine hmem
  refine (hall machine hmem).mpr ?_
  intro hshadowed
  obtain ⟨-, ⟨v, hv, -, hid⟩, -⟩ := hshadowed
  exact hno v hv hid

/-- The name selects the access host alone, but excluding it leaves no machine at all. -/
theorem only_without_shadowed : ∃ inv, compile (shadowed { studentAccess := true }) = .ok inv
    ∧ inv.roleKind? "student_access" false = some (.infrastructure .studentAccess)
    ∧ inv.machineNames false = ["udelar-lab01-1-studentaccess", "udelar-lab01-student_access"]
    ∧ inv.Selects (Query.only "student_access" false) ["udelar-lab01-student_access"]
    ∧ inv.Selects (Query.without "student_access" false) [] := by
  have hrun : (compile (shadowed { studentAccess := true })).map (fun inv =>
      (inv.roleKind? "student_access" false, inv.machineNames false,
        inv.resolve (Query.only "student_access" false),
        inv.resolve (Query.without "student_access" false)))
      = .ok (some (.infrastructure .studentAccess),
        ["udelar-lab01-1-studentaccess", "udelar-lab01-student_access"],
        .ok ["udelar-lab01-student_access"], .error .noMatch) := by decide +kernel
  obtain ⟨inv, h, heq⟩ := Attempt.map_eq_ok.mp hrun
  obtain ⟨hkind, heq⟩ := Prod.mk.inj heq
  obtain ⟨hnames, heq⟩ := Prod.mk.inj heq
  obtain ⟨honly, hwithout⟩ := Prod.mk.inj heq
  exact ⟨inv, h, hkind, hnames, honly, hwithout⟩

end Inventory

end RangeLab
