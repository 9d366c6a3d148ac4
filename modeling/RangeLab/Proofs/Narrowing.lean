import RangeLab.Proofs.Tightness

/-!
# Filters compose and narrow

A query filters by instances, by roles, by copies and by what it excludes. Each of these filters is
a query of its own, which passes the checks if the whole query does, and the query selects what all
four select (`Inventory.resolve_composes`). For the copies this is not plain: alone they are checked
against the roles of the lab, together with roles against these. In a lab with an instance the roles
of the lab have the larger bound.

A list that asks for nothing restricts nothing. So a query narrows another one if each of its lists
asks for something that the other list asks for too, or the other one asks for nothing, and then it
selects no further machines (`Query.selects_of_narrows`).
-/

namespace RangeLab

open Ipv4 (Block)

/-! ## Lists that ask -/

/-- What the second list asks for is asked for by the first one, or the first one leaves it open. -/
def Leaves {α : Type} (l l' : List α) : Prop := l = [] ∨ l' ≠ [] ∧ l' ⊆ l

theorem Leaves.asked {α : Type} {l l' : List α} {P : α → Prop} (h : Leaves l l')
    (ha : l' = [] ∨ ∃ a ∈ l', P a) : l = [] ∨ ∃ a ∈ l, P a := by
  rcases h with hnil | ⟨hne, hsub⟩
  · exact .inl hnil
  · obtain ⟨a, ha, hP⟩ := ha.resolve_left hne
    exact .inr ⟨a, hsub ha, hP⟩

namespace Filters

variable {f f' : Filters} {machine : Machine}

theorem matchesInstance_iff :
    f.matchesInstance machine = true ↔
      f.instances = [] ∨ ∃ n ∈ f.instances, machine.instance? = some n := by
  cases machine <;> simp [matchesInstance, Machine.instance?]

theorem matchesRole_iff :
    f.matchesRole machine = true ↔ f.roles = [] ∨ ∃ key ∈ f.roles, key = machine.base := by
  simp [matchesRole]

theorem matchesCopy_iff :
    f.matchesCopy machine = true ↔ f.copies = [] ∨ ∃ n ∈ f.copies,
      n = match machine with
        | .scenario g => if g.role.isSingleton then 1 else g.copy
        | .infrastructure _ => 1 := by
  cases machine <;> simp [matchesCopy]

theorem selects_iff :
    f.selects machine = true ↔ f.matchesInstance machine = true ∧ f.matchesRole machine = true
      ∧ f.matchesCopy machine = true ∧ machine.base ∉ f.exclude := by
  simp [selects, isExcluded, and_assoc]

/-- Filters that leave open at least what others do select at least as much. -/
theorem selects_of_leaves (hinstances : Leaves f.instances f'.instances)
    (hroles : Leaves f.roles f'.roles) (hcopies : Leaves f.copies f'.copies)
    (hexclude : f.exclude ⊆ f'.exclude) (h : f'.selects machine = true) :
    f.selects machine = true := by
  simp only [selects_iff, matchesInstance_iff, matchesRole_iff, matchesCopy_iff] at h ⊢
  obtain ⟨hi, hr, hc, he⟩ := h
  exact ⟨hinstances.asked hi, hroles.asked hr, hcopies.asked hc, fun hmem => he (hexclude hmem)⟩

end Filters

namespace Query

variable {q q' : Query} {inv : Inventory} {s : Scenario} {root : Block}
variable {networks : List (Slug × List Slug)} {kinds kinds' : List RoleKind}

/-! ## One filter at a time -/

/-- The query for its instances alone. -/
def byInstances (q : Query) : Query :=
  { instances := q.instances, onlyInstances := q.onlyInstances }

/-- The query for its roles and services alone. -/
def byGuests (q : Query) : Query := { guests := q.guests, onlyInstances := q.onlyInstances }

/-- The query for its copies alone. -/
def byCopies (q : Query) : Query := { copies := q.copies, onlyInstances := q.onlyInstances }

/-- The query for all that it does not exclude. -/
def byExclude (q : Query) : Query := { exclude := q.exclude, onlyInstances := q.onlyInstances }

/-- The filters of a query select what they select one at a time. -/
theorem selects_filtersOf {machine : Machine} :
    (q.filtersOf kinds).selects machine = true ↔
      (q.byInstances.filtersOf []).selects machine = true
      ∧ (q.byGuests.filtersOf kinds).selects machine = true
      ∧ (q.byCopies.filtersOf []).selects machine = true
      ∧ (q.byExclude.filtersOf []).selects machine = true := by
  simp [Filters.selects_iff, Filters.matchesInstance_iff, Filters.matchesRole_iff,
    Filters.matchesCopy_iff, filtersOf, byInstances, byGuests, byCopies, byExclude]

theorem byInstances_filters (h : q.checkInstances inv = .ok ()) :
    q.byInstances.filters inv = .ok (q.byInstances.filtersOf []) :=
  filters_eq_filtersOf.mpr ⟨h, [], .nil, checkCopies_eq_ok.mpr (by simp [byInstances]), rfl⟩

/-- No role or service has more copies than the one with the most in the lab. -/
theorem largestCopy_le_byCopies (hkinds : q.HasKinds inv kinds) :
    q.largestCopy inv ≤ q.byCopies.largestCopy inv := by
  refine max?_getD_le_iff.mpr ?_
  intro n hn
  refine List.le_max?_getD_of_mem ?_
  rw [guestCounts, if_pos (show q.byCopies.guests = [] from rfl), List.mem_append, List.mem_map]
  rcases mem_guestCounts (fun _ => hkinds.roleNamed?_ne_none) hn with
    ⟨role, hrole, -, rfl⟩ | ⟨rfl, guest, hguest, hscope, -⟩
  · exact .inl ⟨role, hrole, role.toNat_guestCount.symm⟩
  · refine .inr ?_
    rw [byCopies, hscope]
    exact List.mem_map.mpr ⟨guest, hguest, rfl⟩

theorem byCopies_filters (m : Inventory.MadeFrom s root networks inv) (hi : 1 ≤ inv.instances)
    (hkinds : q.HasKinds inv kinds) (h : q.checkCopies (q.maxCopy inv kinds) = .ok ()) :
    q.byCopies.filters inv = .ok (q.byCopies.filtersOf []) := by
  rw [maxCopy_eq m hi hkinds] at h
  have hnil : q.byCopies.HasKinds inv [] := (hasKinds_iff_of_nil rfl).mpr rfl
  refine filters_eq_filtersOf.mpr ⟨checkInstances_eq_ok.mpr (by simp [byCopies]), [], hnil, ?_, rfl⟩
  rw [maxCopy_eq m hi hnil]
  exact checkCopies_mono (largestCopy_le_byCopies hkinds) h

/-! ## Narrower queries -/

/-- The second query narrows the first one: it asks for part of what the first one asks for, or for
something where the first one asks for nothing, and excludes what the first one does. -/
structure NarrowsTo (q q' : Query) : Prop where
  scope_eq : q'.onlyInstances = q.onlyInstances
  instances : Leaves q.instances q'.instances
  guests : Leaves q.guests q'.guests
  copies : Leaves q.copies q'.copies
  exclude : q.exclude ⊆ q'.exclude

/-- What an entry stands for does not depend on the others. -/
theorem NarrowsTo.roles (h : q.NarrowsTo q') (hkinds : q.HasKinds inv kinds)
    (hkinds' : q'.HasKinds inv kinds') :
    Leaves (q.filtersOf kinds).roles (q'.filtersOf kinds').roles := by
  rcases h.guests with hnil | ⟨hne, hsub⟩
  · exact .inl ((roles_filtersOf_eq_nil hkinds).mpr hnil)
  · refine .inr ⟨mt (roles_filtersOf_eq_nil hkinds').mp hne, ?_⟩
    intro key hkey
    obtain ⟨entry, hentry, hkey⟩ := (mem_keys hkinds').mp hkey
    rw [h.scope_eq] at hkey
    exact (mem_keys hkinds).mpr ⟨entry, hsub hentry, hkey⟩

theorem selects_of_narrows (h : q.NarrowsTo q') (hkinds : q.HasKinds inv kinds)
    (hkinds' : q'.HasKinds inv kinds') {machine : Machine}
    (hselects : (q'.filtersOf kinds').selects machine = true) :
    (q.filtersOf kinds).selects machine = true := by
  have hexclude : q.exclude.flatMap excludeKeys ⊆ q'.exclude.flatMap excludeKeys := by
    intro key hkey
    obtain ⟨entry, hentry, hkey⟩ := List.mem_flatMap.mp hkey
    exact List.mem_flatMap.mpr ⟨entry, h.exclude hentry, hkey⟩
  have hinstances : Leaves (q.filtersOf kinds).instances (q'.filtersOf kinds').instances :=
    h.instances
  exact Filters.selects_of_leaves hinstances (h.roles hkinds hkinds') h.copies hexclude hselects

/-- Copies 1 and 3 of a role and of the host that students connect through. -/
def pair : Query where
  guests := ["Web", "student_access"]
  copies := [1, 3]
  onlyInstances := false
  exclude := ["DataBase"]

/-- Copy 3 of the role in the second instance. -/
def single : Query where
  instances := [2]
  guests := ["Web"]
  copies := [3]
  onlyInstances := false
  exclude := ["DataBase"]

end Query

/-! ## Resolving -/

namespace Inventory

/-- In a lab with an instance, the filters of a query that passes the checks pass them one at a
time, and the query selects the machines that all of them select, in the order of the inventory. In
any lab, of two queries that pass the checks, one that narrows the other selects some of the
machines that the other one selects, in the same order. -/
theorem resolve_composes {s : Scenario} {inv : Inventory} (h : compile s = .ok inv) :
    (1 ≤ inv.instances → ∀ q : Query, inv.Accepts q →
      ∃ names ofInstances ofGuests ofCopies left, inv.Selects q names
        ∧ inv.Selects q.byInstances ofInstances ∧ inv.Selects q.byGuests ofGuests
        ∧ inv.Selects q.byCopies ofCopies ∧ inv.Selects q.byExclude left
        ∧ names = (inv.machineNames q.onlyInstances).filter fun name =>
          name ∈ ofInstances ∧ name ∈ ofGuests ∧ name ∈ ofCopies ∧ name ∈ left)
    ∧ ∀ q q' : Query, inv.Accepts q → inv.Accepts q' → q.NarrowsTo q' →
      ∃ names names', inv.Selects q names ∧ inv.Selects q' names' ∧ names'.Sublist names := by
  obtain ⟨root, networks, m⟩ := compile_eq_ok.mp h
  constructor
  · intro hi q haccepts
    obtain ⟨kinds, hkinds, hinstances, hcopies⟩ := Query.exists_kinds_of_accepts haccepts
    have hguests : q.byGuests.HasKinds inv kinds := hkinds
    refine ⟨_, _, _, _, _, Query.selects_of_accepts hkinds haccepts,
      selects_of_filters (Query.byInstances_filters hinstances),
      selects_of_filters (Query.filters_of_hasKinds hguests rfl rfl),
      selects_of_filters (Query.byCopies_filters m hi hkinds hcopies),
      selects_of_filters (Query.filters_of_hasKinds .nil rfl rfl), ?_⟩
    rw [machineNames, List.filter_map, selectedNames]
    congr 1
    refine List.filter_congr ?_
    intro machine hmem
    have hname : ∀ f : Filters,
        machine.name ∈ inv.selectedNames q.onlyInstances f ↔ f.selects machine = true :=
      fun _ => m.name_mem_selectedNames hmem
    rw [Bool.eq_iff_iff, Query.selects_filtersOf, Function.comp_apply, decide_eq_true_eq]
    exact (and_congr (hname _) (and_congr (hname _) (and_congr (hname _) (hname _)))).symm
  · intro q q' haccepts haccepts' hnarrows
    obtain ⟨kinds, hkinds, -⟩ := Query.exists_kinds_of_accepts haccepts
    obtain ⟨kinds', hkinds', -⟩ := Query.exists_kinds_of_accepts haccepts'
    refine ⟨_, _, Query.selects_of_accepts hkinds haccepts,
      Query.selects_of_accepts hkinds' haccepts', ?_⟩
    rw [hnarrows.scope_eq, selectedNames, selectedNames]
    refine List.Sublist.map _ (List.monotone_filter_right _ ?_)
    intro machine hselects
    exact Query.selects_of_narrows hnarrows hkinds hkinds' hselects

/-- The first query selects four guests and a host, and the second one, which narrows it, selects
one of the guests. -/
theorem resolve_composes_pair : ∃ inv, compile .small = .ok inv ∧ 1 ≤ inv.instances
    ∧ inv.Accepts .pair ∧ inv.Accepts .single ∧ Query.pair.NarrowsTo .single
    ∧ inv.resolve .pair = .ok ["uni1-lab-1-web-1", "uni1-lab-1-web-3", "uni1-lab-2-web-1",
        "uni1-lab-2-web-3", "uni1-lab-student_access"]
    ∧ inv.resolve .single = .ok ["uni1-lab-2-web-3"]
    ∧ (∃ names ofInstances ofGuests ofCopies left, inv.Selects .pair names
      ∧ inv.Selects Query.pair.byInstances ofInstances ∧ inv.Selects Query.pair.byGuests ofGuests
      ∧ inv.Selects Query.pair.byCopies ofCopies ∧ inv.Selects Query.pair.byExclude left
      ∧ names = (inv.machineNames false).filter fun name =>
        name ∈ ofInstances ∧ name ∈ ofGuests ∧ name ∈ ofCopies ∧ name ∈ left)
    ∧ ∃ names names', inv.Selects .pair names ∧ inv.Selects .single names'
      ∧ names'.Sublist names := by
  have hrun : (compile .small).map (fun inv =>
        (inv.instances, inv.resolve .pair, inv.resolve .single))
      = .ok (2, .ok ["uni1-lab-1-web-1", "uni1-lab-1-web-3", "uni1-lab-2-web-1",
          "uni1-lab-2-web-3", "uni1-lab-student_access"], .ok ["uni1-lab-2-web-3"]) := by
    decide +kernel
  obtain ⟨inv, h, heq⟩ := Attempt.map_eq_ok.mp hrun
  simp only [Prod.mk.injEq] at heq
  obtain ⟨hinstances, hpair, hsingle⟩ := heq
  have hi : 1 ≤ inv.instances := by
    rw [hinstances]
    decide
  have haccepts : inv.Accepts .pair := by simp [Accepts, hpair]
  have haccepts' : inv.Accepts .single := by simp [Accepts, hsingle]
  have hnarrows : Query.pair.NarrowsTo .single := {
    scope_eq := rfl
    instances := .inl rfl
    guests := .inr ⟨by decide, by decide⟩
    copies := .inr ⟨by decide, by decide⟩
    exclude := by decide }
  obtain ⟨hcompose, hnarrow⟩ := resolve_composes h
  exact ⟨inv, h, hi, haccepts, haccepts', hnarrows, hpair, hsingle, hcompose hi _ haccepts,
    hnarrow _ _ haccepts haccepts' hnarrows⟩

end Inventory

end RangeLab
