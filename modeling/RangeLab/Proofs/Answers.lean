import RangeLab.Proofs.Selection

/-!
# Answers to queries

A query that passes the checks is answered by the names of the machines that its filters select
(`selects_of_filters`), and one that does not is refused as the checks refuse it. A selection
without names is a refusal of its own; `Selects` counts it as the empty answer. Within one inventory
a machine is selected iff its name is (`name_mem_selectedNames`).
-/

namespace RangeLab

open Ipv4 (Block)

theorem Filters.instance_of_selects {f : Filters} {g : Guest}
    (h : f.selects (.scenario g) = true) :
    f.instances = [] ∨ g.instanceNumber ∈ f.instances := by
  simp only [selects, matchesInstance, Machine.instance?, Bool.and_eq_true, Bool.or_eq_true,
    List.isEmpty_iff, List.contains_iff_mem] at h
  exact h.1.1.1

namespace Inventory

variable {inv inv' : Inventory} {q : Query} {f : Filters}

/-- The names of the machines that the filters select, in the order of the inventory. -/
def selectedNames (inv : Inventory) (onlyInstances : Bool) (f : Filters) : List String :=
  ((inv.machines onlyInstances).filter f.selects).map Machine.name

/-- The answer to a query is these names, or the refusal that stands for no names. -/
def Selects (inv : Inventory) (q : Query) (names : List String) : Prop :=
  inv.resolve q = if names = [] then .error .noMatch else .ok names

theorem selects_of_filters (h : q.filters inv = .ok f) :
    inv.Selects q (inv.selectedNames q.onlyInstances f) := by
  rw [Selects, resolve, h, selectedNames]
  show (if List.isEmpty _ then _ else _) = _
  cases ((inv.machines q.onlyInstances).filter f.selects).map Machine.name <;> rfl

theorem resolve_of_filters_eq_error {e : Fault} (h : q.filters inv = .error e) :
    inv.resolve q = .error e := by
  rw [resolve, h]
  rfl

/-- Inventories that check a query alike and select the same names answer it alike. -/
theorem resolve_congr (hfilters : q.filters inv = q.filters inv')
    (hselected : ∀ f, q.filters inv = .ok f →
      inv.selectedNames q.onlyInstances f = inv'.selectedNames q.onlyInstances f) :
    inv.resolve q = inv'.resolve q := by
  cases h : q.filters inv with
  | error e =>
      rw [resolve_of_filters_eq_error h, resolve_of_filters_eq_error (hfilters.symm.trans h)]
  | ok f =>
      have hanswer := selects_of_filters h
      have hanswer' := selects_of_filters (hfilters.symm.trans h)
      rw [Selects] at hanswer hanswer'
      rw [hanswer, hanswer', hselected f h]

/-- The query passes the checks: it is not refused for what it asks for. -/
def Accepts (inv : Inventory) (q : Query) : Prop :=
  ∀ cause, inv.resolve q ≠ .error (.badFilter cause)

theorem accepts_iff_filters : inv.Accepts q ↔ ∃ f, q.filters inv = .ok f := by
  constructor
  · intro h
    cases hf : q.filters inv with
    | error e =>
        obtain ⟨cause, rfl⟩ := Query.badFilter_of_filters_eq_error hf
        exact absurd (resolve_of_filters_eq_error hf) (h cause)
    | ok f => exact ⟨f, rfl⟩
  · rintro ⟨f, hf⟩ cause hrefused
    have hanswer := selects_of_filters hf
    rw [Selects, hrefused] at hanswer
    split at hanswer <;> cases hanswer

theorem selectedNames_sublist {onlyInstances : Bool} :
    (inv.selectedNames onlyInstances f).Sublist (inv.machineNames onlyInstances) :=
  List.Sublist.map _ List.filter_sublist

theorem MadeFrom.name_mem_selectedNames {s : Scenario} {root : Block}
    {networks : List (Slug × List Slug)} (m : MadeFrom s root networks inv) {onlyInstances : Bool}
    {machine : Machine} (hmem : machine ∈ inv.machines onlyInstances) :
    machine.name ∈ inv.selectedNames onlyInstances f ↔ f.selects machine = true := by
  rw [selectedNames, List.mem_map]
  constructor
  · rintro ⟨other, hother, hname⟩
    obtain ⟨hother, hselects⟩ := List.mem_filter.mp hother
    have heq := List.inj_on_of_nodup_map (m.nodup_machineNames onlyInstances) hother hmem hname
    exact heq ▸ hselects
  · intro hselects
    exact ⟨machine, List.mem_filter.mpr ⟨hmem, hselects⟩, rfl⟩

end Inventory

namespace Query

variable {q : Query} {inv : Inventory}

/-- The filters of a query that passes the checks. -/
theorem filters_eq_filtersOf {f : Filters} :
    q.filters inv = .ok f ↔ q.checkInstances inv = .ok () ∧ ∃ kinds, q.HasKinds inv kinds
      ∧ q.checkCopies (q.maxCopy inv kinds) = .ok () ∧ q.filtersOf kinds = f :=
  filters_eq_ok_iff_checks

/-- The names of a query that passes the checks refer to something. -/
theorem exists_kinds_of_accepts (h : inv.Accepts q) :
    ∃ kinds, q.HasKinds inv kinds ∧ q.checkInstances inv = .ok ()
      ∧ q.checkCopies (q.maxCopy inv kinds) = .ok () := by
  obtain ⟨f, hf⟩ := Inventory.accepts_iff_filters.mp h
  obtain ⟨hinstances, kinds, hkinds, hcopies, -⟩ := filters_eq_filtersOf.mp hf
  exact ⟨kinds, hkinds, hinstances, hcopies⟩

theorem accepts_iff_of_hasKinds {kinds : List RoleKind} (hkinds : q.HasKinds inv kinds) :
    inv.Accepts q ↔
      q.checkInstances inv = .ok () ∧ q.checkCopies (q.maxCopy inv kinds) = .ok () := by
  constructor
  · intro h
    obtain ⟨kinds', hkinds', hchecks⟩ := exists_kinds_of_accepts h
    rwa [hkinds.unique hkinds']
  · rintro ⟨hinstances, hcopies⟩
    exact Inventory.accepts_iff_filters.mpr
      ⟨_, filters_eq_filtersOf.mpr ⟨hinstances, kinds, hkinds, hcopies, rfl⟩⟩

/-- A query that passes the checks gets the names that its filters select. -/
theorem selects_of_accepts {kinds : List RoleKind} (hkinds : q.HasKinds inv kinds)
    (h : inv.Accepts q) :
    inv.Selects q (inv.selectedNames q.onlyInstances (q.filtersOf kinds)) := by
  obtain ⟨hinstances, hcopies⟩ := (accepts_iff_of_hasKinds hkinds).mp h
  exact Inventory.selects_of_filters
    (filters_eq_filtersOf.mpr ⟨hinstances, kinds, hkinds, hcopies, rfl⟩)

/-- A query that asks for no instance and no copy passes the checks if its names refer to
something. -/
theorem filters_of_hasKinds {kinds : List RoleKind} (hkinds : q.HasKinds inv kinds)
    (hinstances : q.instances = []) (hcopies : q.copies = []) :
    q.filters inv = .ok (q.filtersOf kinds) :=
  filters_eq_filtersOf.mpr ⟨checkInstances_eq_ok.mpr (by simp [hinstances]), kinds, hkinds,
    checkCopies_eq_ok.mpr (by simp [hcopies]), rfl⟩

end Query

end RangeLab
