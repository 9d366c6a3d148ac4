import RangeLab.Proofs.Filters
import RangeLab.Proofs.Machines

/-!
# What a query selects

A query is resolved without looking at names: machines are filtered by their instances, roles and
copies. The names that are left are nevertheless just those that the query would select when they
are read (`resolve_selects_names`). Reading gives back instance, role and copy of a guest, so each
filter on machines is a condition on names; the keys of roles and of services do not meet, because
no role is named like a service.
-/

namespace RangeLab

open Ipv4 (Block)

/-! ## Selection by name -/

namespace Query

/-- The query selects a guest with this name. An entry that is taken as a service selects no role,
whatever its slug. -/
structure SelectsGuest (q : Query) (inv : Inventory) (n : MachineName) : Prop where
  instance_mem : q.instances = [] ∨ n.instanceNumber ∈ q.instances
  base_named : q.guests = [] ∨ ∃ entry ∈ q.guests,
    inv.takesAsService q.onlyInstances entry = false ∧ Slug.ofText? entry = some n.base
  copy_mem : q.copies = [] ∨ n.copyNumber ∈ q.copies
  not_excluded : ∀ entry ∈ q.exclude, Slug.ofText? entry ≠ some n.base

/-- The query selects a service, which is of no instance and counts as copy 1. -/
structure SelectsService (q : Query) (v : Service) : Prop where
  in_scope : q.onlyInstances = false
  instances_nil : q.instances = []
  id_named : q.guests = [] ∨ v.id ∈ q.guests
  copy_mem : q.copies = [] ∨ 1 ∈ q.copies
  not_excluded : ∀ entry ∈ q.exclude,
    entry ≠ v.id ∧ ∀ slug, Slug.ofText? entry = some slug → slug.text ≠ v.id

/-- The query selects a name: one that is read as that of a selected guest, or that of a selected
service that the lab has. -/
def SelectsName (q : Query) (inv : Inventory) (name : String) : Prop :=
  (∃ n, MachineName.parse? name = some n ∧ q.SelectsGuest inv n)
    ∨ ∃ guest ∈ inv.services, guest.name = name ∧ q.SelectsService guest.service

variable {q : Query} {inv : Inventory} {s : Scenario} {root : Block}
variable {networks : List (Slug × List Slug)}

/-! ## The keys of the filters -/

theorem key_eq {name : String} {kind : RoleKind}
    (h : inv.roleKind? name q.onlyInstances = some kind) :
    kind.key name = if inv.takesAsService q.onlyInstances name then name
      else String.ofList (Slug.letters name) := by
  cases htakes : inv.takesAsService q.onlyInstances name with
  | true =>
      obtain ⟨guest, -, hid, hkind⟩ := Inventory.roleKind?_of_takesAsService htakes
      rw [hkind] at h
      obtain rfl := Option.some.inj h
      exact hid
  | false =>
      rw [Inventory.roleKind?_of_not_takesAsService htakes] at h
      obtain ⟨role, -, rfl⟩ := Option.map_eq_some_iff.mp h
      rfl

theorem mem_keys {kinds : List RoleKind} (hkinds : q.HasKinds inv kinds) {key : String} :
    key ∈ ((kinds.zip q.guests).map fun (kind, name) => kind.key name) ↔
      ∃ entry ∈ q.guests, (if inv.takesAsService q.onlyInstances entry then entry
        else String.ofList (Slug.letters entry)) = key := by
  rw [map_zip_of_forall₂ hkinds fun _ _ => key_eq, List.mem_map]

/-- The key of a role is that of the entries with its slug that are not taken as services. -/
theorem role_mem_keys (m : Inventory.MadeFrom s root networks inv) {kinds : List RoleKind}
    (hkinds : q.HasKinds inv kinds) {role : Role} (hrole : role ∈ inv.topology.roles) :
    role.name.text ∈ ((kinds.zip q.guests).map fun (kind, name) => kind.key name) ↔
      ∃ entry ∈ q.guests, inv.takesAsService q.onlyInstances entry = false
        ∧ Slug.ofText? entry = some role.name := by
  rw [mem_keys hkinds]
  refine exists_congr fun entry => and_congr_right fun _ => ?_
  cases htakes : inv.takesAsService q.onlyInstances entry with
  | true =>
      obtain ⟨-, v, -, hid⟩ := m.takesAsService_iff.mp htakes
      refine iff_of_false (fun h => ?_) (by simp)
      exact m.admissible.not_service role hrole v (hid.trans h)
  | false =>
      rw [if_neg Bool.false_ne_true, Slug.ofText?_eq_some, eq_self, true_and, ← String.toList_inj,
        String.toList_ofList]

/-- The key of a service is that of its identifier, which no role has for a slug. -/
theorem service_mem_keys (m : Inventory.MadeFrom s root networks inv) {kinds : List RoleKind}
    (hkinds : q.HasKinds inv kinds) (hscope : q.onlyInstances = false) {guest : ServiceGuest}
    (hguest : guest ∈ inv.services) :
    guest.service.id ∈ ((kinds.zip q.guests).map fun (kind, name) => kind.key name) ↔
      guest.service.id ∈ q.guests := by
  rw [mem_keys hkinds]
  constructor
  · rintro ⟨entry, hentry, hkey⟩
    cases htakes : inv.takesAsService q.onlyInstances entry with
    | true =>
        rw [htakes, if_pos rfl] at hkey
        exact hkey ▸ hentry
    | false =>
        obtain ⟨kind, -, hkind⟩ := exists_right_of_forall₂ hkinds hentry
        rw [Inventory.roleKind?_of_not_takesAsService htakes] at hkind
        obtain ⟨role, hrole, -⟩ := Option.map_eq_some_iff.mp hkind
        obtain ⟨hmem, hslug⟩ := Inventory.roleNamed?_eq_some hrole
        rw [htakes, if_neg Bool.false_ne_true, Slug.ofText?_eq_some.mp hslug,
          String.ofList_toList] at hkey
        exact absurd hkey.symm (m.admissible.not_service role hmem guest.service)
  · intro hmem
    have htakes : inv.takesAsService q.onlyInstances guest.service.id = true :=
      Inventory.takesAsService_eq_true.mpr ⟨hscope, guest, hguest, rfl⟩
    exact ⟨guest.service.id, hmem, by rw [htakes, if_pos rfl]⟩

theorem mem_excludeKeys {key : String} :
    key ∈ q.exclude.flatMap excludeKeys ↔ ∃ entry ∈ q.exclude,
      entry = key ∨ ∃ slug, Slug.ofText? entry = some slug ∧ slug.text = key := by
  rw [List.mem_flatMap]
  refine exists_congr fun entry => and_congr_right fun _ => ?_
  unfold excludeKeys
  cases Slug.ofText? entry with
  | none => simp [eq_comm]
  | some slug => simp [eq_comm]

/-- A role is excluded by the entries with its slug, the slug itself among them. -/
theorem slug_mem_excludeKeys {slug : Slug} :
    slug.text ∈ q.exclude.flatMap excludeKeys ↔
      ∃ entry ∈ q.exclude, Slug.ofText? entry = some slug := by
  rw [mem_excludeKeys]
  refine exists_congr fun entry => and_congr_right fun _ => ⟨?_, ?_⟩
  · rintro (rfl | ⟨slug', hslug', htext⟩)
    · exact slug.ofText?_text
    · rw [hslug', Slug.text_inj.mp htext]
  · intro h
    exact .inr ⟨slug, h, rfl⟩

/-! ## Machines and names -/

/-- The filters that the checks make of a query whose names have these kinds. -/
def filtersOf (q : Query) (kinds : List RoleKind) : Filters where
  instances := q.instances
  roles := (kinds.zip q.guests).map fun (kind, name) => kind.key name
  copies := q.copies
  exclude := q.exclude.flatMap excludeKeys

theorem roles_filtersOf_eq_nil {kinds : List RoleKind} (hkinds : q.HasKinds inv kinds) :
    (q.filtersOf kinds).roles = [] ↔ q.guests = [] := by
  rw [filtersOf, map_zip_of_forall₂ hkinds fun _ _ => key_eq, List.map_eq_nil_iff]

theorem selects_guest_iff (m : Inventory.MadeFrom s root networks inv) {kinds : List RoleKind}
    (hkinds : q.HasKinds inv kinds) {g : Guest} (hg : g ∈ inv.guests) {n : MachineName}
    (hname : MachineName.parse? g.name = some n) :
    (q.filtersOf kinds).selects (.scenario g) = true ↔ q.SelectsGuest inv n := by
  obtain ⟨n', hn', hinstance, hbase, hcopy⟩ := m.parse?_guest hg
  obtain rfl := Option.some.inj (hname.symm.trans hn')
  have hsingle : (if g.role.isSingleton then 1 else g.copy) = g.copy := by
    split
    · rename_i h
      exact (m.copy_of_isSingleton hg (of_decide_eq_true h)).symm
    · rfl
  have hinst : (q.filtersOf kinds).matchesInstance (.scenario g) = true ↔
      q.instances = [] ∨ n.instanceNumber ∈ q.instances := by
    rw [Filters.matchesInstance, Bool.or_eq_true, List.isEmpty_iff, hinstance]
    exact or_congr_right List.contains_iff_mem
  have hrole : (q.filtersOf kinds).matchesRole (.scenario g) = true ↔
      q.guests = [] ∨ ∃ entry ∈ q.guests, inv.takesAsService q.onlyInstances entry = false
        ∧ Slug.ofText? entry = some n.base := by
    rw [Filters.matchesRole, Bool.or_eq_true, List.isEmpty_iff, roles_filtersOf_eq_nil hkinds,
      List.contains_iff_mem, hbase]
    exact or_congr_right (role_mem_keys m hkinds (m.role_and_copy hg).2.1)
  have hcopies : (q.filtersOf kinds).matchesCopy (.scenario g) = true ↔
      q.copies = [] ∨ n.copyNumber ∈ q.copies := by
    rw [Filters.matchesCopy, Bool.or_eq_true, List.isEmpty_iff, hcopy, hsingle]
    exact or_congr_right List.contains_iff_mem
  have hexcluded : (!(q.filtersOf kinds).isExcluded (.scenario g)) = true ↔
      ∀ entry ∈ q.exclude, Slug.ofText? entry ≠ some n.base := by
    rw [Bool.not_eq_true', ← Bool.not_eq_true, Filters.isExcluded, List.contains_iff_mem, hbase]
    refine (not_congr slug_mem_excludeKeys).trans ?_
    simp only [not_exists, not_and, ne_eq]
  rw [Filters.selects, Bool.and_eq_true, Bool.and_eq_true, Bool.and_eq_true, hinst, hrole, hcopies,
    hexcluded]
  exact ⟨fun ⟨⟨⟨h1, h2⟩, h3⟩, h4⟩ => ⟨h1, h2, h3, h4⟩, fun ⟨h1, h2, h3, h4⟩ => ⟨⟨⟨h1, h2⟩, h3⟩, h4⟩⟩

theorem selects_service_iff (m : Inventory.MadeFrom s root networks inv) {kinds : List RoleKind}
    (hkinds : q.HasKinds inv kinds) (hscope : q.onlyInstances = false) {guest : ServiceGuest}
    (hguest : guest ∈ inv.services) :
    (q.filtersOf kinds).selects (.infrastructure guest) = true ↔
      q.SelectsService guest.service := by
  have hinst : (q.filtersOf kinds).matchesInstance (.infrastructure guest) = true ↔
      q.instances = [] := by
    rw [Filters.matchesInstance, Bool.or_eq_true, List.isEmpty_iff]
    exact or_iff_left Bool.false_ne_true
  have hrole : (q.filtersOf kinds).matchesRole (.infrastructure guest) = true ↔
      q.guests = [] ∨ guest.service.id ∈ q.guests := by
    rw [Filters.matchesRole, Bool.or_eq_true, List.isEmpty_iff, roles_filtersOf_eq_nil hkinds,
      List.contains_iff_mem]
    exact or_congr_right (service_mem_keys m hkinds hscope hguest)
  have hcopies : (q.filtersOf kinds).matchesCopy (.infrastructure guest) = true ↔
      q.copies = [] ∨ 1 ∈ q.copies := by
    rw [Filters.matchesCopy, Bool.or_eq_true, List.isEmpty_iff]
    exact or_congr_right List.contains_iff_mem
  have hexcluded : (!(q.filtersOf kinds).isExcluded (.infrastructure guest)) = true ↔
      ∀ entry ∈ q.exclude, entry ≠ guest.service.id
        ∧ ∀ slug, Slug.ofText? entry = some slug → slug.text ≠ guest.service.id := by
    rw [Bool.not_eq_true', ← Bool.not_eq_true, Filters.isExcluded, List.contains_iff_mem]
    refine (not_congr mem_excludeKeys).trans ?_
    simp only [not_exists, not_and, not_or, ne_eq]
    rfl
  rw [Filters.selects, Bool.and_eq_true, Bool.and_eq_true, Bool.and_eq_true, hinst, hrole, hcopies,
    hexcluded]
  constructor
  · rintro ⟨⟨⟨h1, h2⟩, h3⟩, h4⟩
    exact ⟨hscope, h1, h2, h3, h4⟩
  · rintro ⟨-, h1, h2, h3, h4⟩
    exact ⟨⟨⟨h1, h2⟩, h3⟩, h4⟩

/-- A machine is selected iff its name is. The name of a service is not read as that of a guest, so
only one of the two clauses for names applies to it. -/
theorem selects_iff (m : Inventory.MadeFrom s root networks inv) {kinds : List RoleKind}
    (hkinds : q.HasKinds inv kinds) {machine : Machine}
    (hmem : machine ∈ inv.machines q.onlyInstances) :
    (q.filtersOf kinds).selects machine = true ↔ q.SelectsName inv machine.name := by
  rw [Inventory.machines, List.mem_append] at hmem
  rcases hmem with hmem | hmem
  · obtain ⟨g, hg, rfl⟩ := List.mem_map.mp hmem
    obtain ⟨n, hn, -⟩ := m.parse?_guest hg
    rw [selects_guest_iff m hkinds hg hn]
    constructor
    · intro h
      exact .inl ⟨n, hn, h⟩
    · rintro (⟨n', hn', h⟩ | ⟨guest, hguest, hname, -⟩)
      · obtain rfl := Option.some.inj (hn.symm.trans hn')
        exact h
      · have hnone := m.parse?_service hguest
        rw [hname] at hnone
        cases hn.symm.trans hnone
  · cases hscope : q.onlyInstances with
    | true =>
        rw [hscope] at hmem
        cases hmem
    | false =>
        rw [hscope] at hmem
        obtain ⟨guest, hguest, rfl⟩ := List.mem_map.mp hmem
        rw [selects_service_iff m hkinds hscope hguest]
        constructor
        · intro h
          exact .inr ⟨guest, hguest, rfl, h⟩
        · rintro (⟨n, hn, -⟩ | ⟨guest', hguest', hname, h⟩)
          · cases (m.parse?_service hguest).symm.trans hn
          · obtain rfl := m.service_eq_of_name_eq hguest' hguest hname
            exact h

/-- Copies 1 and 3 in the second instance, less those of a role. -/
def small : Query where
  instances := [2]
  copies := [1, 3]
  exclude := ["DataBase"]

end Query

/-! ## Resolving -/

namespace Inventory

/-- A query is refused iff it names something that the lab does not have; otherwise it selects, in
the order of the inventory, the names that it would select when they are read. -/
theorem resolve_selects_names {s : Scenario} {inv : Inventory} (h : compile s = .ok inv)
    (hi : 1 ≤ inv.instances) (q : Query) :
    ((∃ cause, inv.resolve q = .error (.badFilter cause)) ↔ q.Invalid inv)
    ∧ (¬q.Invalid inv → ∃ names : List String,
        names.Sublist (inv.machineNames q.onlyInstances) ∧ names.Nodup
        ∧ (∀ name, name ∈ names ↔
            name ∈ inv.machineNames q.onlyInstances ∧ q.SelectsName inv name)
        ∧ inv.resolve q = if names = [] then .error .noMatch else .ok names) := by
  obtain ⟨root, networks, m⟩ := compile_eq_ok.mp h
  have hresolve : ∀ {f : Filters}, q.filters inv = .ok f →
      inv.resolve q = if ((inv.machines q.onlyInstances).filter f.selects).map Machine.name = []
        then .error .noMatch
        else .ok (((inv.machines q.onlyInstances).filter f.selects).map Machine.name) := by
    intro f hf
    rw [resolve, hf]
    show (if List.isEmpty _ then _ else _) = _
    cases ((inv.machines q.onlyInstances).filter f.selects).map Machine.name <;> rfl
  constructor
  · rw [← Query.filters_eq_badFilter m hi]
    cases hf : q.filters inv with
    | error e =>
        have herror : inv.resolve q = .error e := by
          rw [resolve, hf]
          rfl
        rw [herror]
        simp only [Except.error.injEq]
    | ok f =>
        rw [hresolve hf]
        refine iff_of_false (fun ⟨cause, hcause⟩ => ?_) (fun ⟨cause, hcause⟩ => nomatch hcause)
        split at hcause <;> cases hcause
  · intro hvalid
    obtain ⟨kinds, hkinds⟩ := Query.exists_kinds_iff.mpr fun hname => hvalid (.inr (.inl hname))
    have hf := (Query.filters_eq_ok m hi).mpr ⟨hvalid, kinds, hkinds, rfl⟩
    have hsub : (((inv.machines q.onlyInstances).filter (q.filtersOf kinds).selects).map
        Machine.name).Sublist (inv.machineNames q.onlyInstances) :=
      List.Sublist.map _ List.filter_sublist
    refine ⟨_, hsub, hsub.nodup (m.nodup_machineNames _), fun name => ?_, hresolve hf⟩
    simp only [machineNames, List.mem_map, List.mem_filter]
    constructor
    · rintro ⟨machine, ⟨hmem, hselects⟩, rfl⟩
      exact ⟨⟨machine, hmem, rfl⟩, (Query.selects_iff m hkinds hmem).mp hselects⟩
    · rintro ⟨⟨machine, hmem, rfl⟩, hselects⟩
      exact ⟨machine, ⟨hmem, (Query.selects_iff m hkinds hmem).mpr hselects⟩, rfl⟩

theorem resolve_selects_names_small : ∃ inv, compile .small = .ok inv ∧ 1 ≤ inv.instances
    ∧ inv.resolve .small = .ok ["uni1-lab-2-web-1", "uni1-lab-2-web-3"]
    ∧ ∀ name, name ∈ ["uni1-lab-2-web-1", "uni1-lab-2-web-3"] ↔
      name ∈ inv.machineNames true ∧ Query.small.SelectsName inv name := by
  have hrun : (compile .small).map (fun inv => (inv.instances, inv.resolve .small))
      = .ok (2, .ok ["uni1-lab-2-web-1", "uni1-lab-2-web-3"]) := by decide +kernel
  obtain ⟨inv, h, heq⟩ := Attempt.map_eq_ok.mp hrun
  obtain ⟨hinstances, hok⟩ := Prod.mk.inj heq
  have hi : 1 ≤ inv.instances := by
    rw [hinstances]
    decide
  obtain ⟨hrefused, hselects⟩ := resolve_selects_names h hi .small
  obtain ⟨names, -, -, hmem, hnames⟩ := hselects fun hinvalid => by
    obtain ⟨cause, hcause⟩ := hrefused.mpr hinvalid
    cases hok.symm.trans hcause
  rw [hok] at hnames
  split at hnames
  · cases hnames
  · obtain rfl := Except.ok.inj hnames
    exact ⟨inv, h, hi, hok, hmem⟩

end Inventory

end RangeLab
