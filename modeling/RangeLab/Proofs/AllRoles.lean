import RangeLab.Proofs.Narrowing

/-!
# Queries that name no role

A query that names nothing is about all roles and services. It may as well name them all
(`Query.spelledOut`): the machines that it selects are the same, since each of them is of one of
these. But the copies that it asks for are checked against machines if it names nothing, and against
roles if it names them. The two bounds are the same in a lab with an instance. A lab without
instances has no guests, so it refuses a query for copies which it accepts where the roles are named
(`Query.overlooked_iff`); that is the only case in which the answers are not the same
(`Inventory.resolve_spelled_out`).
-/

namespace RangeLab

open Ipv4 (Block)

namespace Inventory

/-- The names of all roles and, unless they are left out, of all services of a lab. -/
def roleNames (inv : Inventory) (onlyInstances : Bool) : List String :=
  (inv.topology.roles.map fun role => role.name.text)
    ++ if onlyInstances then [] else inv.services.map fun guest => guest.service.id

/-- What these names refer to. -/
def roleKinds (inv : Inventory) (onlyInstances : Bool) : List RoleKind :=
  (inv.topology.roles.map fun role => .scenario role.copies)
    ++ if onlyInstances then [] else inv.services.map fun guest => .infrastructure guest.service

variable {s : Scenario} {root : Block} {networks : List (Slug × List Slug)} {inv : Inventory}
variable {onlyInstances : Bool}

/-- The slug of a role is not taken for the identifier of a service. -/
theorem MadeFrom.takesAsService_slug (m : MadeFrom s root networks inv) {role : Role}
    (hrole : role ∈ inv.topology.roles) :
    inv.takesAsService onlyInstances role.name.text = false := by
  cases htakes : inv.takesAsService onlyInstances role.name.text with
  | false => rfl
  | true =>
      obtain ⟨-, guest, -, hid⟩ := takesAsService_eq_true.mp htakes
      exact absurd hid (m.admissible.not_service role hrole guest.service)

theorem MadeFrom.roleKind?_slug (m : MadeFrom s root networks inv) {role : Role}
    (hrole : role ∈ inv.topology.roles) :
    inv.roleKind? role.name.text onlyInstances = some (.scenario role.copies) := by
  refine roleKind?_eq_scenario.mpr ⟨m.takesAsService_slug hrole, role, ?_, rfl⟩
  rw [roleNamed?, role.name.ofText?_text]
  exact Topology.find?_name m.admissible.roles_nodup hrole

theorem roleKind?_id {guest : ServiceGuest} (hguest : guest ∈ inv.services) :
    inv.roleKind? guest.service.id false = some (.infrastructure guest.service) := by
  obtain ⟨guest', -, hid, hkind⟩ :=
    roleKind?_of_takesAsService (takesAsService_eq_true.mpr ⟨rfl, guest, hguest, rfl⟩)
  rw [hkind, Service.id_inj.mp hid]

/-- Every machine is of a role or service that is named. -/
theorem MadeFrom.base_mem_roleNames (m : MadeFrom s root networks inv) {machine : Machine}
    (h : machine ∈ inv.machines onlyInstances) : machine.base ∈ inv.roleNames onlyInstances := by
  rw [roleNames, List.mem_append]
  rcases mem_machines.mp h with ⟨g, hg, rfl⟩ | ⟨rfl, guest, hguest, rfl⟩
  · exact .inl (List.mem_map_of_mem (f := fun role : Role => role.name.text)
      (m.role_and_copy hg).2.1)
  · exact .inr (List.mem_map_of_mem (f := fun guest : ServiceGuest => guest.service.id) hguest)

end Inventory

namespace Query

variable {q : Query} {inv : Inventory} {s : Scenario} {root : Block}
variable {networks : List (Slug × List Slug)} {kinds : List RoleKind}

/-- The query with all roles named and, unless they are left out, all services. -/
def spelledOut (q : Query) (inv : Inventory) : Query :=
  { q with guests := inv.roleNames q.onlyInstances }

theorem hasKinds_spelledOut (m : Inventory.MadeFrom s root networks inv) :
    (q.spelledOut inv).HasKinds inv (inv.roleKinds q.onlyInstances) := by
  have hroles : List.Forall₂
      (fun name kind => inv.roleKind? name q.onlyInstances = some kind)
      (inv.topology.roles.map fun role => role.name.text)
      (inv.topology.roles.map fun role => .scenario role.copies) := by
    simp only [List.forall₂_map_left_iff, List.forall₂_map_right_iff, List.forall₂_same]
    intro role hrole
    exact m.roleKind?_slug hrole
  refine List.rel_append hroles ?_
  cases q.onlyInstances with
  | true => exact .nil
  | false =>
      simp only [Bool.false_eq_true, if_false, List.forall₂_map_left_iff,
        List.forall₂_map_right_iff, List.forall₂_same]
      intro guest hguest
      exact Inventory.roleKind?_id hguest

/-! ## The same machines -/

theorem matchesRole_spelledOut (m : Inventory.MadeFrom s root networks inv) {machine : Machine}
    (h : machine ∈ inv.machines q.onlyInstances) :
    ((q.spelledOut inv).filtersOf (inv.roleKinds q.onlyInstances)).matchesRole machine = true := by
  have hnamed := m.base_mem_roleNames h
  refine Filters.matchesRole_iff.mpr (.inr ⟨machine.base, ?_, rfl⟩)
  rcases Inventory.mem_machines.mp h with ⟨g, hg, rfl⟩ | ⟨hscope, guest, hguest, rfl⟩
  · have hrole := (m.role_and_copy hg).2.1
    exact (role_mem_keys m (hasKinds_spelledOut m) hrole).mpr
      ⟨g.role.name.text, hnamed, m.takesAsService_slug hrole, g.role.name.ofText?_text⟩
  · exact (service_mem_keys m (hasKinds_spelledOut m) hscope hguest).mpr hnamed

theorem selectedNames_spelledOut (m : Inventory.MadeFrom s root networks inv) :
    inv.selectedNames q.onlyInstances (q.filtersOf [])
      = inv.selectedNames q.onlyInstances
        ((q.spelledOut inv).filtersOf (inv.roleKinds q.onlyInstances)) := by
  rw [Inventory.selectedNames, Inventory.selectedNames]
  congr 1
  refine List.filter_congr ?_
  intro machine hmem
  rw [Bool.eq_iff_iff, Filters.selects_iff, Filters.selects_iff]
  exact and_congr_right fun _ => and_congr_left fun _ =>
    iff_of_true (Filters.matchesRole_iff.mpr (.inl rfl)) (matchesRole_spelledOut m hmem)

/-! ## The bounds on copies -/

/-- A query that names nothing counts what all roles and services count. -/
theorem map_guestCountNamed_roleNames (m : Inventory.MadeFrom s root networks inv)
    (hq : q.guests = []) :
    (inv.roleNames q.onlyInstances).map (inv.guestCountNamed q.onlyInstances)
      = q.guestCounts inv := by
  have hkinds := map_eq_of_forall₂ (hasKinds_spelledOut (q := q) m)
    fun _ _ h => (toNat_maxCopy h).symm
  refine hkinds.trans ?_
  rw [guestCounts, if_pos hq, Inventory.roleKinds, List.map_append, List.map_map]
  refine congr_arg₂ _ (List.map_congr_left fun role _ => role.toNat_guestCount) ?_
  cases q.onlyInstances with
  | true => rfl
  | false => exact List.map_map

/-- Roles that are named count for themselves, in a lab without instances as well. Where there is
nothing to name there is no machine either. -/
theorem maxCopy_spelledOut (m : Inventory.MadeFrom s root networks inv) (hq : q.guests = []) :
    (q.spelledOut inv).maxCopy inv (inv.roleKinds q.onlyInstances) = q.largestCopy inv := by
  have hcounts := map_guestCountNamed_roleNames m hq
  by_cases hnil : inv.roleNames q.onlyInstances = []
  · have hkinds := (hasKinds_iff_of_nil hnil).mp (hasKinds_spelledOut (q := q) m)
    have hmachines : inv.machines q.onlyInstances = [] := by
      refine List.eq_nil_iff_forall_not_mem.mpr ?_
      intro machine hmem
      exact List.not_mem_nil (hnil ▸ m.base_mem_roleNames hmem)
    rw [hnil, List.map_nil] at hcounts
    simp [maxCopy, largestCopy, hkinds, spelledOut, hmachines, ← hcounts]
  · rw [maxCopy_eq_of_named (hasKinds_spelledOut m) hnil, largestCopy, largestCopy, ← hcounts,
      guestCounts, if_neg (show (q.spelledOut inv).guests ≠ [] from hnil)]
    rfl

/-- A query that names nothing is checked against machines, and these have no other copies than the
roles and services. -/
theorem maxCopy_le_largestCopy (m : Inventory.MadeFrom s root networks inv) (hq : q.guests = []) :
    q.maxCopy inv [] ≤ q.largestCopy inv := by
  refine max?_getD_le_iff.mpr ?_
  intro n hn
  refine List.le_max?_getD_of_mem ?_
  obtain ⟨bound, hbound, rfl⟩ := List.mem_map.mp hn
  obtain ⟨machine, hmem, rfl⟩ := List.mem_map.mp hbound
  rw [guestCounts, if_pos hq, List.mem_append]
  rcases Inventory.mem_machines.mp hmem with ⟨g, hg, rfl⟩ | ⟨hscope, guest, hguest, rfl⟩
  · exact .inl (List.mem_map.mpr ⟨g.role, (m.role_and_copy hg).2.1, g.role.toNat_guestCount.symm⟩)
  · rw [hscope]
    exact .inr (List.mem_map.mpr ⟨guest, hguest, rfl⟩)

/-! ## The checks -/

theorem accepts_iff_of_nil (hq : q.guests = []) :
    inv.Accepts q ↔ q.checkInstances inv = .ok () ∧ q.checkCopies (q.maxCopy inv []) = .ok () :=
  accepts_iff_of_hasKinds ((hasKinds_iff_of_nil hq).mpr rfl)

theorem accepts_spelledOut_iff (m : Inventory.MadeFrom s root networks inv) (hq : q.guests = []) :
    inv.Accepts (q.spelledOut inv) ↔
      q.checkInstances inv = .ok () ∧ q.checkCopies (q.largestCopy inv) = .ok () := by
  rw [accepts_iff_of_hasKinds (hasKinds_spelledOut m), maxCopy_spelledOut m hq]
  rfl

theorem accepts_spelledOut (m : Inventory.MadeFrom s root networks inv) (hq : q.guests = [])
    (h : inv.Accepts q) : inv.Accepts (q.spelledOut inv) := by
  obtain ⟨hinstances, hcopies⟩ := (accepts_iff_of_nil hq).mp h
  exact (accepts_spelledOut_iff m hq).mpr
    ⟨hinstances, checkCopies_mono (maxCopy_le_largestCopy m hq) hcopies⟩

/-- A query that names nothing exceeds its bound with copies that no machine has. -/
theorem maxCopy_lt_iff {n : UInt32} (hn : 1 ≤ n) :
    q.maxCopy inv [] < n.toNat ↔
      ∀ machine ∈ inv.machines q.onlyInstances, machine.maxCopy < n := by
  have hpos : 0 < n.toNat := UInt32.le_iff_toNat_le.mp hn
  have hpred : q.maxCopy inv [] < n.toNat ↔ q.maxCopy inv [] ≤ n.toNat - 1 := by omega
  rw [hpred, maxCopy, max?_getD_le_iff]
  simp only [List.isEmpty_nil, if_true, List.forall_mem_map, UInt32.lt_iff_toNat_lt,
    Nat.le_sub_one_iff_lt hpos]

/-- The query is for copies that roles or services have and no machine has, as the lab has no
instance. -/
structure Overlooked (q : Query) (inv : Inventory) : Prop where
  no_instance : inv.instances = 0
  instances_nil : q.instances = []
  declared : ∀ n ∈ q.copies, 1 ≤ n ∧ n.toNat ≤ q.largestCopy inv
  missing : ∃ n ∈ q.copies, ∀ machine ∈ inv.machines q.onlyInstances, machine.maxCopy < n

/-- These are the queries that pass the checks only if the roles are named. They are for no
instances, as there is none that could be asked for. -/
theorem overlooked_iff (m : Inventory.MadeFrom s root networks inv) (hq : q.guests = []) :
    q.Overlooked inv ↔ inv.Accepts (q.spelledOut inv) ∧ ¬inv.Accepts q := by
  rw [accepts_iff_of_nil hq, accepts_spelledOut_iff m hq, checkInstances_eq_ok, checkCopies_eq_ok,
    checkCopies_eq_ok]
  constructor
  · intro h
    obtain ⟨n, hn, hmissing⟩ := h.missing
    have hlarge := (maxCopy_lt_iff (h.declared n hn).1).mpr hmissing
    refine ⟨⟨by simp [h.instances_nil], h.declared⟩, fun hpasses => ?_⟩
    exact Nat.not_lt.mpr (hpasses.2 n hn).2 hlarge
  · rintro ⟨⟨hinstances, hdeclared⟩, hrefused⟩
    have hmissing : ∃ n ∈ q.copies, q.maxCopy inv [] < n.toNat := by
      by_contra hnone
      refine hrefused ⟨hinstances, fun n hn => ⟨(hdeclared n hn).1, Nat.not_lt.mp fun hlarge => ?_⟩⟩
      exact hnone ⟨n, hn, hlarge⟩
    obtain ⟨n, hn, hlarge⟩ := hmissing
    have hzero : inv.instances = 0 := by
      by_contra hne
      have hnil : q.HasKinds inv [] := (hasKinds_iff_of_nil hq).mpr rfl
      rw [maxCopy_eq m (one_le_iff_ne_zero.mpr hne) hnil] at hlarge
      exact Nat.not_lt.mpr (hdeclared n hn).2 hlarge
    refine ⟨hzero, List.eq_nil_iff_forall_not_mem.mpr fun i hi => ?_, hdeclared, n, hn,
      (maxCopy_lt_iff (hdeclared n hn).1).mp hlarge⟩
    obtain ⟨hone, hle⟩ := hinstances i hi
    rw [hzero] at hle
    exact one_le_iff_ne_zero.mp hone (UInt32.le_zero_iff.mp hle)

end Query

/-! ## Resolving -/

/-- The same names, or refusals of the same kind. -/
def SameAnswer (answer answer' : Except Fault (List String)) : Prop :=
  answer = answer'
    ∨ (∃ cause, answer = .error (.badFilter cause)) ∧ ∃ cause, answer' = .error (.badFilter cause)

namespace Inventory

theorem not_accepts_iff {inv : Inventory} {q : Query} :
    ¬inv.Accepts q ↔ ∃ cause, inv.resolve q = .error (.badFilter cause) := by
  simp [Accepts]

/-- A query that passes the checks gets the same answer with names for the roles as without. -/
theorem MadeFrom.resolve_spelledOut {s : Scenario} {root : Block}
    {networks : List (Slug × List Slug)} {inv : Inventory} (m : MadeFrom s root networks inv)
    {q : Query} (hq : q.guests = []) (h : inv.Accepts q) :
    inv.resolve q = inv.resolve (q.spelledOut inv) := by
  have hnil : q.HasKinds inv [] := (Query.hasKinds_iff_of_nil hq).mpr rfl
  have hanswer := Query.selects_of_accepts hnil h
  have hanswer' := Query.selects_of_accepts (Query.hasKinds_spelledOut m)
    (Query.accepts_spelledOut m hq h)
  rw [Selects, Query.selectedNames_spelledOut m] at hanswer
  exact hanswer.trans hanswer'.symm

/-- Naming all roles and services where a query names none does not change its answer, but for one
case: a lab without instances refuses a query for copies which it accepts if the roles that have
them are named. -/
theorem resolve_spelled_out {s : Scenario} {inv : Inventory} (h : compile s = .ok inv) {q : Query}
    (hq : q.guests = []) :
    (¬q.Overlooked inv → SameAnswer (inv.resolve q) (inv.resolve (q.spelledOut inv)))
    ∧ (q.Overlooked inv → (∃ cause, inv.resolve q = .error (.badFilter cause))
      ∧ inv.Accepts (q.spelledOut inv)) := by
  obtain ⟨root, networks, m⟩ := compile_eq_ok.mp h
  have hoverlooked := Query.overlooked_iff m hq
  constructor
  · intro hnot
    by_cases haccepts : inv.Accepts q
    · exact .inl (m.resolve_spelledOut hq haccepts)
    · refine .inr ⟨not_accepts_iff.mp haccepts, not_accepts_iff.mp fun haccepts' => ?_⟩
      exact hnot (hoverlooked.mpr ⟨haccepts', haccepts⟩)
  · intro hover
    obtain ⟨haccepts', hrefused⟩ := hoverlooked.mp hover
    exact ⟨not_accepts_iff.mp hrefused, haccepts'⟩

theorem resolve_spelled_out_third : ∃ inv, compile .small = .ok inv ∧ Query.third.guests = []
    ∧ (Query.third.spelledOut inv).guests = ["web", "database"]
    ∧ inv.resolve (Query.third.spelledOut inv) = .ok ["uni1-lab-2-web-3"] := by
  have hrun : (compile .small).map (fun inv => (inv.instances,
      (Query.third.spelledOut inv).guests, inv.resolve .third))
        = .ok (2, ["web", "database"], .ok ["uni1-lab-2-web-3"]) := by decide +kernel
  obtain ⟨inv, h, heq⟩ := Attempt.map_eq_ok.mp hrun
  simp only [Prod.mk.injEq] at heq
  obtain ⟨hinstances, hguests, hok⟩ := heq
  refine ⟨inv, h, rfl, hguests, ?_⟩
  have hnot : ¬Query.third.Overlooked inv := by
    intro hover
    exact absurd (hinstances.symm.trans hover.no_instance) (by decide)
  rcases (resolve_spelled_out h rfl).1 hnot with hsame | ⟨⟨cause, hcause⟩, -⟩
  · exact hsame.symm.trans hok
  · cases hok.symm.trans hcause

end Inventory

/-- A lab without instances, with a role of one copy. -/
def Scenario.vacant : Scenario where
  institution := "udelar"
  lab := "lab01"
  instances := 0
  roles := [{ name := "web" }]

/-- Copy 1 of all roles. -/
def Query.firstCopies : Query where
  copies := [1]

/-- The role has a copy 1, and a query for it is refused as if it had none. -/
theorem Inventory.resolve_vacant : ∃ inv, compile .vacant = .ok inv
    ∧ Query.firstCopies.guests = []
    ∧ inv.resolve .firstCopies = .error (.badFilter (.noCopy 1 0))
    ∧ (Query.firstCopies.spelledOut inv).guests = ["web"]
    ∧ inv.resolve (Query.firstCopies.spelledOut inv) = .error .noMatch
    ∧ ¬SameAnswer (inv.resolve .firstCopies)
      (inv.resolve (Query.firstCopies.spelledOut inv)) := by
  have hrun : (compile .vacant).map (fun inv => (inv.resolve .firstCopies,
      (Query.firstCopies.spelledOut inv).guests,
      inv.resolve (Query.firstCopies.spelledOut inv)))
        = .ok (.error (.badFilter (.noCopy 1 0)), ["web"], .error .noMatch) := by decide +kernel
  obtain ⟨inv, h, heq⟩ := Attempt.map_eq_ok.mp hrun
  simp only [Prod.mk.injEq] at heq
  obtain ⟨hplain, hguests, hnamed⟩ := heq
  refine ⟨inv, h, rfl, hplain, hguests, hnamed, ?_⟩
  rw [hplain, hnamed]
  rintro (hsame | ⟨-, cause, hcause⟩)
  · cases hsame
  · cases hcause

end RangeLab
