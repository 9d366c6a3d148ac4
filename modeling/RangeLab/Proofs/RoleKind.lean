import RangeLab.Proofs.Inventory

/-!
# What the name of a role refers to

A name refers to a service if it is exactly the identifier of an enabled one, and otherwise to the
role that has its slug. Roles are checked against the identifiers of services by their slugs, so a
role keeps every spelling of its name, whichever services are enabled, but for one
(`roleKind?_scenario_iff`): no slug is the identifier of an access host, so a role whose letters are
those of such an identifier is accepted, and enabling the host takes the identifier away from it.
-/

namespace RangeLab

/-- The rule that no role is named like a service does not reach the access hosts: their identifiers
have an underscore, which no slug has. -/
theorem checkNotService_eq_ok_iff_not_access {role : Slug} :
    checkNotService role = .ok () ↔ ∀ v : Service, v.isAccess = false → v.id ≠ role.text := by
  rw [checkNotService_eq_ok]
  constructor
  · intro h v _
    exact h v
  · intro h v hid
    cases haccess : v.isAccess with
    | false => exact h v haccess hid
    | true =>
        have hmem := v.underscore_mem_id_iff.mpr haccess
        rw [hid] at hmem
        exact role.underscore_not_mem hmem

namespace Inventory

variable {inv : Inventory} {name : String} {onlyInstances : Bool}

/-- The name is the identifier of an enabled service, and services are not left out. -/
def takesAsService (inv : Inventory) (onlyInstances : Bool) (name : String) : Bool :=
  !onlyInstances && inv.services.any fun guest => guest.service.id == name

/-- The role that a name in any spelling is the name of. -/
def roleNamed? (inv : Inventory) (name : String) : Option Role :=
  (Slug.ofText? name).bind inv.topology.role?

theorem takesAsService_eq_true :
    inv.takesAsService onlyInstances name = true ↔
      onlyInstances = false ∧ ∃ guest ∈ inv.services, guest.service.id = name := by
  simp only [takesAsService, Bool.and_eq_true, Bool.not_eq_true', List.any_eq_true, beq_iff_eq]

theorem roleKind?_of_takesAsService (h : inv.takesAsService onlyInstances name = true) :
    ∃ guest ∈ inv.services, guest.service.id = name
      ∧ inv.roleKind? name onlyInstances = some (.infrastructure guest.service) := by
  obtain ⟨rfl, guest, hguest, rfl⟩ := takesAsService_eq_true.mp h
  refine ⟨guest, hguest, rfl, ?_⟩
  have hany : (inv.services.any fun g => g.service == guest.service) = true :=
    List.any_eq_true.mpr ⟨guest, hguest, beq_self_eq_true _⟩
  unfold roleKind?
  dsimp only
  rw [if_neg Bool.false_ne_true, Service.ofId?_eq_some.mpr rfl, Option.filter_some, if_pos hany]

theorem roleKind?_of_not_takesAsService (h : inv.takesAsService onlyInstances name = false) :
    inv.roleKind? name onlyInstances
      = (inv.roleNamed? name).map fun role => .scenario role.copies := by
  have hnone : ((if onlyInstances then none else Service.ofId? name).filter fun service =>
      inv.services.any fun guest => guest.service == service) = none := by
    rw [Option.filter_eq_none_iff]
    intro v hv hany
    cases onlyInstances with
    | true => cases hv
    | false =>
        obtain ⟨guest, hguest, heq⟩ := List.any_eq_true.mp hany
        obtain rfl := beq_iff_eq.mp heq
        have hid := Service.ofId?_eq_some.mp hv
        exact absurd (takesAsService_eq_true.mpr ⟨rfl, guest, hguest, hid⟩) (by simp [h])
  unfold roleKind? roleNamed?
  dsimp only
  rw [hnone]
  cases Slug.ofText? name with
  | none => rfl
  | some slug =>
      show (inv.topology.role? slug).bind (fun role => some (RoleKind.scenario role.copies))
        = (inv.topology.role? slug).map fun role => .scenario role.copies
      cases inv.topology.role? slug <;> rfl

theorem roleKind?_eq_scenario {copies : UInt32} :
    inv.roleKind? name onlyInstances = some (.scenario copies) ↔
      inv.takesAsService onlyInstances name = false
        ∧ ∃ role, inv.roleNamed? name = some role ∧ role.copies = copies := by
  cases h : inv.takesAsService onlyInstances name with
  | true =>
      obtain ⟨guest, -, -, hkind⟩ := roleKind?_of_takesAsService h
      rw [hkind]
      exact ⟨nofun, nofun⟩
  | false =>
      rw [roleKind?_of_not_takesAsService h, Option.map_eq_some_iff]
      simp only [RoleKind.scenario.injEq, true_and]

theorem roleNamed?_eq_some {role : Role} (h : inv.roleNamed? name = some role) :
    role ∈ inv.topology.roles ∧ Slug.ofText? name = some role.name := by
  obtain ⟨slug, hslug, hrole⟩ := Option.bind_eq_some_iff.mp h
  have hname : role.name = slug := by simpa using List.find?_some hrole
  exact ⟨List.mem_of_find?_eq_some hrole, hname ▸ hslug⟩

/-- A name that refers to a role in an inventory does so in another one with the same topology iff
no access host takes it. -/
theorem roleKind?_iff_of_topology {inv' : Inventory} (htopology : inv'.topology = inv.topology)
    {role : Role} (hrole : inv.roleNamed? name = some role) :
    inv'.roleKind? name onlyInstances = some (.scenario role.copies) ↔
      inv'.takesAsService onlyInstances name = false := by
  have hrole' : inv'.roleNamed? name = some role := by
    rw [← hrole, roleNamed?, roleNamed?, htopology]
  rw [roleKind?_eq_scenario, hrole']
  exact and_iff_left ⟨role, rfl, rfl⟩

namespace MadeFrom

open Ipv4 (Block)

variable {s : Scenario} {root root' : Block} {networks networks' : List (Slug × List Slug)}

theorem takesAsService_iff (m : MadeFrom s root networks inv) :
    inv.takesAsService onlyInstances name = true ↔
      onlyInstances = false ∧ ∃ v ∈ s.services.enabled, v.id = name := by
  rw [takesAsService_eq_true]
  refine and_congr_right fun _ => ⟨?_, ?_⟩
  · rintro ⟨guest, hguest, hid⟩
    exact ⟨guest.service, (m.mem_services.mp hguest).1, hid⟩
  · rintro ⟨v, hv, hid⟩
    exact ⟨{ name := inv.id.serviceName v, service := v }, m.mem_services.mpr ⟨hv, rfl⟩, hid⟩

/-- A name that refers to a role is the identifier of no other services than the access hosts: the
identifiers of the others are slugs, which roles may not have. -/
theorem isAccess_of_roleNamed? (m : MadeFrom s root networks inv) {role : Role}
    (h : inv.roleNamed? name = some role) {v : Service} (hv : v.id = name) : v.isAccess = true := by
  obtain ⟨hrole, hslug⟩ := roleNamed?_eq_some h
  cases haccess : v.isAccess with
  | true => rfl
  | false =>
      have hletters := Slug.ofText?_eq_some.mp hslug
      rw [← hv, v.letters_id haccess, String.toList_inj] at hletters
      exact absurd hletters (m.admissible.not_service role hrole v)

/-- The services have no part in the topology. -/
theorem topology_of_services {services : ServiceSwitches} {inv' : Inventory}
    (m : MadeFrom s root networks inv) (m' : MadeFrom { s with services } root' networks' inv') :
    inv'.topology = inv.topology := by
  have hroles := Except.ok.inj (m'.roles_read.symm.trans m.roles_read)
  obtain rfl := Except.ok.inj (m'.networks_read.symm.trans m.networks_read)
  rw [m'.topology_eq, m.topology_eq, hroles]

end MadeFrom

/-! ## Enabling services -/

/-- Services switched on or off leave the topology as it is and every name of a role what it is, but
for the identifiers of access hosts that are switched on. Leaving services out or not makes a
difference for no other names of roles. -/
theorem roleKind?_scenario_iff {s : Scenario} (h : compile s = .ok inv) :
    (∀ services inv', compile { s with services } = .ok inv' →
      inv'.topology = inv.topology ∧ ∀ name onlyInstances copies,
        inv.roleKind? name onlyInstances = some (.scenario copies) →
        (inv'.roleKind? name onlyInstances = some (.scenario copies) ↔
          ¬(onlyInstances = false ∧ ∃ v ∈ services.enabled, v.isAccess = true ∧ v.id = name)))
    ∧ ∀ name copies, inv.roleKind? name true = some (.scenario copies) →
      (inv.roleKind? name false = some (.scenario copies) ↔
        ¬∃ v ∈ s.services.enabled, v.isAccess = true ∧ v.id = name) := by
  obtain ⟨root, networks, m⟩ := compile_eq_ok.mp h
  have haccess : ∀ {name role} {services : ServiceSwitches}, inv.roleNamed? name = some role →
      ((∃ v ∈ services.enabled, v.id = name) ↔
        ∃ v ∈ services.enabled, v.isAccess = true ∧ v.id = name) := by
    intro name role services hrole
    refine exists_congr fun v => and_congr_right fun _ => ?_
    exact (and_iff_right_of_imp (m.isAccess_of_roleNamed? hrole)).symm
  constructor
  · intro services inv' h'
    obtain ⟨root', networks', m'⟩ := compile_eq_ok.mp h'
    have htopology := m.topology_of_services m'
    refine ⟨htopology, fun name onlyInstances copies hkind => ?_⟩
    obtain ⟨-, role, hrole, rfl⟩ := roleKind?_eq_scenario.mp hkind
    rw [roleKind?_iff_of_topology htopology hrole, ← haccess hrole, ← m'.takesAsService_iff,
      Bool.not_eq_true]
  · intro name copies hkind
    obtain ⟨-, role, hrole, rfl⟩ := roleKind?_eq_scenario.mp hkind
    rw [roleKind?_iff_of_topology rfl hrole, ← haccess hrole, ← Bool.not_eq_true,
      m.takesAsService_iff, eq_self, true_and]

/-- Switching on all services leaves a role of the small lab what it is. -/
theorem roleKind?_scenario_small : ∃ inv inv', compile .small = .ok inv
    ∧ compile { Scenario.small with services := ⟨true, true, true, true⟩ } = .ok inv'
    ∧ inv.roleKind? "WEB" true = some (.scenario 3) ∧ inv.roleKind? "WEB" false = some (.scenario 3)
    ∧ inv'.roleKind? "WEB" true = some (.scenario 3) := by
  have hkind : (compile .small).map (fun inv => inv.roleKind? "WEB" true)
      = .ok (some (.scenario 3)) := by decide +kernel
  have hcompiled : ((compile { Scenario.small with services := ⟨true, true, true, true⟩ }).map
      fun _ => ()) = .ok () := by decide +kernel
  obtain ⟨inv, h, hrole⟩ := Attempt.map_eq_ok.mp hkind
  obtain ⟨inv', h', -⟩ := Attempt.map_eq_ok.mp hcompiled
  obtain ⟨hservices, hleft⟩ := roleKind?_scenario_iff h
  exact ⟨inv, inv', h, h', hrole, (hleft _ _ hrole).mpr (by decide),
    ((hservices _ _ h').2 _ _ _ hrole).mpr (by decide)⟩

/-- A lab with a role that has the letters of an access host's identifier. -/
def shadowed (services : ServiceSwitches) : Scenario where
  institution := "udelar"
  lab := "lab01"
  instances := 1
  roles := [{ name := "student_access" }]
  services

/-- Enabling the access host takes the name of the role away, when services are not left out. -/
theorem roleKind?_shadowed : ∃ inv inv', compile (shadowed { studentAccess := false }) = .ok inv
    ∧ compile (shadowed { studentAccess := true }) = .ok inv'
    ∧ inv.roleKind? "student_access" false = some (.scenario 1)
    ∧ inv'.roleKind? "student_access" true = some (.scenario 1)
    ∧ inv'.roleKind? "student_access" false = some (.infrastructure .studentAccess) := by
  have hoff : (compile (shadowed { studentAccess := false })).map
      (fun inv => inv.roleKind? "student_access" false) = .ok (some (.scenario 1)) := by
    decide +kernel
  have hon : (compile (shadowed { studentAccess := true })).map
      (fun inv => (inv.roleKind? "student_access" true, inv.roleKind? "student_access" false))
      = .ok (some (.scenario 1), some (.infrastructure .studentAccess)) := by decide +kernel
  obtain ⟨inv, h, hkind⟩ := Attempt.map_eq_ok.mp hoff
  obtain ⟨inv', h', hkinds⟩ := Attempt.map_eq_ok.mp hon
  obtain ⟨htrue, hfalse⟩ := Prod.mk.inj hkinds
  exact ⟨inv, inv', h, h', hkind, htrue, hfalse⟩

end Inventory

end RangeLab
