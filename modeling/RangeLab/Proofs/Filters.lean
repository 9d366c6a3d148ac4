import RangeLab.Proofs.RoleKind
import RangeLab.Query

/-!
# Which queries are refused

A query is refused iff it names an instance, a role or a copy that the lab does not have
(`Query.Invalid`). The largest copy is taken over the machines of the lab where the query names no
role; in a lab with an instance every role has a machine, so it is that of the declared roles.
-/

namespace RangeLab

/-! ## The conditions -/

/-- The number of copies of the role that a name refers to; a service counts as one. -/
def Inventory.guestCountNamed (inv : Inventory) (onlyInstances : Bool) (name : String) : Nat :=
  if inv.takesAsService onlyInstances name then 1
  else
    match inv.roleNamed? name with
    | some role => max 1 role.copies.toNat
    | none => 0

namespace Query

variable {q : Query} {inv : Inventory}

/-- The numbers of copies of the roles and services that a query is about: those that it names, or
all that are in its scope. -/
def guestCounts (q : Query) (inv : Inventory) : List Nat :=
  if q.guests = [] then
    (inv.topology.roles.map fun role => max 1 role.copies.toNat)
      ++ if q.onlyInstances then [] else inv.services.map fun _ => 1
  else q.guests.map (inv.guestCountNamed q.onlyInstances)

/-- The largest copy number that a query may name, 0 if it is about nothing. -/
def largestCopy (q : Query) (inv : Inventory) : Nat := ((q.guestCounts inv).max?).getD 0

/-- The query names an instance, a role or a copy that the lab does not have. -/
def Invalid (q : Query) (inv : Inventory) : Prop :=
  (∃ n ∈ q.instances, n = 0 ∨ inv.instances < n)
    ∨ (∃ name ∈ q.guests,
        inv.takesAsService q.onlyInstances name = false ∧ inv.roleNamed? name = none)
    ∨ ∃ n ∈ q.copies, n = 0 ∨ q.largestCopy inv < n.toNat

/-- A query that is not refused asks for instances, names and copies that the lab has. -/
theorem not_invalid_iff :
    ¬q.Invalid inv ↔ (∀ n ∈ q.instances, 1 ≤ n ∧ n ≤ inv.instances)
      ∧ (∀ name ∈ q.guests,
        inv.takesAsService q.onlyInstances name = false → inv.roleNamed? name ≠ none)
      ∧ ∀ n ∈ q.copies, 1 ≤ n ∧ n.toNat ≤ q.largestCopy inv := by
  simp only [Invalid, not_or, not_exists, not_and, UInt32.not_lt, Nat.not_lt, one_le_iff_ne_zero,
    ne_eq]

/-! ## Each check -/

theorem checkInstances_eq_ok :
    q.checkInstances inv = .ok () ↔ ∀ n ∈ q.instances, 1 ≤ n ∧ n ≤ inv.instances := by
  have hnone : (q.instances.find? fun n => n == 0 || n > inv.instances) = none ↔
      ∀ n ∈ q.instances, 1 ≤ n ∧ n ≤ inv.instances := by
    rw [List.find?_eq_none]
    simp [one_le_iff_ne_zero]
  rw [← hnone, checkInstances]
  split <;> simp_all

theorem checkInstances_of_le {n : UInt32} (hq : ∀ i ∈ q.instances, 1 ≤ i ∧ i ≤ n)
    (hle : n ≤ inv.instances) : q.checkInstances inv = .ok () :=
  checkInstances_eq_ok.mpr fun i hi => ⟨(hq i hi).1, UInt32.le_trans (hq i hi).2 hle⟩

theorem checkCopies_eq_ok {largest : Nat} :
    q.checkCopies largest = .ok () ↔ ∀ n ∈ q.copies, 1 ≤ n ∧ n.toNat ≤ largest := by
  have hnone : (q.copies.find? fun n => n == 0 || n.toNat > largest) = none ↔
      ∀ n ∈ q.copies, 1 ≤ n ∧ n.toNat ≤ largest := by
    rw [List.find?_eq_none]
    simp [one_le_iff_ne_zero]
  rw [← hnone, checkCopies]
  split <;> simp_all

/-- A larger bound refuses no more copies. -/
theorem checkCopies_mono {largest largest' : Nat} (hle : largest ≤ largest')
    (h : q.checkCopies largest = .ok ()) : q.checkCopies largest' = .ok () := by
  rw [checkCopies_eq_ok] at h ⊢
  intro n hn
  exact ⟨(h n hn).1, Nat.le_trans (h n hn).2 hle⟩

/-- The kinds of the names of a query, if all of them refer to something. -/
def HasKinds (q : Query) (inv : Inventory) (kinds : List RoleKind) : Prop :=
  List.Forall₂ (fun name kind => inv.roleKind? name q.onlyInstances = some kind) q.guests kinds

/-- A query that names nothing has no kinds. -/
theorem hasKinds_iff_of_nil (h : q.guests = []) {kinds : List RoleKind} :
    q.HasKinds inv kinds ↔ kinds = [] := by
  rw [HasKinds, h]
  exact List.forall₂_nil_left_iff

theorem kinds_eq_ok {kinds : List RoleKind} : q.kinds inv = .ok kinds ↔ q.HasKinds inv kinds := by
  rw [Query.kinds, Attempt.mapM_eq_ok, HasKinds]
  constructor
  · intro h
    refine h.imp fun name kind hk => ?_
    split at hk
    · rename_i kind' hkind
      rw [hkind, Except.ok.inj hk]
    · cases hk
  · intro h
    refine h.imp fun name kind hk => ?_
    rw [hk]

theorem HasKinds.unique {kinds kinds' : List RoleKind} (h : q.HasKinds inv kinds)
    (h' : q.HasKinds inv kinds') : kinds = kinds' :=
  Except.ok.inj ((kinds_eq_ok.mpr h).symm.trans (kinds_eq_ok.mpr h'))

theorem exists_kinds_iff :
    (∃ kinds, q.HasKinds inv kinds) ↔ ¬∃ name ∈ q.guests,
      inv.takesAsService q.onlyInstances name = false ∧ inv.roleNamed? name = none := by
  have hname : ∀ name, (∃ kind, inv.roleKind? name q.onlyInstances = some kind) ↔
      ¬(inv.takesAsService q.onlyInstances name = false ∧ inv.roleNamed? name = none) := by
    intro name
    cases h : inv.takesAsService q.onlyInstances name with
    | true =>
        obtain ⟨guest, -, -, hkind⟩ := Inventory.roleKind?_of_takesAsService h
        exact iff_of_true ⟨_, hkind⟩ (by simp)
    | false =>
        rw [Inventory.roleKind?_of_not_takesAsService h]
        cases inv.roleNamed? name <;> simp
  unfold HasKinds
  rw [exists_forall₂_iff]
  simp only [hname, not_exists, not_and]

theorem HasKinds.roleNamed?_ne_none {kinds : List RoleKind} (h : q.HasKinds inv kinds)
    {name : String} (hname : name ∈ q.guests)
    (htakes : inv.takesAsService q.onlyInstances name = false) : inv.roleNamed? name ≠ none :=
  fun hnone => exists_kinds_iff.mp ⟨kinds, h⟩ ⟨name, hname, htakes, hnone⟩

/-! ## The largest copy -/

theorem toNat_maxCopy {name : String} {kind : RoleKind}
    (h : inv.roleKind? name q.onlyInstances = some kind) :
    kind.maxCopy.toNat = inv.guestCountNamed q.onlyInstances name := by
  unfold Inventory.guestCountNamed
  cases htakes : inv.takesAsService q.onlyInstances name with
  | true =>
      obtain ⟨guest, -, -, hkind⟩ := Inventory.roleKind?_of_takesAsService htakes
      rw [hkind] at h
      obtain rfl := Option.some.inj h
      rfl
  | false =>
      rw [Inventory.roleKind?_of_not_takesAsService htakes] at h
      obtain ⟨role, hrole, rfl⟩ := Option.map_eq_some_iff.mp h
      rw [if_neg Bool.false_ne_true, hrole]
      exact role.toNat_guestCount

variable {s : Scenario} {root : Ipv4.Block} {networks : List (Slug × List Slug)}

/-- Roles and services that a query names count for themselves, with machines or without. -/
theorem maxCopy_eq_of_named {kinds : List RoleKind} (hkinds : q.HasKinds inv kinds)
    (hguests : q.guests ≠ []) : q.maxCopy inv kinds = q.largestCopy inv := by
  have hempty : kinds.isEmpty = false := by
    rw [List.isEmpty_eq_false_iff, ← List.length_pos_iff, ← hkinds.length_eq, List.length_pos_iff]
    exact hguests
  have hcounts := map_eq_of_forall₂ hkinds fun _ _ h => (toNat_maxCopy h).symm
  rw [maxCopy, largestCopy, guestCounts, if_neg hguests, hcounts]
  simp [hempty, Function.comp_def]

/-- The machines of a lab with an instance count what its roles and services do. -/
theorem maxCopy_eq (m : Inventory.MadeFrom s root networks inv) (hi : 1 ≤ inv.instances)
    {kinds : List RoleKind} (hkinds : q.HasKinds inv kinds) :
    q.maxCopy inv kinds = q.largestCopy inv := by
  by_cases hguests : q.guests = []
  · have hnil : kinds = [] := by
      rw [HasKinds, hguests] at hkinds
      exact List.forall₂_nil_left_iff.mp hkinds
    rw [maxCopy, largestCopy, guestCounts, if_pos hguests, hnil]
    dsimp only [List.isEmpty_nil]
    rw [if_pos rfl]
    refine congrArg (fun largest? : Option Nat => largest?.getD 0) (max?_eq_of_mem fun n => ?_)
    simp only [Inventory.machines, List.map_append, List.mem_append, List.map_map]
    refine or_congr ?_ ?_
    · simp only [List.mem_map]
      constructor
      · rintro ⟨g, hg, rfl⟩
        exact ⟨g.role, (m.role_and_copy hg).2.1, g.role.toNat_guestCount.symm⟩
      · rintro ⟨role, hrole, rfl⟩
        obtain ⟨g, hg, rfl⟩ := m.exists_guest_of_role hi hrole
        exact ⟨g, hg, g.role.toNat_guestCount⟩
    · cases q.onlyInstances with
      | true => exact Iff.rfl
      | false =>
          have hcounts : (inv.services.map Machine.infrastructure).map
              (UInt32.toNat ∘ Machine.maxCopy) = inv.services.map fun _ => 1 := List.map_map
          exact iff_of_eq (congrArg (n ∈ ·) hcounts)
  · exact maxCopy_eq_of_named hkinds hguests

/-! ## All checks -/

/-- A query passes the checks if it passes each of them. -/
theorem filters_eq_ok_iff_checks {f : Filters} :
    q.filters inv = .ok f ↔ q.checkInstances inv = .ok () ∧ ∃ kinds, q.HasKinds inv kinds
      ∧ q.checkCopies (q.maxCopy inv kinds) = .ok ()
      ∧ { instances := q.instances
          roles := (kinds.zip q.guests).map fun (kind, name) => kind.key name
          copies := q.copies
          exclude := q.exclude.flatMap excludeKeys } = f := by
  constructor
  · intro h
    obtain ⟨_, hinstances, h⟩ := Attempt.bind_eq_ok.mp h
    obtain ⟨kinds, hkinds, h⟩ := Attempt.bind_eq_ok.mp h
    obtain ⟨_, hcopies, h⟩ := Attempt.bind_eq_ok.mp h
    exact ⟨hinstances, kinds, kinds_eq_ok.mp hkinds, hcopies, Attempt.pure_eq_ok.mp h⟩
  · rintro ⟨hinstances, kinds, hkinds, hcopies, rfl⟩
    refine Attempt.bind_eq_ok.mpr ⟨(), hinstances, ?_⟩
    refine Attempt.bind_eq_ok.mpr ⟨kinds, kinds_eq_ok.mpr hkinds, ?_⟩
    exact Attempt.bind_eq_ok.mpr ⟨(), hcopies, rfl⟩

theorem filters_eq_ok (m : Inventory.MadeFrom s root networks inv) (hi : 1 ≤ inv.instances)
    {f : Filters} :
    q.filters inv = .ok f ↔ ¬q.Invalid inv ∧ ∃ kinds, q.HasKinds inv kinds
      ∧ { instances := q.instances
          roles := (kinds.zip q.guests).map fun (kind, name) => kind.key name
          copies := q.copies
          exclude := q.exclude.flatMap excludeKeys } = f := by
  rw [filters_eq_ok_iff_checks, not_invalid_iff, checkInstances_eq_ok]
  constructor
  · rintro ⟨hinstances, kinds, hkinds, hcopies, hf⟩
    rw [maxCopy_eq m hi hkinds, checkCopies_eq_ok] at hcopies
    exact ⟨⟨hinstances, fun _ => hkinds.roleNamed?_ne_none, hcopies⟩, kinds, hkinds, hf⟩
  · rintro ⟨⟨hinstances, -, hcopies⟩, kinds, hkinds, hf⟩
    refine ⟨hinstances, kinds, hkinds, ?_, hf⟩
    rw [maxCopy_eq m hi hkinds]
    exact checkCopies_eq_ok.mpr hcopies

/-- All checks refuse a query in the same way. -/
theorem badFilter_of_filters_eq_error {e : Fault} (h : q.filters inv = .error e) :
    ∃ cause, e = .badFilter cause := by
  rcases Attempt.bind_eq_error.mp h with h | ⟨_, -, h⟩
  · rw [checkInstances] at h
    split at h
    · exact ⟨_, (Except.error.inj h).symm⟩
    · cases h
  · rcases Attempt.bind_eq_error.mp h with h | ⟨_, -, h⟩
    · obtain ⟨name, -, h⟩ := Attempt.exists_of_mapM_eq_error h
      split at h
      · cases h
      · exact ⟨_, (Except.error.inj h).symm⟩
    · rcases Attempt.bind_eq_error.mp h with h | ⟨_, -, h⟩
      · rw [checkCopies] at h
        split at h
        · exact ⟨_, (Except.error.inj h).symm⟩
        · cases h
      · cases h

/-- The checks refuse a query iff it names something that the lab does not have. -/
theorem filters_eq_badFilter (m : Inventory.MadeFrom s root networks inv) (hi : 1 ≤ inv.instances) :
    (∃ cause, q.filters inv = .error (.badFilter cause)) ↔ q.Invalid inv := by
  constructor
  · rintro ⟨cause, h⟩
    by_contra hvalid
    obtain ⟨kinds, hkinds⟩ := exists_kinds_iff.mpr fun hname => hvalid (.inr (.inl hname))
    rw [(filters_eq_ok m hi).mpr ⟨hvalid, kinds, hkinds, rfl⟩] at h
    cases h
  · intro hinvalid
    cases h : q.filters inv with
    | ok f => exact absurd hinvalid ((filters_eq_ok m hi).mp h).1
    | error e =>
        obtain ⟨cause, rfl⟩ := badFilter_of_filters_eq_error h
        exact ⟨cause, rfl⟩

end Query

end RangeLab
