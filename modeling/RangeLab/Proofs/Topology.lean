import Mathlib.Data.List.Forall2
import Mathlib.Data.List.Nodup
import RangeLab.Proofs.Attempt
import RangeLab.Proofs.Service
import RangeLab.Topology

/-!
# The rules that a topology satisfies

A topology is made of declarations iff these satisfy all rules (`Topology.Admissible`), and then it
is their expansion (`ofDeclarations_eq_ok`): the roles as they are, and one segment for each
network, numbered in the order of declaration.
-/

namespace RangeLab

/-! ## Each rule -/

theorem firstRepeat?_eq_none {α : Type} [DecidableEq α] {seen l : List α} :
    firstRepeat? seen l = none ↔ l.Nodup ∧ ∀ a ∈ l, a ∉ seen := by
  induction l generalizing seen with
  | nil => simp [firstRepeat?]
  | cons a l ih =>
      rw [firstRepeat?, List.nodup_cons, List.forall_mem_cons]
      by_cases ha : a ∈ seen
      · simp [ha]
      · rw [if_neg ha, ih]
        constructor
        · rintro ⟨hnd, hseen⟩
          exact ⟨⟨fun hmem => hseen a hmem List.mem_cons_self, hnd⟩, ha,
            fun b hb hbs => hseen b hb (List.mem_cons_of_mem a hbs)⟩
        · rintro ⟨⟨hal, hnd⟩, -, hseen⟩
          refine ⟨hnd, fun b hb hbs => ?_⟩
          rcases List.mem_cons.mp hbs with rfl | hbs
          · exact hal hb
          · exact hseen b hb hbs

theorem firstRepeat?_nil_eq_none {α : Type} [DecidableEq α] {l : List α} :
    firstRepeat? [] l = none ↔ l.Nodup := by
  rw [firstRepeat?_eq_none]
  exact and_iff_left fun _ _ => List.not_mem_nil

theorem checkUnique_eq_ok {kind : NameKind} {names : List Slug} :
    checkUnique kind names = .ok () ↔ names.Nodup := by
  rw [← firstRepeat?_nil_eq_none, checkUnique]
  split <;> simp_all

theorem checkMembersUnique_eq_ok {network : Slug} {members : List Slug} :
    checkMembersUnique network members = .ok () ↔ members.Nodup := by
  rw [← firstRepeat?_nil_eq_none, checkMembersUnique]
  split <;> simp_all

theorem checkDeclared_eq_ok {network : Slug} {roles members : List Slug} :
    checkDeclared network roles members = .ok () ↔ ∀ member ∈ members, member ∈ roles := by
  have hnone : (members.find? fun member => !roles.contains member) = none ↔
      ∀ member ∈ members, member ∈ roles := by simp
  rw [← hnone, checkDeclared]
  split <;> simp_all

theorem checkNotService_eq_ok {role : Slug} :
    checkNotService role = .ok () ↔ ∀ service : Service, service.id ≠ role.text := by
  rw [← Service.ofId?_eq_none, checkNotService]
  split <;> simp_all

theorem checkCopies_eq_ok {role : Role} : checkCopies role = .ok () ↔ role.copies ≤ maxCopies := by
  unfold checkCopies
  by_cases h : role.copies > maxCopies
  · rw [if_pos h]
    exact ⟨nofun, fun hle => absurd h (UInt32.not_lt.mpr hle)⟩
  · rw [if_neg h]
    exact ⟨fun _ => UInt32.not_lt.mp h, fun _ => rfl⟩

namespace Topology

/-! ## All rules together -/

/-- Declarations, of roles and of networks by name and members, that satisfy all rules. -/
structure Admissible (roles : List Role) (networks : List (Slug × List Slug)) : Prop where
  roles_nodup : (roles.map Role.name).Nodup
  not_service : ∀ role ∈ roles, ∀ service : Service, service.id ≠ role.name.text
  copies_le : ∀ role ∈ roles, role.copies ≤ maxCopies
  networks_nodup : (networks.map Prod.fst).Nodup
  members_declared : ∀ network ∈ networks, ∀ member ∈ network.2, member ∈ roles.map Role.name
  members_nodup : ∀ network ∈ networks, network.2.Nodup

theorem checkRole_eq_ok {role : Role} :
    checkRole role = .ok () ↔
      (∀ service : Service, service.id ≠ role.name.text) ∧ role.copies ≤ maxCopies := by
  rw [checkRole, Attempt.bind_eq_ok, ← checkNotService_eq_ok, ← checkCopies_eq_ok]
  exact ⟨fun ⟨_, h1, h2⟩ => ⟨h1, h2⟩, fun ⟨h1, h2⟩ => ⟨(), h1, h2⟩⟩

theorem checkMembers_eq_ok {roles : List Slug} {network : Slug × List Slug} :
    checkMembers roles network = .ok () ↔
      (∀ member ∈ network.2, member ∈ roles) ∧ network.2.Nodup := by
  rw [checkMembers, Attempt.bind_eq_ok, ← @checkDeclared_eq_ok network.1,
    ← @checkMembersUnique_eq_ok network.1]
  exact ⟨fun ⟨_, h1, h2⟩ => ⟨h1, h2⟩, fun ⟨h1, h2⟩ => ⟨(), h1, h2⟩⟩

theorem check_eq_ok {roles : List Role} {networks : List (Slug × List Slug)} :
    check roles networks = .ok () ↔ Admissible roles networks := by
  constructor
  · intro h
    obtain ⟨_, hroles, h⟩ := Attempt.bind_eq_ok.mp h
    obtain ⟨_, heach, h⟩ := Attempt.bind_eq_ok.mp h
    obtain ⟨_, hnetworks, h⟩ := Attempt.bind_eq_ok.mp h
    have hr := fun role hmem => checkRole_eq_ok.mp (Attempt.forM_eq_ok.mp heach role hmem)
    have hm := fun network hmem => checkMembers_eq_ok.mp (Attempt.forM_eq_ok.mp h network hmem)
    exact {
      roles_nodup := checkUnique_eq_ok.mp hroles
      not_service := fun role hmem => (hr role hmem).1
      copies_le := fun role hmem => (hr role hmem).2
      networks_nodup := checkUnique_eq_ok.mp hnetworks
      members_declared := fun network hmem => (hm network hmem).1
      members_nodup := fun network hmem => (hm network hmem).2 }
  · intro h
    refine Attempt.bind_eq_ok.mpr ⟨(), checkUnique_eq_ok.mpr h.roles_nodup, ?_⟩
    refine Attempt.bind_eq_ok.mpr ⟨(), Attempt.forM_eq_ok.mpr fun role hmem =>
      checkRole_eq_ok.mpr ⟨h.not_service role hmem, h.copies_le role hmem⟩, ?_⟩
    refine Attempt.bind_eq_ok.mpr ⟨(), checkUnique_eq_ok.mpr h.networks_nodup, ?_⟩
    exact Attempt.forM_eq_ok.mpr fun network hmem =>
      checkMembers_eq_ok.mpr ⟨h.members_declared network hmem, h.members_nodup network hmem⟩

/-! ## The segments of a role -/

theorem mem_segments_of_mem_zipIdx {t : Topology} {role : Slug} {entry : Segment × Nat}
    (h : entry ∈ (t.segmentsOf role).zipIdx) : entry.1 ∈ t.segments :=
  List.mem_of_mem_filter (List.fst_mem_of_mem_zipIdx h)

/-! ## The expansion of declarations -/

/-- The segment of the network at a place in the order of declaration. -/
def segmentAt (roles : List Role) (index : Nat) (network : Slug × List Slug) : Segment :=
  { name := network.1, index, members := expandMembers roles network.2 }

def expand (roles : List Role) (networks : List (Slug × List Slug)) : Topology :=
  { roles, segments := networks.mapIdx (segmentAt roles) }

theorem ofDeclarations_eq_ok {roles : List Role} {networks : List (Slug × List Slug)}
    {t : Topology} :
    ofDeclarations roles networks = .ok t ↔
      Admissible roles networks ∧ t = expand roles networks := by
  rw [ofDeclarations, Attempt.bind_eq_ok, ← check_eq_ok]
  constructor
  · rintro ⟨_, hcheck, h⟩
    exact ⟨hcheck, (Attempt.pure_eq_ok.mp h).symm⟩
  · rintro ⟨hcheck, rfl⟩
    exact ⟨(), hcheck, rfl⟩

variable {roles : List Role} {networks : List (Slug × List Slug)}

@[simp] theorem roles_expand : (expand roles networks).roles = roles := rfl

@[simp] theorem length_segments_expand :
    (expand roles networks).segments.length = networks.length := List.length_mapIdx

theorem map_name_segments_expand :
    (expand roles networks).segments.map Segment.name = networks.map Prod.fst := by
  refine List.ext_getElem (by simp) fun index h h' => ?_
  simp [expand, segmentAt]

theorem mem_segments_expand {segment : Segment} :
    segment ∈ (expand roles networks).segments ↔
      ∃ index, ∃ h : index < networks.length, segmentAt roles index networks[index] = segment :=
  List.mem_mapIdx

/-- The segments are those of the networks, one for each. -/
theorem forall₂_segments_expand :
    List.Forall₂ (fun (network : Slug × List Slug) segment => segment.name = network.1
        ∧ segment.members = expandMembers roles network.2)
      networks (expand roles networks).segments := by
  refine List.forall₂_iff_get.mpr ⟨length_segments_expand.symm, fun index h h' => ?_⟩
  simp [expand, segmentAt]

theorem exists_network_of_mem_segments {segment : Segment}
    (h : segment ∈ (expand roles networks).segments) :
    segment.index < networks.length ∧ ∃ network ∈ networks,
      segment.name = network.1 ∧ segment.members = expandMembers roles network.2 := by
  obtain ⟨index, hlt, rfl⟩ := mem_segments_expand.mp h
  exact ⟨hlt, networks[index], List.getElem_mem hlt, rfl, rfl⟩

theorem eq_of_index_eq {segment segment' : Segment}
    (h : segment ∈ (expand roles networks).segments)
    (h' : segment' ∈ (expand roles networks).segments) (hindex : segment.index = segment'.index) :
    segment = segment' := by
  obtain ⟨index, hlt, rfl⟩ := mem_segments_expand.mp h
  obtain ⟨index', hlt', rfl⟩ := mem_segments_expand.mp h'
  obtain rfl : index = index' := hindex
  rfl

theorem nodup_names_expand (hadm : Admissible roles networks) :
    ((expand roles networks).segments.map Segment.name).Nodup := by
  rw [map_name_segments_expand]
  exact hadm.networks_nodup

end Topology

end RangeLab
