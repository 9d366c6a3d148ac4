import RangeLab.Proofs.Capacity
import RangeLab.Proofs.Reading

/-!
# Additions to a lab

The roles of a lab may be declared in any order, and further roles may be declared among them and
attached behind the members of networks: the guests and networks that are there stay as they are
(`compile_with_further_roles`).

Roles are looked up by name, so their order decides nothing but the order of the guests. The places
that matter stay: a segment keeps its place among the segments, and on a segment a role keeps its
seats, because further members come behind it (`Segment.SeatsAlike`). So a guest has the same
segments in the same order, and the same host on each of them.
-/

namespace RangeLab

open Ipv4 (Block)

/-- Two segments at the same place, on which these roles have the same seats. -/
structure Segment.SeatsAlike (roles : List Role) (segment segment' : Segment) : Prop where
  name_eq : segment'.name = segment.name
  index_eq : segment'.index = segment.index
  position?_eq : ∀ role ∈ roles, segment'.position? role.name = segment.position? role.name

namespace Topology

variable {roles roles' : List Role} {networks networks' : List (Slug × List Slug)}

/-! ## Seats on a segment -/

theorem guestCountOf_of_subset (hnd : (roles.map Role.name).Nodup)
    (hnd' : (roles'.map Role.name).Nodup) (hsub : roles ⊆ roles') {name : Slug}
    (h : name ∈ roles.map Role.name) : guestCountOf roles' name = guestCountOf roles name := by
  obtain ⟨role, hrole, rfl⟩ := List.mem_map.mp h
  rw [guestCountOf_name hnd hrole, guestCountOf_name hnd' (hsub hrole)]

theorem expandMembers_of_subset (hnd : (roles.map Role.name).Nodup)
    (hnd' : (roles'.map Role.name).Nodup) (hsub : roles ⊆ roles') {members : List Slug}
    (h : ∀ member ∈ members, member ∈ roles.map Role.name) :
    expandMembers roles' members = expandMembers roles members := by
  refine List.flatMap_congr fun member hmember => ?_
  rw [guestCountOf_of_subset hnd hnd' hsub (h member hmember)]

/-- The network has further members, all of them behind those that are there and none of them one
of these roles. -/
def Attached (roles : List Role) (n n' : Slug × List Slug) : Prop :=
  n'.1 = n.1 ∧ ∃ members, n'.2 = n.2 ++ members ∧ ∀ role ∈ roles, role.name ∉ members

theorem seatsAlike_segmentAt (hnd : (roles.map Role.name).Nodup)
    (hnd' : (roles'.map Role.name).Nodup) (hsub : roles ⊆ roles') {n n' : Slug × List Slug}
    (hdeclared : ∀ member ∈ n.2, member ∈ roles.map Role.name) (h : Attached roles n n')
    (index : Nat) :
    Segment.SeatsAlike roles (segmentAt roles index n) (segmentAt roles' index n') := by
  obtain ⟨hname, members, hmembers, hnew⟩ := h
  refine { name_eq := hname, index_eq := rfl, position?_eq := fun role hrole => ?_ }
  have hsplit : expandMembers roles' n'.2
      = expandMembers roles n.2 ++ expandMembers roles' members := by
    rw [hmembers, expandMembers, List.flatMap_append]
    exact congrArg (· ++ _) (expandMembers_of_subset hnd hnd' hsub hdeclared)
  show (expandMembers roles' n'.2).idxOf? role.name = (expandMembers roles n.2).idxOf? role.name
  rw [hsplit, idxOf?_append_of_not_mem fun hmem => hnew role hrole (mem_expandMembers.mp hmem)]

theorem seatsAlike_expand (hadm : Admissible roles networks) (hnd' : (roles'.map Role.name).Nodup)
    (hsub : roles ⊆ roles') (h : List.Forall₂ (Attached roles) networks networks') :
    List.Forall₂ (Segment.SeatsAlike roles) (expand roles networks).segments
      (expand roles' networks').segments := by
  obtain ⟨hlen, hall⟩ := List.forall₂_iff_get.mp h
  refine List.forall₂_iff_get.mpr ⟨by simpa using hlen, fun index hi hi' => ?_⟩
  rw [length_segments_expand] at hi hi'
  have hseats := seatsAlike_segmentAt hadm.roles_nodup hnd' hsub
    (hadm.members_declared _ (List.getElem_mem hi)) (hall index hi hi') index
  simpa [expand] using hseats

theorem seatsAlike_segmentsOf {t t' : Topology}
    (h : List.Forall₂ (Segment.SeatsAlike roles) t.segments t'.segments) {role : Role}
    (hrole : role ∈ roles) :
    List.Forall₂ (Segment.SeatsAlike roles) (t.segmentsOf role.name) (t'.segmentsOf role.name) := by
  refine List.rel_filter ?_ h
  intro segment segment' hseats
  have hposition := hseats.position?_eq role hrole
  unfold Segment.position? at hposition
  show segment.members.contains role.name = true ↔ segment'.members.contains role.name = true
  rw [List.contains_iff_mem, List.contains_iff_mem, ← List.isSome_idxOf?, ← List.isSome_idxOf?,
    hposition]

end Topology

/-! ## Interfaces -/

namespace Guest

variable {g : Guest} {roles : List Role} {plan : AddressPlan} {id : LabId} {indexOffset : UInt32}

theorem interfaceAt_of_seatsAlike (hname : g.name.isEmpty = false) (hrole : g.role ∈ roles)
    {entry entry' : Segment × Nat} (hseats : Segment.SeatsAlike roles entry.1 entry'.1)
    (hplace : entry.2 = entry'.2) {i : Interface}
    (h : g.interfaceAt (plan.network? id) indexOffset entry = .ok i) :
    g.interfaceAt (plan.network? id) indexOffset entry' = .ok i := by
  obtain ⟨block, position, address, hsubnet, hposition, hindex, hhost, rfl⟩ :=
    (interfaceAt_eq_ok hname).mp h
  refine (interfaceAt_eq_ok hname).mpr ⟨block, position, address, ?_, ?_, ?_, hhost, ?_⟩
  · rw [hseats.index_eq, hsubnet]
  · rw [hseats.position?_eq g.role hrole, hposition]
  · rw [← hplace]
    exact hindex
  · rw [interfaceIn, interfaceIn, hseats.name_eq, hplace]

/-- A guest gets the same interfaces where its role has the same seats. -/
theorem allocate_of_seatsAlike {t t' : Topology} (hname : g.name.isEmpty = false)
    (hrole : g.role ∈ roles)
    (hseats : List.Forall₂ (Segment.SeatsAlike roles) t.segments t'.segments)
    {table : List (String × Interface)}
    (h : g.allocate t (plan.network? id) indexOffset = .ok table) :
    g.allocate t' (plan.network? id) indexOffset = .ok table := by
  obtain ⟨interfaces, hall, rfl⟩ := allocate_eq_ok.mp h
  refine allocate_eq_ok.mpr ⟨interfaces, ?_, rfl⟩
  have hplaces := forall₂_zipIdx (Topology.seatsAlike_segmentsOf hseats hrole) 0
  refine (forall₂_comp (List.Forall₂.flip hplaces) hall).imp ?_
  rintro entry' i ⟨entry, ⟨hentry, hplace⟩, hi⟩
  exact interfaceAt_of_seatsAlike hname hrole hentry hplace hi

end Guest

/-! ## Declarations -/

/-- The network with further members behind those that it has, all of them roles of this list. -/
def NetworkDeclaration.ExtendedBy (further : List RoleDeclaration) (n n' : NetworkDeclaration) :
    Prop :=
  n'.name = n.name ∧ ∃ members, n'.members = n.members ++ members
    ∧ ∀ member ∈ members, ∃ d ∈ further, Slug.letters d.name = Slug.letters member

/-- Roles that are declared in another order, among further ones, are read as the same roles in
another order, among what the further ones are read as. -/
theorem RoleDeclaration.read_among {ds ds' further : List RoleDeclaration}
    {roles roles' : List Role} (hperm : ds'.Perm (ds ++ further)) (h : ds.mapM toRole = .ok roles)
    (h' : ds'.mapM toRole = .ok roles') :
    ∃ others, List.Forall₂ (fun d r => toRole d = .ok r) further others
      ∧ roles'.Perm (roles ++ others) := by
  obtain ⟨all, hall, hperm'⟩ := Attempt.mapM_perm hperm.symm h'
  obtain ⟨first, others, rfl, hfirst, hothers⟩ := forall₂_append_left (Attempt.mapM_eq_ok.mp hall)
  obtain rfl := Except.ok.inj (h.symm.trans (Attempt.mapM_eq_ok.mpr hfirst))
  exact ⟨others, hothers, hperm'.symm⟩

/-- What is attached to a network as it is declared is attached to it as it is read. A further
member has the letters of a further role, and so its name. -/
theorem NetworkDeclaration.attached_of_extendedBy {further : List RoleDeclaration}
    {roles others : List Role} (hothers : List.Forall₂ (fun d r => d.toRole = .ok r) further others)
    (hnew : ∀ role ∈ roles, role.name ∉ others.map Role.name) {n n' : NetworkDeclaration}
    (h : n.ExtendedBy further n') {slugs slugs' : Slug × List Slug} (hn : n.toSlugs = .ok slugs)
    (hn' : n'.toSlugs = .ok slugs') : Topology.Attached roles slugs slugs' := by
  obtain ⟨hname, members, hmembers, hfurther⟩ := h
  obtain ⟨hslug, hslugs⟩ := toSlugs_eq_ok.mp hn
  obtain ⟨hslug', hslugs'⟩ := toSlugs_eq_ok.mp hn'
  rw [hname, hslug] at hslug'
  rw [hmembers, List.map_append, hslugs] at hslugs'
  obtain ⟨first, rest, hsplit, hfirst, hrest⟩ := List.map_eq_append_iff.mp hslugs'.symm
  have heq : first = slugs.2 := List.map_injective_iff.mpr Slug.chars_injective hfirst
  refine ⟨Slug.chars_injective hslug'.symm, rest, heq ▸ hsplit, fun role hrole hmem => ?_⟩
  obtain ⟨member, hmember, hletters⟩ :=
    List.mem_map.mp (hrest ▸ List.mem_map_of_mem hmem : role.name.chars ∈ members.map Slug.letters)
  obtain ⟨d, hd, hspelled⟩ := hfurther member hmember
  obtain ⟨other, hother, hread⟩ := exists_right_of_forall₂ hothers hd
  have hchars := (RoleDeclaration.toRole_eq_ok.mp hread).1
  rw [hspelled, hletters] at hchars
  exact hnew role hrole (Slug.chars_injective hchars ▸ List.mem_map_of_mem hother)

/-! ## Inventories -/

namespace Inventory

/-- The second inventory is of the same lab and plan. It has the roles of the first one, and they
have the same seats. -/
structure Keeps (inv inv' : Inventory) : Prop where
  id_eq : inv'.id = inv.id
  plan_eq : inv'.plan = inv.plan
  instances_eq : inv'.instances = inv.instances
  roles_subset : inv.topology.roles ⊆ inv'.topology.roles
  seats_alike : List.Forall₂ (Segment.SeatsAlike inv.topology.roles) inv.topology.segments
    inv'.topology.segments

namespace MadeFrom

variable {s : Scenario} {roles further : List RoleDeclaration} {declared : List NetworkDeclaration}
variable {root root' : Block} {networks networks' : List (Slug × List Slug)}
variable {inv inv' : Inventory}

theorem keeps_of_further (m : MadeFrom s root networks inv)
    (m' : MadeFrom { s with roles := roles, networks := declared } root' networks' inv')
    (hroles : roles.Perm (s.roles ++ further))
    (hnetworks : List.Forall₂ (NetworkDeclaration.ExtendedBy further) s.networks declared) :
    inv.Keeps inv' := by
  obtain ⟨others, hothers, hperm⟩ :=
    RoleDeclaration.read_among hroles m.roles_read m'.roles_read
  have hsub : inv.topology.roles ⊆ inv'.topology.roles := fun role hrole =>
    hperm.mem_iff.mpr (List.mem_append_left others hrole)
  have hnames := (hperm.map Role.name).nodup_iff.mp m'.admissible.roles_nodup
  rw [List.map_append] at hnames
  have hnew : ∀ role ∈ inv.topology.roles, role.name ∉ others.map Role.name := fun role hrole =>
    List.disjoint_of_nodup_append hnames (List.mem_map_of_mem hrole)
  have hattached : List.Forall₂ (Topology.Attached inv.topology.roles) networks networks' := by
    have hread := forall₂_comp (List.Forall₂.flip (Attempt.mapM_eq_ok.mp m.networks_read))
      (forall₂_comp hnetworks (Attempt.mapM_eq_ok.mp m'.networks_read))
    refine hread.imp ?_
    rintro slugs slugs' ⟨n, hn, n', hextended, hn'⟩
    exact NetworkDeclaration.attached_of_extendedBy hothers hnew hextended hn hn'
  have hplan := m'.plan_made
  rw [← hattached.length_eq, Except.ok.inj (m'.root_read.symm.trans m.root_read)] at hplan
  refine {
    id_eq := Except.ok.inj (m'.id_read.symm.trans m.id_read)
    plan_eq := Except.ok.inj (hplan.symm.trans m.plan_made)
    instances_eq := m'.instances_eq.trans m.instances_eq.symm
    roles_subset := hsub
    seats_alike := ?_ }
  rw [m.topology_eq, m'.topology_eq]
  exact Topology.seatsAlike_expand m.admissible m'.admissible.roles_nodup hsub hattached

/-- A guest of the first inventory is one of the second. -/
theorem guest_kept (m : MadeFrom s root networks inv)
    (m' : MadeFrom { s with roles := roles, networks := declared } root' networks' inv')
    (k : inv.Keeps inv') {g : Guest} (hg : g ∈ inv.guests) : g ∈ inv'.guests := by
  obtain ⟨i, role, copy, hi, hrole, hcopy, table, htable, hg⟩ := m.exists_bare hg
  have hbare : inv.id.guest i role copy ∈ inv'.id.guests inv'.topology.roles s.instances := by
    rw [k.id_eq]
    exact LabId.mem_guests.mpr
      ⟨i, role, copy, m.instances_eq ▸ hi, k.roles_subset hrole, hcopy, rfl⟩
  obtain ⟨g', hg', table', htable', rfl⟩ := exists_right_of_forall₂ m'.guests_furnished hbare
  have hkept := Guest.allocate_of_seatsAlike (inv.id.name_guest_ne_empty i role copy) hrole
    k.seats_alike htable
  rw [k.plan_eq, k.id_eq] at htable'
  obtain rfl := Except.ok.inj (hkept.symm.trans htable')
  exact hg ▸ hg'

/-- A network of the first inventory is one of the second, with further members. -/
theorem network_kept (m : MadeFrom s root networks inv)
    (m' : MadeFrom { s with roles := roles, networks := declared } root' networks' inv')
    (k : inv.Keeps inv') {n : Network} (hn : n ∈ inv.networks) :
    ∃ n' ∈ inv'.networks, n'.name = n.name ∧ n'.base = n.base
      ∧ n'.instanceNumber = n.instanceNumber ∧ n'.block = n.block := by
  obtain ⟨i, block, segment, hsegment, hi, hblock, rfl⟩ := m.mem_networks.mp hn
  obtain ⟨segment', hsegment', hseats⟩ := exists_right_of_forall₂ k.seats_alike hsegment
  have hblock' : inv'.plan.subnet? i segment'.index = some block := by
    rw [k.plan_eq, hseats.index_eq, hblock]
  refine ⟨segment'.network inv'.id i block,
    m'.mem_networks.mpr ⟨i, block, segment', hsegment', hi, hblock', rfl⟩, ?_, ?_, rfl, rfl⟩
  · show inv'.id.networkName i segment'.name = inv.id.networkName i segment.name
    rw [k.id_eq, hseats.name_eq]
  · exact hseats.name_eq

end MadeFrom

end Inventory

/-! ## Another order of the roles -/

namespace Topology

variable {roles roles' : List Role} {networks : List (Slug × List Slug)} {root : Block}
variable {instances indexOffset : UInt32}

theorem Admissible.perm (h : Admissible roles networks) (hperm : roles'.Perm roles) :
    Admissible roles' networks where
  roles_nodup := (hperm.map Role.name).nodup_iff.mpr h.roles_nodup
  not_service := fun role hrole => h.not_service role (hperm.mem_iff.mp hrole)
  copies_le := fun role hrole => h.copies_le role (hperm.mem_iff.mp hrole)
  networks_nodup := h.networks_nodup
  members_declared := fun network hnetwork member hmember =>
    (hperm.map Role.name).mem_iff.mpr (h.members_declared network hnetwork member hmember)
  members_nodup := h.members_nodup

theorem segments_expand_of_perm (hadm : Admissible roles networks) (hperm : roles'.Perm roles) :
    (expand roles' networks).segments = (expand roles networks).segments := by
  refine List.mapIdx_eq_mapIdx_iff.mpr fun index h => ?_
  rw [segmentAt, segmentAt, expandMembers_of_subset hadm.roles_nodup (hadm.perm hperm).roles_nodup
    (fun _ hrole => hperm.mem_iff.mpr hrole) (hadm.members_declared _ (List.getElem_mem h))]

theorem Fits.perm (h : Fits roles networks root instances indexOffset)
    (hadm : Admissible roles networks) (hperm : roles'.Perm roles) :
    Fits roles' networks root instances indexOffset where
  room := h.room
  hosts_le := fun network hnetwork hne => by
    have hcounts : network.2.map (guestCountOf roles') = network.2.map (guestCountOf roles) :=
      List.map_congr_left fun member hmember =>
        guestCountOf_of_subset hadm.roles_nodup (hadm.perm hperm).roles_nodup
          (fun _ hrole => hperm.mem_iff.mpr hrole) (hadm.members_declared _ hnetwork member hmember)
    rw [hcounts]
    exact h.hosts_le network hnetwork hne
  index_le := fun role hrole => h.index_le role (hperm.mem_iff.mp hrole)

end Topology

/-- The small lab with a role of two copies more, declared between those that are there and attached
to the first network. -/
def Scenario.smallWithMail : Scenario :=
  { Scenario.small with
    roles := [{ name := "Data base" }, { name := "mail", copies := 2 },
      { name := "web", copies := 3 }]
    networks := [{ name := "dmz", members := ["web", "Mail"] },
      { name := "lan", members := ["database", "WEB"] }] }

namespace Inventory

variable {s : Scenario} {roles : List RoleDeclaration}

/-- A lab that compiles does so with its roles in any order. -/
theorem exists_compile_of_perm (hperm : roles.Perm s.roles) (h : ∃ inv, compile s = .ok inv) :
    ∃ inv, compile { s with roles := roles } = .ok inv := by
  obtain ⟨inv, h⟩ := h
  obtain ⟨id, root, rs, networks, r, hbuild⟩ := compile_eq_ok_iff_build.mp h
  obtain ⟨rs', hread, hperm'⟩ := Attempt.mapM_perm hperm r.roles_read
  have hadm := r.admissible.perm hperm'
  have hfits := (exists_build_expand_iff r.admissible).mp ⟨inv, hbuild⟩
  obtain ⟨inv', hbuild'⟩ := (exists_build_expand_iff hadm).mpr fun hi hn =>
    (hfits hi hn).perm r.admissible hperm'
  refine ⟨inv', compile_eq_ok_iff_build.mpr ⟨id, root, rs', networks, ?_, hbuild'⟩⟩
  exact {
    id_read := r.id_read
    id_check := r.id_check
    root_read := r.root_read
    roles_read := hread
    networks_read := r.networks_read
    admissible := hadm }

/-- Without further roles there is nothing to attach. -/
theorem forall₂_extendedBy_nil {ns ns' : List NetworkDeclaration} :
    List.Forall₂ (NetworkDeclaration.ExtendedBy []) ns ns' ↔ ns = ns' := by
  rw [← List.forall₂_eq_eq_eq]
  have hsame : NetworkDeclaration.ExtendedBy [] = Eq := by
    funext n n'
    refine propext ⟨?_, ?_⟩
    · rintro ⟨hname, members, hmembers, hnone⟩
      have hnil : members = [] := List.eq_nil_iff_forall_not_mem.mpr fun member hmember => by
        obtain ⟨d, hd, -⟩ := hnone member hmember
        cases hd
      rw [hnil, List.append_nil] at hmembers
      cases n
      cases n'
      exact congr (congrArg NetworkDeclaration.mk hname.symm) hmembers.symm
    · rintro rfl
      exact ⟨rfl, [], (List.append_nil _).symm, nofun⟩
  rw [hsame]

namespace MadeFrom

variable {root root' : Block} {networks networks' : List (Slug × List Slug)} {inv inv' : Inventory}

theorem keeps_of_perm (m : MadeFrom s root networks inv)
    (m' : MadeFrom { s with roles := roles } root' networks' inv') (hperm : roles.Perm s.roles) :
    inv.Keeps inv' := by
  have hroles : roles.Perm (s.roles ++ []) := by rwa [List.append_nil]
  exact m.keeps_of_further m' hroles (forall₂_extendedBy_nil.mpr rfl)

theorem networks_of_perm (m : MadeFrom s root networks inv)
    (m' : MadeFrom { s with roles := roles } root' networks' inv') (hperm : roles.Perm s.roles) :
    inv'.networks = inv.networks := by
  have k := m.keeps_of_perm m' hperm
  obtain ⟨rs, hread, hperm'⟩ := Attempt.mapM_perm hperm m.roles_read
  rw [Except.ok.inj (hread.symm.trans m'.roles_read)] at hperm'
  have hsegments : inv'.topology.segments = inv.topology.segments := by
    rw [m.topology_eq, m'.topology_eq, Except.ok.inj (m'.networks_read.symm.trans m.networks_read)]
    exact Topology.segments_expand_of_perm m.admissible hperm'
  rw [m.networks_eq, m'.networks_eq, k.plan_eq, k.id_eq, hsegments]

theorem guests_of_perm (m : MadeFrom s root networks inv)
    (m' : MadeFrom { s with roles := roles } root' networks' inv') (hperm : roles.Perm s.roles) :
    inv'.guests.Perm inv.guests := by
  have hback : MadeFrom { { s with roles := roles } with roles := s.roles } root networks inv := m
  have hnd := List.Nodup.of_map _ m.nodup_keys
  have hnd' := List.Nodup.of_map _ m'.nodup_keys
  refine (List.perm_ext_iff_of_nodup hnd' hnd).mpr fun g => ⟨?_, ?_⟩
  · exact m'.guest_kept hback (m'.keeps_of_perm hback hperm.symm)
  · exact m.guest_kept m' (m.keeps_of_perm m' hperm)

end MadeFrom

/-! ## Further roles -/

/-- A lab whose roles are declared in another order, with further roles among them that are attached
behind the members of networks, has the guests and the networks that it had. If there are no further
roles, it compiles iff it did, and then it has no others. -/
theorem compile_with_further_roles {s : Scenario} {roles further : List RoleDeclaration}
    {networks : List NetworkDeclaration} (hroles : roles.Perm (s.roles ++ further))
    (hnetworks : List.Forall₂ (NetworkDeclaration.ExtendedBy further) s.networks networks) :
    (∀ inv inv', compile s = .ok inv → compile { s with roles, networks } = .ok inv' →
      inv.guests ⊆ inv'.guests
      ∧ ∀ n ∈ inv.networks, ∃ n' ∈ inv'.networks, n'.name = n.name ∧ n'.base = n.base
        ∧ n'.instanceNumber = n.instanceNumber ∧ n'.block = n.block)
    ∧ (further = [] →
      ((∃ inv', compile { s with roles, networks } = .ok inv') ↔ ∃ inv, compile s = .ok inv)
      ∧ ∀ inv inv', compile s = .ok inv → compile { s with roles, networks } = .ok inv' →
        inv'.networks = inv.networks ∧ inv'.guests.Perm inv.guests) := by
  refine ⟨fun inv inv' h h' => ?_, ?_⟩
  · obtain ⟨root, slugs, m⟩ := compile_eq_ok.mp h
    obtain ⟨root', slugs', m'⟩ := compile_eq_ok.mp h'
    have k := m.keeps_of_further m' hroles hnetworks
    exact ⟨fun g hg => m.guest_kept m' k hg, fun n hn => m.network_kept m' k hn⟩
  · rintro rfl
    rw [List.append_nil] at hroles
    obtain rfl := forall₂_extendedBy_nil.mp hnetworks
    refine ⟨⟨exists_compile_of_perm hroles.symm, exists_compile_of_perm hroles⟩, ?_⟩
    intro inv inv' h h'
    obtain ⟨root, slugs, m⟩ := compile_eq_ok.mp h
    obtain ⟨root', slugs', m'⟩ := compile_eq_ok.mp h'
    exact ⟨m.networks_of_perm m' hroles, m.guests_of_perm m' hroles⟩

/-- The small lab with mail servers between its roles and, in another spelling, on its first
network. -/
theorem compile_with_further_roles_small : ∃ inv inv' inv'', compile .small = .ok inv
    ∧ compile .smallWithMail = .ok inv'
    ∧ compile { Scenario.small with roles := Scenario.small.roles.reverse } = .ok inv''
    ∧ (inv.guests.length = 8 ∧ inv'.guests.length = 12 ∧ inv.guests ⊆ inv'.guests)
    ∧ (∀ n ∈ inv.networks, ∃ n' ∈ inv'.networks, n'.name = n.name ∧ n'.base = n.base
      ∧ n'.instanceNumber = n.instanceNumber ∧ n'.block = n.block)
    ∧ inv''.networks = inv.networks ∧ inv''.guests.Perm inv.guests := by
  have hrun : (compile .small).map (fun inv => inv.guests.length) = .ok 8 := by decide +kernel
  have hrun' : (compile .smallWithMail).map (fun inv => inv.guests.length) = .ok 12 := by
    decide +kernel
  obtain ⟨inv, h, hlen⟩ := Attempt.map_eq_ok.mp hrun
  obtain ⟨inv', h', hlen'⟩ := Attempt.map_eq_ok.mp hrun'
  have hroles : Scenario.smallWithMail.roles.Perm
      (Scenario.small.roles ++ [{ name := "mail", copies := 2 }]) := by decide
  have hnetworks : List.Forall₂
      (NetworkDeclaration.ExtendedBy [{ name := "mail", copies := 2 }])
      Scenario.small.networks Scenario.smallWithMail.networks := by
    refine .cons ⟨rfl, ["Mail"], rfl, fun member hmember => ?_⟩ (.cons ⟨rfl, [], rfl, nofun⟩ .nil)
    obtain rfl := List.mem_singleton.mp hmember
    exact ⟨_, List.mem_singleton_self _, by decide⟩
  obtain ⟨hguests, hkept⟩ := (compile_with_further_roles hroles hnetworks).1 inv inv' h h'
  have hreversed : Scenario.small.roles.reverse.Perm (Scenario.small.roles ++ []) := by
    rw [List.append_nil]
    exact List.reverse_perm _
  have hunchanged : List.Forall₂ (NetworkDeclaration.ExtendedBy [])
      Scenario.small.networks Scenario.small.networks := forall₂_extendedBy_nil.mpr rfl
  obtain ⟨hiff, hsame⟩ := (compile_with_further_roles hreversed hunchanged).2 rfl
  obtain ⟨inv'', h''⟩ := hiff.mpr ⟨inv, h⟩
  exact ⟨inv, inv', inv'', h, h', h'', ⟨hlen, hlen', hguests⟩, hkept, hsame inv inv'' h h''⟩

end Inventory

end RangeLab
