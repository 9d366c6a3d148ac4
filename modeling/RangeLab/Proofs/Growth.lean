import RangeLab.Proofs.Answers
import RangeLab.Record

/-!
# Growing a lab

A lab that can have many instances can have fewer, and what it has with fewer stays as it is with
more: the guests and networks of further instances come behind those that are there, and a query
that asks for instances which both labs have gets the same answer from both
(`compile_with_fewer_instances`).

An instance is made without regard to the others: the plan agrees on the blocks of an instance
(`AddressPlan.AgreesUpTo`), a guest takes its addresses from the networks of its own instance, and
the copies that a query may name are those of the roles, not of the guests.
-/

namespace RangeLab

open Ipv4 (Block)

/-! ## Plans that agree -/

namespace AddressPlan.AgreesUpTo

variable {p p' : AddressPlan} {n : UInt32}

theorem network?_eq (h : p.AgreesUpTo p' n) (id : LabId) {i : UInt32} (hi : i ≤ n) :
    p.network? id i = p'.network? id i := by
  funext segment
  rw [network?, network?, h.subnet?_eq i hi]

theorem networkList_prefix (h : p.AgreesUpTo p' n) (id : LabId) (segments : List Segment) :
    p.networkList id segments <+: p'.networkList id segments := by
  obtain ⟨later, hlater, -⟩ := ordinals_append h.instances_le
  have hfirst : p.networkList id segments
      = (ordinals p.instances).flatMap fun i => segments.filterMap (p'.network? id i) := by
    refine List.flatMap_congr ?_
    intro i hi
    rw [h.network?_eq id (UInt32.le_trans (mem_ordinals.mp hi).2 h.instances_le_bound)]
  rw [hfirst, networkList, hlater, List.flatMap_append]
  exact List.prefix_append _ _

/-- Guests of the instances that the plans agree on get the same interfaces. -/
theorem guests_furnished (h : p.AgreesUpTo p' n) {t : Topology} {id : LabId}
    {indexOffset : UInt32} {bares guests : List Guest}
    (hbares : ∀ bare ∈ bares, bare.instanceNumber ≤ n)
    (hguests : List.Forall₂ (Inventory.Furnished t p' id indexOffset) bares guests) :
    List.Forall₂ (Inventory.Furnished t p id indexOffset) bares guests := by
  refine ((List.forall₂_and_left _ _).mpr ⟨hbares, hguests⟩).imp ?_
  intro bare g hbare
  obtain ⟨hbound, table, htable, hg⟩ := hbare
  refine ⟨table, ?_, hg⟩
  rw [Guest.allocate_congr (h.network?_eq id hbound)]
  exact htable

end AddressPlan.AgreesUpTo

namespace Inventory

/-! ## The smaller inventory -/

/-- The second inventory is the first one with further instances. -/
structure Begins (inv inv' : Inventory) : Prop where
  instances_le : inv.instances ≤ inv'.instances
  topology_eq : inv.topology = inv'.topology
  services_eq : inv.services = inv'.services
  reserved?_eq : inv.reserved? = inv'.reserved?
  networks_prefix : inv.networks <+: inv'.networks
  guests_split : ∃ later, inv'.guests = inv.guests ++ later
    ∧ ∀ g ∈ later, inv.instances < g.instanceNumber

variable {s s' : Scenario} {root root' : Block} {networks networks' : List (Slug × List Slug)}
variable {inv inv' : Inventory}

/-- The number of instances has no part in what a scenario is read as. -/
theorem Reads.of_instances {n n' : UInt32} {id : LabId} {roles : List Role}
    (r : Reads { s with instances := n' } id root roles networks) :
    Reads { s with instances := n } id root roles networks where
  id_read := r.id_read
  id_check := r.id_check
  root_read := r.root_read
  roles_read := r.roles_read
  networks_read := r.networks_read
  admissible := r.admissible

/-- An inventory begins with an inventory of fewer instances of the same lab. -/
theorem MadeFrom.exists_begins {n n' : UInt32} (hle : n ≤ n')
    (m' : MadeFrom { s with instances := n' } root networks inv') :
    ∃ inv, MadeFrom { s with instances := n } root networks inv ∧ inv.Begins inv' := by
  obtain ⟨plan, hplan, hagree⟩ := AddressPlan.exists_make_of_le hle m'.plan_made
  obtain ⟨bares, hbares, hlater⟩ := inv'.id.guests_append inv'.topology.roles hle
  have hguests := m'.guests_furnished
  rw [hbares] at hguests
  obtain ⟨guests, later, hsplit, hfirst, hrest⟩ := forall₂_append_left hguests
  refine ⟨{ inv' with
    instances := n
    plan
    networks := plan.networkList inv'.id inv'.topology.segments
    guests }, ?_, ?_⟩
  · exact {
      toReads := m'.toReads.of_instances
      topology_eq := m'.topology_eq
      plan_made := hplan
      networks_eq := rfl
      guests_furnished :=
        hagree.guests_furnished (fun _ => LabId.instanceNumber_le_of_mem_guests) hfirst
      services_eq := m'.services_eq
      instances_eq := rfl
      randomSeed_eq := m'.randomSeed_eq }
  · refine {
      instances_le := m'.instances_eq ▸ hle
      topology_eq := rfl
      services_eq := rfl
      reserved?_eq := hagree.reserved?_eq
      networks_prefix := m'.networks_eq ▸ hagree.networkList_prefix _ _
      guests_split := ⟨later, hsplit, ?_⟩ }
    intro g hg
    obtain ⟨bare, hbare, table, -, rfl⟩ := exists_left_of_forall₂ hrest hg
    exact hlater bare hbare

/-! ## The same answers -/

theorem Begins.roleKind?_eq (b : inv.Begins inv') (name : String) (onlyInstances : Bool) :
    inv.roleKind? name onlyInstances = inv'.roleKind? name onlyInstances := by
  rw [roleKind?, roleKind?, b.services_eq, b.topology_eq]

theorem Begins.largestCopy_eq (b : inv.Begins inv') (q : Query) :
    q.largestCopy inv = q.largestCopy inv' := by
  have hnamed : inv.guestCountNamed q.onlyInstances = inv'.guestCountNamed q.onlyInstances := by
    funext name
    rw [guestCountNamed, guestCountNamed, takesAsService, takesAsService, roleNamed?, roleNamed?,
      b.services_eq, b.topology_eq]
  rw [Query.largestCopy, Query.largestCopy, Query.guestCounts, Query.guestCounts, b.services_eq,
    b.topology_eq, hnamed]

/-- A query that asks for instances of the smaller lab is checked alike in both. -/
theorem Begins.filters_eq (b : inv.Begins inv') (m : MadeFrom s root networks inv)
    (m' : MadeFrom s' root' networks' inv') (hone : 1 ≤ inv.instances) {q : Query}
    (hq : ∀ i ∈ q.instances, 1 ≤ i ∧ i ≤ inv.instances) : q.filters inv = q.filters inv' := by
  have hinstances := Query.checkInstances_of_le hq (UInt32.le_refl _)
  have hinstances' := Query.checkInstances_of_le hq b.instances_le
  have hkinds : q.kinds inv' = q.kinds inv := by
    simp only [Query.kinds, b.roleKind?_eq]
  rw [Query.filters, Query.filters, hinstances, hinstances', hkinds]
  cases hk : q.kinds inv with
  | error e => rfl
  | ok kinds =>
      have hmax := Query.maxCopy_eq m hone (Query.kinds_eq_ok.mp hk)
      have hmax' := Query.maxCopy_eq m' (UInt32.le_trans hone b.instances_le)
        (Query.kinds_eq_ok.mp (hkinds.trans hk))
      show (q.checkCopies (q.maxCopy inv kinds) >>= _) = q.checkCopies (q.maxCopy inv' kinds) >>= _
      rw [hmax, hmax', b.largestCopy_eq]

/-- Filters that ask for instances of the smaller lab select none of the further guests. -/
theorem Begins.selectedNames_eq (b : inv.Begins inv') {f : Filters} (hne : f.instances ≠ [])
    (hf : ∀ i ∈ f.instances, i ≤ inv.instances) (onlyInstances : Bool) :
    inv.selectedNames onlyInstances f = inv'.selectedNames onlyInstances f := by
  obtain ⟨later, hguests, hlater⟩ := b.guests_split
  have hnone : (later.map Machine.scenario).filter f.selects = [] := by
    refine List.filter_eq_nil_iff.mpr ?_
    intro machine hmem hselects
    obtain ⟨g, hg, rfl⟩ := List.mem_map.mp hmem
    rcases Filters.instance_of_selects hselects with hnil | hinstance
    · exact hne hnil
    · exact UInt32.not_lt.mpr (hf _ hinstance) (hlater g hg)
  rw [selectedNames, selectedNames, machines, machines, hguests, b.services_eq]
  simp only [List.map_append, List.filter_append, hnone, List.append_nil]

theorem Begins.resolve_eq (b : inv.Begins inv') (m : MadeFrom s root networks inv)
    (m' : MadeFrom s' root' networks' inv') {q : Query} (hne : q.instances ≠ [])
    (hq : ∀ i ∈ q.instances, 1 ≤ i ∧ i ≤ inv.instances) : inv.resolve q = inv'.resolve q := by
  obtain ⟨i, hi⟩ := List.exists_mem_of_ne_nil _ hne
  have hone : 1 ≤ inv.instances := UInt32.le_trans (hq i hi).1 (hq i hi).2
  refine resolve_congr (b.filters_eq m m' hone hq) ?_
  intro f hf
  obtain ⟨-, kinds, -, rfl⟩ := (Query.filters_eq_ok m hone).mp hf
  exact b.selectedNames_eq hne (fun i hi => (hq i hi).2) q.onlyInstances

/-! ## Fewer instances -/

/-- With fewer instances a lab compiles as well. It has the first guests, records and networks and
the same reserved block, and it answers queries for its instances as the larger lab does. -/
theorem compile_with_fewer_instances {s : Scenario} {n n' : UInt32} (hle : n ≤ n')
    {inv' : Inventory} (h' : compile { s with instances := n' } = .ok inv') :
    ∃ inv, compile { s with instances := n } = .ok inv
      ∧ inv.guests <+: inv'.guests
      ∧ inv.guestRecords <+: inv'.guestRecords
      ∧ inv.networks <+: inv'.networks
      ∧ inv.reserved? = inv'.reserved?
      ∧ ∀ q : Query, q.instances ≠ [] → (∀ i ∈ q.instances, 1 ≤ i ∧ i ≤ n) →
        inv.resolve q = inv'.resolve q := by
  obtain ⟨root, networks, m'⟩ := compile_eq_ok.mp h'
  obtain ⟨inv, m, b⟩ := m'.exists_begins hle
  obtain ⟨later, hguests, -⟩ := b.guests_split
  have hprefix : inv.guests <+: inv'.guests := ⟨later, hguests.symm⟩
  refine ⟨inv, compile_eq_ok.mpr ⟨root, networks, m⟩, hprefix, hprefix.map _, b.networks_prefix,
    b.reserved?_eq, ?_⟩
  intro q hne hq
  have hinstances : inv.instances = n := m.instances_eq
  exact b.resolve_eq m m' hne (hinstances ▸ hq)

/-- A third instance of the small lab leaves the first two as they are. -/
theorem compile_with_fewer_instances_small : ∃ inv inv', compile .small = .ok inv
    ∧ compile { Scenario.small with instances := 3 } = .ok inv'
    ∧ inv.guests <+: inv'.guests ∧ inv.guestRecords <+: inv'.guestRecords
    ∧ inv.networks <+: inv'.networks ∧ inv.reserved? = inv'.reserved?
    ∧ inv.resolve .small = inv'.resolve .small
    ∧ inv'.resolve .small = .ok ["uni1-lab-2-web-1", "uni1-lab-2-web-3"] := by
  have hrun : (compile { Scenario.small with instances := 3 }).map (fun inv => inv.resolve .small)
      = .ok (.ok ["uni1-lab-2-web-1", "uni1-lab-2-web-3"]) := by decide +kernel
  obtain ⟨inv', h', hanswer⟩ := Attempt.map_eq_ok.mp hrun
  obtain ⟨inv, h, hguests, hrecords, hnetworks, hreserved, hresolve⟩ :=
    compile_with_fewer_instances (show 2 ≤ 3 by decide) h'
  have htwo : ∀ i ∈ Query.small.instances, 1 ≤ i ∧ i ≤ 2 :=
    List.forall_mem_singleton.mpr ⟨by decide, by decide⟩
  exact ⟨inv, inv', h, h', hguests, hrecords, hnetworks, hreserved,
    hresolve .small (List.cons_ne_nil _ _) htwo, hanswer⟩

end Inventory

end RangeLab
