import RangeLab.Proofs.DistinctNames
import RangeLab.Proofs.Faults

/-!
# Names in any spelling

Everything that is made of a scenario is made of slugs. So a scenario with its names in another
spelling is read as the same slugs (`Inventory.Reads.respelled`) and compiles to the same inventory.
The name of a guest or network can also be made from the texts of the scenario, in either spelling,
without compiling it: reading the texts as slugs first or last comes to the same name
(`Inventory.compile_respelled`).
-/

namespace RangeLab

open Ipv4 (Block)

/-! ## Other spellings -/

/-- Texts that have the same slug, if any. -/
def SameSlug (raw raw' : String) : Prop := Slug.ofText? raw = Slug.ofText? raw'

instance (raw raw' : String) : Decidable (SameSlug raw raw') :=
  inferInstanceAs (Decidable (Slug.ofText? raw = Slug.ofText? raw'))

theorem sameSlug_iff {raw raw' : String} :
    SameSlug raw raw' ↔ Slug.letters raw = Slug.letters raw' := by
  constructor
  · intro h
    cases hslug : Slug.ofText? raw with
    | none =>
        have hempty : ∀ {text}, Slug.ofText? text = none → Slug.letters text = [] := by
          intro text hnone
          by_contra hne
          obtain ⟨slug, hsome⟩ := Slug.exists_ofText?.mpr hne
          cases hnone.symm.trans hsome
        rw [hempty hslug, hempty (h.symm.trans hslug)]
    | some slug =>
        rw [Slug.ofText?_eq_some.mp hslug, Slug.ofText?_eq_some.mp (h.symm.trans hslug)]
  · intro h
    refine Option.ext fun slug => ?_
    rw [Slug.ofText?_eq_some, Slug.ofText?_eq_some, h]

/-- The role is declared again under a name with the same slug. -/
structure RoleDeclaration.Respelled (d d' : RoleDeclaration) : Prop where
  name_same : SameSlug d.name d'.name
  rest_eq : { d with name := d'.name } = d'

/-- The network is declared again with its name and those of its members in another spelling. -/
structure NetworkDeclaration.Respelled (d d' : NetworkDeclaration) : Prop where
  name_same : SameSlug d.name d'.name
  members_same : List.Forall₂ SameSlug d.members d'.members

/-- The second scenario is the first one with its names in another spelling. -/
structure Scenario.Respelled (s s' : Scenario) : Prop where
  institution_same : SameSlug s.institution s'.institution
  lab_same : SameSlug s.lab s'.lab
  roles_respelled : List.Forall₂ RoleDeclaration.Respelled s.roles s'.roles
  networks_respelled : List.Forall₂ NetworkDeclaration.Respelled s.networks s'.networks
  rest_eq : { s with institution := s'.institution, lab := s'.lab, roles := s'.roles
                     networks := s'.networks } = s'

/-! ## The same slugs -/

theorem LabId.read_of_sameSlug {institution institution' lab lab' : String} {id : LabId}
    (hinstitution : SameSlug institution institution') (hlab : SameSlug lab lab')
    (h : LabId.read institution lab = .ok id) : LabId.read institution' lab' = .ok id := by
  rw [read_eq_ok, ← sameSlug_iff.mp hinstitution, ← sameSlug_iff.mp hlab]
  exact read_eq_ok.mp h

theorem RoleDeclaration.toRole_of_respelled {d d' : RoleDeclaration} {role : Role}
    (hd : d.Respelled d') (h : d.toRole = .ok role) : d'.toRole = .ok role := by
  obtain ⟨hname, hrest⟩ := toRole_eq_ok.mp h
  rw [toRole_eq_ok, ← sameSlug_iff.mp hd.name_same, ← hd.rest_eq]
  exact ⟨hname, hrest⟩

theorem NetworkDeclaration.toSlugs_of_respelled {d d' : NetworkDeclaration}
    {slugs : Slug × List Slug} (hd : d.Respelled d') (h : d.toSlugs = .ok slugs) :
    d'.toSlugs = .ok slugs := by
  have hmembers : d.members.map Slug.letters = d'.members.map Slug.letters :=
    map_eq_of_forall₂ hd.members_same fun _ _ => sameSlug_iff.mp
  rw [toSlugs_eq_ok, ← sameSlug_iff.mp hd.name_same, ← hmembers]
  exact toSlugs_eq_ok.mp h

namespace Inventory

variable {s s' : Scenario} {root : Block} {networks : List (Slug × List Slug)} {inv : Inventory}

theorem Reads.respelled {id : LabId} {roles : List Role} (hs : s.Respelled s')
    (r : Reads s id root roles networks) : Reads s' id root roles networks where
  id_read := LabId.read_of_sameSlug hs.institution_same hs.lab_same r.id_read
  id_check := r.id_check
  root_read := by
    rw [← hs.rest_eq]
    exact r.root_read
  roles_read := by
    have hread := Attempt.mapM_eq_ok.mp r.roles_read
    refine Attempt.mapM_eq_ok.mpr ((forall₂_comp hs.roles_respelled.flip hread).imp ?_)
    rintro d' role ⟨d, hd, hrole⟩
    exact RoleDeclaration.toRole_of_respelled hd hrole
  networks_read := by
    have hread := Attempt.mapM_eq_ok.mp r.networks_read
    refine Attempt.mapM_eq_ok.mpr ((forall₂_comp hs.networks_respelled.flip hread).imp ?_)
    rintro d' slugs ⟨d, hd, hslugs⟩
    exact NetworkDeclaration.toSlugs_of_respelled hd hslugs
  admissible := r.admissible

theorem MadeFrom.respelled (hs : s.Respelled s') (m : MadeFrom s root networks inv) :
    MadeFrom s' root networks inv := by
  have hrest := hs.rest_eq
  have hreads := m.toReads.respelled hs
  rw [← hrest] at hreads ⊢
  exact {
    toReads := hreads
    topology_eq := m.topology_eq
    plan_made := m.plan_made
    networks_eq := m.networks_eq
    guests_furnished := m.guests_furnished
    services_eq := m.services_eq
    instances_eq := m.instances_eq
    randomSeed_eq := m.randomSeed_eq }

end Inventory

/-! ## Names from texts -/

theorem machineName_eq_ok {institution lab base : String} {id : LabId} {slug : Slug}
    (hid : LabId.read institution lab = .ok id) (hbase : Slug.letters base = slug.chars)
    (i copy copies : UInt32) :
    machineName institution lab i base copy copies = .ok (id.machineName i slug copy copies) :=
  Attempt.bind_eq_ok.mpr ⟨id, hid, Attempt.bind_eq_ok.mpr ⟨slug, Slug.read_eq_ok.mpr hbase, rfl⟩⟩

theorem networkName_eq_ok {institution lab base : String} {id : LabId} {slug : Slug}
    (hid : LabId.read institution lab = .ok id) (hbase : Slug.letters base = slug.chars)
    (i : UInt32) : networkName institution lab i base = .ok (id.networkName i slug) :=
  Attempt.bind_eq_ok.mpr ⟨id, hid, Attempt.bind_eq_ok.mpr ⟨slug, Slug.read_eq_ok.mpr hbase, rfl⟩⟩

/-- The guest is the copy of a role in an instance, the role named by any text. -/
def Guest.IsOf (g : Guest) (i : UInt32) (role : String) (copy : UInt32) : Prop :=
  g.instanceNumber = i ∧ Slug.ofText? role = some g.role.name ∧ g.copy = copy

/-- The network is that of an instance for a declared one, which is named by any text. -/
def Network.IsOf (n : Network) (i : UInt32) (network : String) : Prop :=
  n.instanceNumber = i ∧ Slug.ofText? network = some n.base

/-- The texts of a scenario make the names of a lab: that of the one guest of each instance, role
and copy, and that of the one network of each instance and declared network. -/
structure Inventory.NamedBy (inv : Inventory) (s : Scenario) : Prop where
  guest_named : ∀ i, 1 ≤ i → i ≤ s.instances → ∀ d ∈ s.roles, ∀ copy, 1 ≤ copy →
    copy.toNat ≤ max 1 d.copies.toNat →
    ∃ g ∈ inv.guests, (∀ g' ∈ inv.guests, g'.IsOf i d.name copy ↔ g' = g)
      ∧ (machineName s.institution s.lab i d.name copy d.copies).map MachineName.render
        = .ok g.name
  network_named : ∀ i, 1 ≤ i → i ≤ s.instances → ∀ d ∈ s.networks,
    ∃ n ∈ inv.networks, (∀ n' ∈ inv.networks, n'.IsOf i d.name ↔ n' = n)
      ∧ networkName s.institution s.lab i d.name = .ok n.name

namespace Inventory

namespace MadeFrom

variable {s : Scenario} {root : Block} {networks : List (Slug × List Slug)} {inv : Inventory}

theorem guest_of_isOf (m : MadeFrom s root networks inv) {g g' : Guest} (hg : g ∈ inv.guests)
    (hg' : g' ∈ inv.guests) {i copy : UInt32} {role : String} (h : g.IsOf i role copy)
    (h' : g'.IsOf i role copy) : g' = g := by
  obtain ⟨hinstance, hrole, hcopy⟩ := h
  obtain ⟨hinstance', hrole', hcopy'⟩ := h'
  have hname := Option.some.inj (hrole'.symm.trans hrole)
  refine List.inj_on_of_nodup_map m.nodup_keys hg' hg ?_
  rw [Guest.key, Guest.key, hinstance, hinstance', hname, hcopy, hcopy']

theorem name_of_network (m : MadeFrom s root networks inv) {n : Network} (hn : n ∈ inv.networks) :
    n.name = inv.id.networkName n.instanceNumber n.base := by
  obtain ⟨i, block, segment, -, -, -, rfl⟩ := m.mem_networks.mp hn
  rfl

theorem network_of_isOf (m : MadeFrom s root networks inv) {n n' : Network}
    (hn : n ∈ inv.networks) (hn' : n' ∈ inv.networks) {i : UInt32} {base : String}
    (h : n.IsOf i base) (h' : n'.IsOf i base) : n' = n := by
  have hbase := Option.some.inj (h'.2.symm.trans h.2)
  refine List.inj_on_of_nodup_map m.nodup_network_names hn' hn ?_
  rw [m.name_of_network hn, m.name_of_network hn', h.1, h'.1, hbase]

theorem namedBy (m : MadeFrom s root networks inv) : inv.NamedBy s where
  guest_named i hone hle d hd copy hcopy hcopies := by
    obtain ⟨role, hrole, hread⟩ := exists_right_of_forall₂ (Attempt.mapM_eq_ok.mp m.roles_read) hd
    obtain ⟨hletters, hrest⟩ := RoleDeclaration.toRole_eq_ok.mp hread
    have hcount : copy ≤ role.guestCount := by
      rw [UInt32.le_iff_toNat_le, Role.toNat_guestCount, hrest]
      exact hcopies
    obtain ⟨g, hg, rfl, rfl, rfl⟩ :=
      m.exists_guest ⟨hone, m.instances_eq ▸ hle⟩ hrole ⟨hcopy, hcount⟩
    have hof : g.IsOf g.instanceNumber d.name g.copy :=
      ⟨rfl, Slug.ofText?_eq_some.mpr hletters, rfl⟩
    refine ⟨g, hg, fun g' hg' => ⟨m.guest_of_isOf hg hg' hof, fun heq => heq ▸ hof⟩, ?_⟩
    rw [machineName_eq_ok m.id_read hletters, m.name_of_guest hg, hrest]
    rfl
  network_named i hone hle d hd := by
    obtain ⟨index, hindex⟩ := List.getElem?_of_mem hd
    have hentry := List.mk_mem_zipIdx_iff_getElem?.mpr hindex
    have hpair := List.pair_mem_product.mpr
      ⟨List.mem_range'_1.mpr ⟨hone, Nat.lt_one_add_iff.mpr hle⟩, hentry⟩
    obtain ⟨n, hn, hinstance, hname, -⟩ := exists_right_of_forall₂ m.networks_in_order hpair
    have hof : n.IsOf i d.name := ⟨UInt32.toNat_inj.mp hinstance, hname⟩
    refine ⟨n, hn, fun n' hn' => ⟨m.network_of_isOf hn hn' hof, fun heq => heq ▸ hof⟩, ?_⟩
    rw [networkName_eq_ok m.id_read (Slug.ofText?_eq_some.mp hname), m.name_of_network hn, hof.1]

end MadeFrom

/-- Spelling does not matter: a scenario with its names in another spelling compiles to the same
inventory, and the texts of either make the names of its guests and networks. -/
theorem compile_respelled {s s' : Scenario} {inv : Inventory} (h : compile s = .ok inv)
    (hs : s.Respelled s') : compile s' = .ok inv ∧ inv.NamedBy s ∧ inv.NamedBy s' := by
  obtain ⟨root, networks, m⟩ := compile_eq_ok.mp h
  have m' := m.respelled hs
  exact ⟨compile_eq_ok.mpr ⟨root, networks, m'⟩, m.namedBy, m'.namedBy⟩

/-- The small lab in another spelling. -/
def smallRespelled : Scenario :=
  { Scenario.small with
    institution := "UNI-1"
    lab := "L.a.b"
    roles := [{ name := "Web", copies := 3 }, { name := "database" }]
    networks := [{ name := "DMZ", members := ["w e b"] },
      { name := "Lan!", members := ["Data-Base", "web"] }] }

/-- The third web server of the second instance is named from the texts of the other spelling. -/
theorem compile_respelled_small : ∃ inv, compile .small = .ok inv ∧ compile smallRespelled = .ok inv
    ∧ inv.NamedBy .small ∧ inv.NamedBy smallRespelled
    ∧ ∃ g ∈ inv.guests, g.name = "uni1-lab-2-web-3" ∧ g.IsOf 2 "Web" 3
      ∧ (machineName "UNI-1" "L.a.b" 2 "Web" 3 3).map MachineName.render = .ok g.name := by
  have hrun : (compile .small).map (fun inv => inv.instances) = .ok 2 := by decide +kernel
  obtain ⟨inv, h, -⟩ := Attempt.map_eq_ok.mp hrun
  have hroles : List.Forall₂ RoleDeclaration.Respelled Scenario.small.roles smallRespelled.roles :=
    .cons ⟨by decide +kernel, rfl⟩ (.cons ⟨by decide +kernel, rfl⟩ .nil)
  have hlan : List.Forall₂ SameSlug ["database", "WEB"] ["Data-Base", "web"] :=
    .cons (by decide +kernel) (.cons (by decide +kernel) .nil)
  have hnetworks : List.Forall₂ NetworkDeclaration.Respelled Scenario.small.networks
      smallRespelled.networks :=
    .cons ⟨by decide +kernel, .cons (by decide +kernel) .nil⟩
      (.cons ⟨by decide +kernel, hlan⟩ .nil)
  have hspelling : Scenario.small.Respelled smallRespelled :=
    ⟨by decide +kernel, by decide +kernel, hroles, hnetworks, rfl⟩
  obtain ⟨h', hnamed, hnamed'⟩ := compile_respelled h hspelling
  obtain ⟨g, hg, hof, hname⟩ := hnamed'.guest_named 2 (by decide) (by decide)
    { name := "Web", copies := 3 } List.mem_cons_self 3 (by decide) (by decide)
  refine ⟨inv, h, h', hnamed, hnamed', g, hg, ?_, (hof g hg).mpr rfl, hname⟩
  have hwritten : (machineName "UNI-1" "L.a.b" 2 "Web" 3 3).map MachineName.render
      = .ok "uni1-lab-2-web-3" := by decide +kernel
  exact Except.ok.inj (hname.symm.trans hwritten)

end Inventory

end RangeLab
