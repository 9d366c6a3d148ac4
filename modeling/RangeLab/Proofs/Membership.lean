import RangeLab.Proofs.Interfaces
import RangeLab.Record

/-!
# Members as they are declared and as they are listed

A network is declared with each of its members once. In a topology a member stands once for every
guest that an instance has of it, and in the record of a network it is listed once again. The record
undoes the expansion whatever is declared (`NetworkDeclaration.Expands.eraseDups`): the members of a
network are different roles, and no role has so few copies that nothing is left of it.
-/

namespace RangeLab

open Ipv4 (Block)

/-- What a declared network has for members: a role of the lab for each text, the roles all
different, and in the expanded list a run of each, as long as its number of copies asks for. -/
structure NetworkDeclaration.Expands (d : NetworkDeclaration) (roles attached : List Role)
    (members : List Slug) : Prop where
  read_as : List.Forall₂ (fun text role => role ∈ roles ∧ Slug.ofText? text = some role.name)
    d.members attached
  nodup : (attached.map Role.name).Nodup
  members_eq :
    members = attached.flatMap fun role => List.replicate (max 1 role.copies.toNat) role.name

namespace NetworkDeclaration

variable {d : NetworkDeclaration} {roles attached : List Role} {members : List Slug}

theorem Expands.eraseDups (h : d.Expands roles attached members) :
    members.eraseDups = attached.map Role.name := by
  rw [h.members_eq]
  exact eraseDups_flatMap_replicate h.nodup fun role _ => Nat.le_max_left 1 _

/-- Members that are declared roles expand to the runs of these roles. -/
theorem exists_expands (hroles : (roles.map Role.name).Nodup)
    (hdeclared : ∀ member ∈ members, member ∈ roles.map Role.name) (hnd : members.Nodup)
    (hread : d.members.map Slug.letters = members.map Slug.chars) :
    ∃ attached, d.Expands roles attached (Topology.expandMembers roles members) := by
  have hrole : ∀ member ∈ members, ∃ role, role ∈ roles ∧ role.name = member :=
    fun member hmem => List.mem_map.mp (hdeclared member hmem)
  obtain ⟨attached, hattached⟩ := exists_forall₂_iff.mpr hrole
  have hnames : members = attached.map Role.name := by
    rw [← List.map_id members]
    exact map_eq_of_forall₂ hattached fun _ _ h => h.2.symm
  refine ⟨attached, ?_, hnames ▸ hnd, ?_⟩
  · rw [← List.forall₂_eq_eq_eq, List.forall₂_map_left_iff, List.forall₂_map_right_iff] at hread
    refine (forall₂_comp hread hattached).imp ?_
    rintro text role ⟨member, hletters, hmem, rfl⟩
    exact ⟨hmem, Slug.ofText?_eq_some.mpr hletters⟩
  · rw [Topology.expandMembers, hnames, List.flatMap_map]
    refine List.flatMap_congr fun role hmem => ?_
    obtain ⟨member, -, hdeclared, -⟩ := exists_left_of_forall₂ hattached hmem
    rw [Topology.guestCountOf_name hroles hdeclared, Role.toNat_guestCount]

end NetworkDeclaration

namespace Inventory

namespace MadeFrom

variable {s : Scenario} {root : Block} {networks : List (Slug × List Slug)} {inv : Inventory}

/-- The segments are the expansions of the declared networks, one for each. -/
theorem segments_expand (m : MadeFrom s root networks inv) :
    List.Forall₂ (fun d segment => Slug.ofText? d.name = some segment.name
        ∧ ∃ attached, d.Expands inv.topology.roles attached segment.members)
      s.networks inv.topology.segments := by
  have hread := forall₂_comp (Attempt.mapM_eq_ok.mp m.networks_read)
    ((List.forall₂_and_left _ _).mpr
      ⟨fun _ h => h, @Topology.forall₂_segments_expand inv.topology.roles networks⟩)
  rw [← m.topology_eq] at hread
  refine hread.imp ?_
  rintro d segment ⟨n, hn, hmem, hname, hmembers⟩
  obtain ⟨hletters, hletters'⟩ := NetworkDeclaration.toSlugs_eq_ok.mp hn
  rw [hname, hmembers]
  exact ⟨Slug.ofText?_eq_some.mpr hletters,
    NetworkDeclaration.exists_expands m.admissible.roles_nodup
      (m.admissible.members_declared n hmem) (m.admissible.members_nodup n hmem) hletters'⟩

end MadeFrom

/-- Every declared network has a segment, and every network of an instance is that of a declared
one. Its members are the declared ones in their order, each repeated as often as its role has
copies, once if it has none; the record of the network lists the slugs that are declared, in their
order and each once. The segments of a role are those of the networks that declare it. -/
theorem members_listed_once {s : Scenario} {inv : Inventory} (h : compile s = .ok inv) :
    s.roles.mapM RoleDeclaration.toRole = .ok inv.topology.roles
    ∧ List.Forall₂ (fun d segment => Slug.ofText? d.name = some segment.name
        ∧ ∃ attached, d.Expands inv.topology.roles attached segment.members
          ∧ segment.members.eraseDups = attached.map Role.name)
      s.networks inv.topology.segments
    ∧ (∀ n ∈ inv.networks, ∃ d ∈ s.networks, Slug.ofText? d.name = some n.base
      ∧ ∃ attached, d.Expands inv.topology.roles attached n.members
        ∧ n.toRecord.members = attached.map (fun role => role.name.text))
    ∧ ∀ role, List.Forall₂ (fun d segment => Slug.ofText? d.name = some segment.name)
      (s.networks.filter fun d => d.members.any fun text => Slug.ofText? text == some role)
      (inv.topology.segmentsOf role) := by
  obtain ⟨root, networks, m⟩ := compile_eq_ok.mp h
  refine ⟨m.roles_read, ?_, ?_, ?_⟩
  · refine m.segments_expand.imp ?_
    rintro d segment ⟨hname, attached, hexpands⟩
    exact ⟨hname, attached, hexpands, hexpands.eraseDups⟩
  · intro n hn
    obtain ⟨i, block, segment, hsegment, -, -, rfl⟩ := m.mem_networks.mp hn
    obtain ⟨d, hd, hname, attached, hexpands⟩ := exists_left_of_forall₂ m.segments_expand hsegment
    refine ⟨d, hd, hname, attached, hexpands, ?_⟩
    show segment.members.eraseDups.map Slug.text = _
    rw [hexpands.eraseDups, List.map_map]
    rfl
  · intro role
    have hread : ∀ text, (Slug.ofText? text == some role) = (Slug.letters text == role.chars) := by
      intro text
      rw [Bool.eq_iff_iff, beq_iff_eq, beq_iff_eq, Slug.ofText?_eq_some]
    simp only [hread, Slug.ofText?_eq_some]
    exact m.networksOf_segmentsOf role

/-- The small lab with a role of no copies on its first network. -/
def guarded : Scenario :=
  { Scenario.small with
    roles := { name := "gate", copies := 0 } :: Scenario.small.roles
    networks := [{ name := "dmz", members := ["web", "G.A.T.E"] }] }

/-- The three web servers and the one gate stand in a network of the second instance, and its record
lists the two roles. -/
theorem members_listed_once_guarded : ∃ inv n, compile guarded = .ok inv ∧ n ∈ inv.networks
    ∧ n.name = "uni1-lab-2-dmz" ∧ n.members.map Slug.text = ["web", "web", "web", "gate"]
    ∧ n.toRecord.members = ["web", "gate"]
    ∧ ∃ d ∈ guarded.networks, Slug.ofText? d.name = some n.base
      ∧ ∃ attached, d.Expands inv.topology.roles attached n.members
        ∧ attached.map (fun role => role.name.text) = ["web", "gate"] := by
  have hrun : (compile guarded).map (fun inv => inv.networks.map fun n =>
        (n.name, n.members.map Slug.text, n.toRecord.members))
      = .ok [("uni1-lab-1-dmz", ["web", "web", "web", "gate"], ["web", "gate"]),
        ("uni1-lab-2-dmz", ["web", "web", "web", "gate"], ["web", "gate"])] := by decide +kernel
  obtain ⟨inv, h, heq⟩ := Attempt.map_eq_ok.mp hrun
  obtain ⟨n, hn, hfacts⟩ := List.mem_map.mp
    (heq ▸ List.mem_cons_of_mem _ (List.mem_singleton_self _))
  simp only [Prod.mk.injEq] at hfacts
  obtain ⟨hname, hmembers, hrecord⟩ := hfacts
  obtain ⟨-, -, hnetworks, -⟩ := members_listed_once h
  obtain ⟨d, hd, hbase, attached, hexpands, hlisted⟩ := hnetworks n hn
  exact ⟨inv, n, h, hn, hname, hmembers, hrecord, d, hd, hbase, attached, hexpands,
    hlisted.symm.trans hrecord⟩

end Inventory

end RangeLab
