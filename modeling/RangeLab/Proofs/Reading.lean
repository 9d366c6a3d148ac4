import RangeLab.Proofs.Lists
import RangeLab.Proofs.Name
import RangeLab.Proofs.Topology
import RangeLab.Scenario

/-!
# Reading declarations

A declaration is read iff its names have letters, and then the slugs have just these letters. So of
names in any spelling and of the slugs that they are read as, the same can be said
(`Scenario.Spells`).
-/

namespace RangeLab

/-- The characters of a slug, which are the letters of every text that is read as it. -/
abbrev Slug.chars (s : Slug) : List Char := s.text.toList

theorem Slug.chars_injective : Function.Injective Slug.chars := fun _ _ h => toList_text_inj.mp h

theorem RoleDeclaration.toRole_eq_ok {d : RoleDeclaration} {r : Role} :
    d.toRole = .ok r ↔ Slug.letters d.name = r.name.chars ∧ r = { r with
      sizing := d.sizing, copies := d.copies, entryPoint := d.entryPoint
      internetAccess := d.internetAccess, os := d.os } := by
  rw [toRole, Attempt.bind_eq_ok]
  constructor
  · rintro ⟨name, hname, h⟩
    obtain rfl := Attempt.pure_eq_ok.mp h
    exact ⟨Slug.read_eq_ok.mp hname, rfl⟩
  · rintro ⟨hname, h⟩
    exact ⟨r.name, Slug.read_eq_ok.mpr hname, Attempt.pure_eq_ok.mpr h.symm⟩

theorem NetworkDeclaration.toSlugs_eq_ok {d : NetworkDeclaration} {n : Slug × List Slug} :
    d.toSlugs = .ok n ↔
      Slug.letters d.name = n.1.chars ∧ d.members.map Slug.letters = n.2.map Slug.chars := by
  have hmembers : ∀ {slugs : List Slug}, d.members.mapM Slug.read = .ok slugs ↔
      d.members.map Slug.letters = slugs.map Slug.chars := by
    intro slugs
    rw [Attempt.mapM_eq_ok, ← List.forall₂_eq_eq_eq, List.forall₂_map_left_iff,
      List.forall₂_map_right_iff]
    simp only [Slug.read_eq_ok]
  rw [toSlugs, Attempt.bind_eq_ok]
  constructor
  · rintro ⟨members, hread, h⟩
    obtain ⟨name, hname, h⟩ := Attempt.bind_eq_ok.mp h
    obtain rfl := Attempt.pure_eq_ok.mp h
    exact ⟨Slug.read_eq_ok.mp hname, hmembers.mp hread⟩
  · rintro ⟨hname, hread⟩
    exact ⟨n.2, hmembers.mpr hread, Attempt.bind_eq_ok.mpr ⟨n.1, Slug.read_eq_ok.mpr hname, rfl⟩⟩

/-- A network that is read has a role as a member iff one of the members has the letters of its
slug. -/
theorem NetworkDeclaration.any_letters_eq {d : NetworkDeclaration} {n : Slug × List Slug}
    (h : d.toSlugs = .ok n) (role : Slug) :
    (d.members.any fun member => Slug.letters member == role.chars) = n.2.contains role := by
  have hmem : role.chars ∈ d.members.map Slug.letters ↔ role ∈ n.2 := by
    rw [(toSlugs_eq_ok.mp h).2]
    exact List.mem_map_of_injective Slug.chars_injective
  rw [Bool.eq_iff_iff, List.contains_iff_mem, ← hmem, List.any_eq_true, List.mem_map]
  simp only [beq_iff_eq]

theorem LabId.read_eq_ok {institution lab : String} {id : LabId} :
    LabId.read institution lab = .ok id ↔
      Slug.letters institution = id.institution.chars ∧ Slug.letters lab = id.lab.chars := by
  rw [LabId.read, Attempt.bind_eq_ok]
  constructor
  · rintro ⟨slug, hslug, h⟩
    obtain ⟨slug', hslug', h⟩ := Attempt.bind_eq_ok.mp h
    obtain rfl := Attempt.pure_eq_ok.mp h
    exact ⟨Slug.read_eq_ok.mp hslug, Slug.read_eq_ok.mp hslug'⟩
  · rintro ⟨h, h'⟩
    exact ⟨_, Slug.read_eq_ok.mpr h, Attempt.bind_eq_ok.mpr ⟨_, Slug.read_eq_ok.mpr h', rfl⟩⟩

theorem LabId.check_eq_ok {id : LabId} :
    id.check = .ok () ↔ id.institution.chars.length + id.lab.chars.length ≤ 252 := by
  rw [check, maxNameLength, ← String.length_toList, ← String.length_toList, Slug.chars, Slug.chars]
  split
  · rename_i h
    exact ⟨nofun, fun hle => by omega⟩
  · rename_i h
    exact ⟨fun _ => by omega, fun _ => rfl⟩

/-! ## All declarations of a scenario -/

/-- Roles and networks whose slugs have the letters of the names that a scenario declares. -/
structure Scenario.Spells (s : Scenario) (roles : List Role) (networks : List (Slug × List Slug)) :
    Prop where
  roles : List.Forall₂
    (fun d r => Slug.letters d.name = r.name.chars ∧ d.copies = r.copies) s.roles roles
  networks : List.Forall₂
    (fun d n => Slug.letters d.name = n.1.chars ∧ d.members.map Slug.letters = n.2.map Slug.chars)
    s.networks networks

theorem Scenario.spells_of_read {s : Scenario} {roles : List Role}
    {networks : List (Slug × List Slug)}
    (hroles : s.roles.mapM RoleDeclaration.toRole = .ok roles)
    (hnetworks : s.networks.mapM NetworkDeclaration.toSlugs = .ok networks) :
    s.Spells roles networks where
  roles := (Attempt.mapM_eq_ok.mp hroles).imp fun d r h => by
    obtain ⟨hname, hr⟩ := RoleDeclaration.toRole_eq_ok.mp h
    rw [hr]
    exact ⟨hname, rfl⟩
  networks := (Attempt.mapM_eq_ok.mp hnetworks).imp fun _ _ => NetworkDeclaration.toSlugs_eq_ok.mp

end RangeLab
