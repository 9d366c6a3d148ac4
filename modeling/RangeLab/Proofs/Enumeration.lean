import RangeLab.Proofs.Machines

/-!
# The order of guests

The guests of a lab are listed by instance, within an instance by role in the order of declaration,
and within a role by copy (`guests_enumerated`). So the place of a guest can be computed: every
instance takes up the same number of places, and within an instance a role takes up as many as it
has copies, or one if it has none.

The list without interfaces is split twice, at an instance (`LabId.guests_eq_append`) and at a role
of the instance (`LabId.getElem?_instanceGuests`). Guests with interfaces stand at the same places.
-/

namespace RangeLab

open Ipv4 (Block)

/-! ## Places -/

/-- The number of guests that an instance has of the roles before a place among the roles. -/
def Topology.guestsBefore (t : Topology) (place : Nat) : Nat :=
  ((t.roles.take place).map fun role => max 1 role.copies.toNat).sum

/-- A guest is the copy of a role in an instance, by its data and by what its name is read as. The
name has the number of the copy in it iff the role has more than one. -/
structure Guest.IsCopy (g : Guest) (i : UInt32) (role : Role) (copy : UInt32) : Prop where
  instance_eq : g.instanceNumber = i
  role_eq : g.role = role
  copy_eq : g.copy = copy
  name_read : ∃ n, MachineName.read g.name = .ok n ∧ n.instanceNumber = i ∧ n.base = role.name
    ∧ n.copyNumber = copy ∧ (n.copy.isSome = true ↔ 1 < role.copies.toNat)

/-! ## Guests without interfaces -/

namespace LabId

variable {id : LabId} {roles : List Role} {i copy instances : UInt32}

/-- The guests of an instance, without interfaces. -/
def instanceGuests (id : LabId) (roles : List Role) (i : UInt32) : List Guest :=
  roles.flatMap fun role => (ordinals role.guestCount).map (id.guest i role)

theorem length_instanceGuests :
    (id.instanceGuests roles i).length = (roles.map fun role => role.guestCount.toNat).sum := by
  simp only [instanceGuests, List.length_flatMap, List.length_map, length_ordinals]

theorem length_flatMap_instanceGuests (l : List UInt32) :
    (l.flatMap (id.instanceGuests roles)).length
      = l.length * (roles.map fun role => role.guestCount.toNat).sum := by
  simp only [List.length_flatMap, length_instanceGuests, List.map_const', List.sum_replicate_nat]

theorem instanceNumber_of_mem_instanceGuests {g : Guest} (h : g ∈ id.instanceGuests roles i) :
    g.instanceNumber = i := by
  obtain ⟨role, -, hg⟩ := List.mem_flatMap.mp h
  obtain ⟨copy, -, rfl⟩ := List.mem_map.mp hg
  rfl

/-- Before the guests of an instance stand those of the instances before it, as many for each. -/
theorem guests_eq_append (id : LabId) (roles : List Role) (hi : 1 ≤ i ∧ i ≤ instances) :
    ∃ before after, id.guests roles instances = before ++ (id.instanceGuests roles i ++ after)
      ∧ before.length = (i.toNat - 1) * (roles.map fun role => role.guestCount.toNat).sum
      ∧ ∀ g ∈ before ++ after, g.instanceNumber ≠ i := by
  have hplace := getElem?_ordinals hi
  have hle : i.toNat ≤ instances.toNat := UInt32.le_iff_toNat_le.mp hi.2
  refine ⟨_, _, guests_eq_flatMap.trans (flatMap_eq_append hplace), ?_, ?_⟩
  · refine (length_flatMap_instanceGuests _).trans ?_
    rw [List.length_take, length_ordinals, Nat.min_eq_left (by omega)]
  · intro g hg heq
    rw [← List.flatMap_append] at hg
    obtain ⟨j, hj, hg⟩ := List.mem_flatMap.mp hg
    have hinstance : g.instanceNumber = j := instanceNumber_of_mem_instanceGuests hg
    rw [← hinstance, heq] at hj
    exact not_mem_rest_of_nodup (nodup_ordinals instances) hplace hj

/-- Within an instance a copy of a role stands behind the guests of the roles before it. -/
theorem getElem?_instanceGuests (id : LabId) (i : UInt32) {place : Nat} {role : Role}
    (hrole : roles[place]? = some role) (hcopy : 1 ≤ copy ∧ copy ≤ role.guestCount) :
    (id.instanceGuests roles i)[((roles.take place).map fun role => role.guestCount.toNat).sum
      + (copy.toNat - 1)]? = some (id.guest i role copy) := by
  have hone : 1 ≤ copy.toNat := UInt32.le_iff_toNat_le.mp hcopy.1
  have hle : copy.toNat ≤ role.guestCount.toNat := UInt32.le_iff_toNat_le.mp hcopy.2
  have hlt : copy.toNat - 1 < ((ordinals role.guestCount).map (id.guest i role)).length := by
    rw [List.length_map, length_ordinals]
    omega
  have hsplit := getElem?_flatMap
    (f := fun role => (ordinals role.guestCount).map (id.guest i role)) hrole hlt
  rw [List.getElem?_map, getElem?_ordinals hcopy] at hsplit
  rw [instanceGuests]
  simpa only [List.length_map, length_ordinals, Option.map_some] using hsplit

theorem isSome_copy_machineName {base : Slug} {copies : UInt32} :
    (id.machineName i base copy copies).copy.isSome = true ↔ 1 < copies.toNat := by
  unfold machineName
  by_cases h : copies > 1
  · rw [if_pos h]
    exact iff_of_true rfl (UInt32.lt_iff_toNat_lt.mp h)
  · rw [if_neg h]
    exact iff_of_false Bool.false_ne_true fun hlt => h (UInt32.lt_iff_toNat_lt.mpr hlt)

end LabId

/-! ## The guests of a lab -/

theorem Topology.guestsPerInstance_eq (t : Topology) :
    t.guestsPerInstance = (t.roles.map fun role => role.guestCount.toNat).sum := rfl

theorem Topology.guestsBefore_eq (t : Topology) (place : Nat) :
    t.guestsBefore place = ((t.roles.take place).map fun role => role.guestCount.toNat).sum := by
  simp only [guestsBefore, Role.toNat_guestCount]

namespace Inventory

theorem Furnished.coordinates_eq {t : Topology} {plan : AddressPlan} {id : LabId}
    {indexOffset : UInt32} {bare g : Guest} (h : Furnished t plan id indexOffset bare g) :
    g.name = bare.name ∧ g.instanceNumber = bare.instanceNumber ∧ g.role = bare.role
      ∧ g.copy = bare.copy := by
  obtain ⟨table, -, rfl⟩ := h
  exact ⟨rfl, rfl, rfl, rfl⟩

namespace MadeFrom

variable {s : Scenario} {root : Block} {networks : List (Slug × List Slug)} {inv : Inventory}
variable {i copy : UInt32} {role : Role}

theorem length_guests (m : MadeFrom s root networks inv) :
    inv.guests.length = inv.instances.toNat * inv.topology.guestsPerInstance := by
  rw [← m.guests_furnished.length_eq, LabId.guests_eq_flatMap, ← m.instances_eq,
    Topology.guestsPerInstance_eq]
  refine (LabId.length_flatMap_instanceGuests _).trans ?_
  rw [length_ordinals]

/-- The guests by instance, role and copy, each as a number or as it is declared. -/
theorem map_guests (m : MadeFrom s root networks inv) :
    (inv.guests.map fun g => (g.instanceNumber.toNat, g.role, g.copy.toNat))
      = (List.range' 1 inv.instances.toNat).flatMap fun i =>
          inv.topology.roles.flatMap fun role =>
            (List.range' 1 (max 1 role.copies.toNat)).map fun copy => (i, role, copy) := by
  have hbare : (inv.guests.map fun g => (g.instanceNumber.toNat, g.role, g.copy.toNat))
      = (inv.id.guests inv.topology.roles s.instances).map fun g =>
          (g.instanceNumber.toNat, g.role, g.copy.toNat) := by
    refine (map_eq_of_forall₂ m.guests_furnished fun bare g h => ?_).symm
    obtain ⟨-, hinstance, hrole, hcopy⟩ := h.coordinates_eq
    rw [hinstance, hrole, hcopy]
  rw [hbare, LabId.guests_eq_flatMap, ← m.instances_eq]
  simp only [← map_toNat_ordinals, ← Role.toNat_guestCount, List.map_flatMap, List.map_map,
    List.flatMap_map]
  rfl

/-- The guests of an instance stand behind those of the instances before it. -/
theorem guests_eq_append (m : MadeFrom s root networks inv) (hi : 1 ≤ i ∧ i ≤ inv.instances) :
    ∃ before own after, inv.guests = before ++ (own ++ after)
      ∧ before.length = (i.toNat - 1) * inv.topology.guestsPerInstance
      ∧ List.Forall₂ (Furnished inv.topology inv.plan inv.id s.indexOffset)
        (inv.id.instanceGuests inv.topology.roles i) own
      ∧ (∀ g ∈ own, g.instanceNumber = i) ∧ ∀ g ∈ before ++ after, g.instanceNumber ≠ i := by
  obtain ⟨bares, rest, hsplit, hlength, hother⟩ :=
    inv.id.guests_eq_append inv.topology.roles (m.instances_eq ▸ hi)
  have hall := m.guests_furnished
  rw [hsplit] at hall
  obtain ⟨before, own_after, hguests, hbefore, hall⟩ := forall₂_append_left hall
  obtain ⟨own, after, rfl, hown, hafter⟩ := forall₂_append_left hall
  refine ⟨before, own, after, hguests, hbefore.length_eq ▸ hlength, hown, fun g hg => ?_, ?_⟩
  · obtain ⟨bare, hbare, h⟩ := exists_left_of_forall₂ hown hg
    rw [h.coordinates_eq.2.1]
    exact LabId.instanceNumber_of_mem_instanceGuests hbare
  · intro g hg
    obtain ⟨bare, hbare, h⟩ := exists_left_of_forall₂ (List.rel_append hbefore hafter) hg
    rw [h.coordinates_eq.2.1]
    exact hother bare hbare

theorem guestsOfInstance_eq (m : MadeFrom s root networks inv) (hi : 1 ≤ i ∧ i ≤ inv.instances) :
    inv.guestsOfInstance i = (inv.guests.drop ((i.toNat - 1) * inv.topology.guestsPerInstance)).take
        inv.topology.guestsPerInstance
      ∧ (inv.guestsOfInstance i).length = inv.topology.guestsPerInstance := by
  obtain ⟨before, own, after, hguests, hbefore, hown, hin, hout⟩ := m.guests_eq_append hi
  have hlength : own.length = inv.topology.guestsPerInstance :=
    hown.length_eq.symm.trans LabId.length_instanceGuests
  have hfilter : inv.guestsOfInstance i = own := by
    have hnone : ∀ l, l ⊆ before ++ after → l.filter (fun g => g.instanceNumber == i) = [] := by
      intro l hl
      exact List.filter_eq_nil_iff.mpr fun g hg => by simpa using hout g (hl hg)
    rw [guestsOfInstance, hguests, List.filter_append, List.filter_append,
      hnone before (List.subset_append_left _ _), hnone after (List.subset_append_right _ _),
      List.filter_eq_self.mpr fun g hg => beq_iff_eq.mpr (hin g hg), List.nil_append,
      List.append_nil]
  rw [hfilter, hguests, List.drop_left' hbefore, List.take_left' hlength]
  exact ⟨rfl, hlength⟩

theorem getElem?_guests (m : MadeFrom s root networks inv) (hi : 1 ≤ i ∧ i ≤ inv.instances)
    {place : Nat} (hrole : inv.topology.roles[place]? = some role)
    (hcopy : 1 ≤ copy ∧ copy ≤ role.guestCount) :
    ∃ g, inv.guests[(i.toNat - 1) * inv.topology.guestsPerInstance
        + (inv.topology.guestsBefore place + (copy.toNat - 1))]? = some g
      ∧ Furnished inv.topology inv.plan inv.id s.indexOffset (inv.id.guest i role copy) g := by
  obtain ⟨before, own, after, hguests, hbefore, hown, -⟩ := m.guests_eq_append hi
  have hbare := inv.id.getElem?_instanceGuests i hrole hcopy
  rw [← Topology.guestsBefore_eq] at hbare
  obtain ⟨g, hg, h⟩ := exists_getElem?_of_forall₂ hown hbare
  refine ⟨g, ?_, h⟩
  have hlt := (List.getElem?_eq_some_iff.mp hg).1
  rw [hguests, ← hbefore, List.getElem?_append_right (Nat.le_add_right _ _),
    Nat.add_sub_cancel_left, List.getElem?_append_left hlt, hg]

/-- A guest that is furnished is still the copy of a role that it was made as. -/
theorem isCopy_of_furnished (m : MadeFrom s root networks inv) {g : Guest} (hg : g ∈ inv.guests)
    (hi : 1 ≤ i) (hcopy : 1 ≤ copy)
    (h : Furnished inv.topology inv.plan inv.id s.indexOffset (inv.id.guest i role copy) g) :
    g.IsCopy i role copy := by
  obtain ⟨hname, hinstance, hrole, hcopies⟩ := h.coordinates_eq
  have hsingle : role.copies ≤ 1 → copy = 1 := by
    intro hle
    exact hcopies.symm.trans (m.copy_of_isSingleton hg (hrole ▸ hle))
  refine { instance_eq := hinstance, role_eq := hrole, copy_eq := hcopies, name_read := ?_ }
  refine ⟨inv.id.machineName i role.name copy role.copies, ?_, rfl, rfl,
    inv.id.copyNumber_machineName hsingle, LabId.isSome_copy_machineName⟩
  rw [hname, MachineName.read_eq_ok]
  exact inv.id.parse?_machineName hi hcopy

end MadeFrom

/-! ## The enumeration -/

/-- The guests of a lab are the copies of the declared roles in each instance: by instance, then by
role in the order of declaration, then by copy. Each stands at the place that its instance, the
place of its role and its copy give, and an instance has the guests from one place on. -/
theorem guests_enumerated {s : Scenario} {inv : Inventory} (h : compile s = .ok inv) :
    inv.instances = s.instances ∧ s.roles.mapM RoleDeclaration.toRole = .ok inv.topology.roles
    ∧ (inv.guests.map fun g => (g.instanceNumber.toNat, g.role, g.copy.toNat))
      = ((List.range' 1 inv.instances.toNat).flatMap fun i =>
          inv.topology.roles.flatMap fun role =>
            (List.range' 1 (max 1 role.copies.toNat)).map fun copy => (i, role, copy))
    ∧ inv.guests.length = inv.instances.toNat * inv.topology.guestsPerInstance
    ∧ ∀ i, 1 ≤ i → i ≤ inv.instances →
      (∀ place role copy, inv.topology.roles[place]? = some role → 1 ≤ copy →
        copy.toNat ≤ max 1 role.copies.toNat →
        ∃ g, inv.guests[(i.toNat - 1) * inv.topology.guestsPerInstance
            + inv.topology.guestsBefore place + (copy.toNat - 1)]? = some g
          ∧ g.IsCopy i role copy)
      ∧ inv.guestsOfInstance i
        = (inv.guests.drop ((i.toNat - 1) * inv.topology.guestsPerInstance)).take
          inv.topology.guestsPerInstance
      ∧ (inv.guestsOfInstance i).length = inv.topology.guestsPerInstance := by
  obtain ⟨root, networks, m⟩ := compile_eq_ok.mp h
  refine ⟨m.instances_eq, m.roles_read, m.map_guests, m.length_guests, fun i hone hle => ?_⟩
  refine ⟨fun place role copy hrole hcopy hcopies => ?_, m.guestsOfInstance_eq ⟨hone, hle⟩⟩
  rw [← Role.toNat_guestCount, ← UInt32.le_iff_toNat_le] at hcopies
  obtain ⟨g, hg, hfurnished⟩ := m.getElem?_guests ⟨hone, hle⟩ hrole ⟨hcopy, hcopies⟩
  rw [← Nat.add_assoc] at hg
  exact ⟨g, hg, m.isCopy_of_furnished (List.mem_of_getElem? hg) hone hcopy hfurnished⟩

/-- The small lab with a role of no copies declared first. -/
def gated : Scenario :=
  { Scenario.small with roles := { name := "gate", copies := 0 } :: Scenario.small.roles }

/-- The last web server of the second instance stands behind the five guests of the first one and
behind one gate and two web servers of its own. -/
theorem guests_enumerated_gated : ∃ inv, compile gated = .ok inv
    ∧ inv.topology.guestsPerInstance = 5 ∧ inv.guests.length = 2 * 5
    ∧ inv.guestsOfInstance 2 = (inv.guests.drop 5).take 5
    ∧ ∃ role g, inv.guests[5 + 1 + 2]? = some g ∧ g.IsCopy 2 role 3
      ∧ g.name = "uni1-lab-2-web-3" := by
  have hrun : (compile gated).map (fun inv =>
      (inv.instances, inv.topology.guestsPerInstance, inv.topology.guestsBefore 1,
        inv.topology.roles[1]?.map Role.copies, inv.guests[5 + 1 + 2]?.map Guest.name))
      = .ok (2, 5, 1, some 3, some "uni1-lab-2-web-3") := by decide +kernel
  obtain ⟨inv, h, heq⟩ := Attempt.map_eq_ok.mp hrun
  simp only [Prod.mk.injEq, Option.map_eq_some_iff] at heq
  obtain ⟨htwo, hfive, hbefore, ⟨role, hrole, hcopies⟩, g, hg, hname⟩ := heq
  obtain ⟨-, -, -, hlength, hall⟩ := guests_enumerated h
  obtain ⟨hplaces, hslice, -⟩ := hall 2 (by decide) (htwo ▸ UInt32.le_refl 2)
  obtain ⟨g', hg', hcopy⟩ := hplaces 1 role 3 hrole (by decide) (by rw [hcopies]; decide)
  rw [htwo, hfive] at hlength
  rw [hfive] at hslice
  rw [hfive, hbefore] at hg'
  obtain rfl := Option.some.inj (hg.symm.trans hg')
  exact ⟨inv, h, hfive, hlength, hslice, role, g, hg, hcopy, hname⟩

end Inventory

end RangeLab
