import Mathlib.Data.List.ProdSigma
import RangeLab.Proofs.Capacity
import RangeLab.Proofs.Partition
import RangeLab.Proofs.Reading

/-!
# What a scenario is refused for

Each stage that makes an inventory has faults of its own. Here they are sorted: a fault is *plain*
unless it is about a setting or about a role that is not a member of a network. Of the others, two
can be met: a role with too many copies and an interface whose index does not fit in a word
(`Scenario.HasBadSetting`).

The rest cannot. A guest is attached only to networks that its role is a member of, and when there
is a guest and a network, the plan has a block for the network in the guest's instance
(`AddressPlan.exists_subnet?_of_make`). For the same reason the list of networks has no gaps
(`Inventory.nothing_missing`).
-/

namespace RangeLab

open Ipv4 (Address Block)

/-! ## Faults by stage -/

/-- A fault that is neither about a setting nor about a role that is missing from a network. -/
def Fault.IsPlain : Fault → Prop
  | .memberNotFound _ _ | .badSetting _ => False
  | _ => True

theorem Fault.isPlain_of_mapError {ε α : Type} {f : ε → Fault} {x : Except ε α} {fault : Fault}
    (h : x.mapError f = .error fault) (hf : ∀ cause, (f cause).IsPlain) : fault.IsPlain := by
  obtain ⟨cause, -, rfl⟩ := Attempt.mapError_eq_error.mp h
  exact hf cause

namespace Topology

theorem isPlain_of_checkUnique {kind : NameKind} {names : List Slug} {fault : Fault}
    (h : checkUnique kind names = .error fault) : fault.IsPlain := by
  unfold checkUnique at h
  split at h
  · cases h
    trivial
  · cases h

theorem isPlain_of_checkMembers {roles : List Slug} {network : Slug × List Slug} {fault : Fault}
    (h : checkMembers roles network = .error fault) : fault.IsPlain := by
  unfold checkMembers checkDeclared checkMembersUnique at h
  rcases Attempt.bind_eq_error.mp h with h | ⟨_, -, h⟩
  · split at h
    · cases h
      trivial
    · cases h
  · split at h
    · cases h
      trivial
    · cases h

theorem checkRole_eq_error {role : Role} {fault : Fault} (h : checkRole role = .error fault) :
    fault.IsPlain ∨ maxCopies < role.copies
      ∧ fault = .badSetting (.tooManyCopies role.name role.copies maxCopies) := by
  unfold checkRole checkNotService checkCopies at h
  rcases Attempt.bind_eq_error.mp h with h | ⟨_, -, h⟩
  · split at h
    · cases h
      exact .inl trivial
    · cases h
  · split at h
    · rename_i hcopies
      cases h
      exact .inr ⟨hcopies, rfl⟩
    · cases h

/-- The rules are about names, but for the one that bounds the copies of a role. -/
theorem ofDeclarations_eq_error {roles : List Role} {networks : List (Slug × List Slug)}
    {fault : Fault} (h : ofDeclarations roles networks = .error fault) :
    fault.IsPlain ∨ ∃ role ∈ roles, maxCopies < role.copies
      ∧ fault = .badSetting (.tooManyCopies role.name role.copies maxCopies) := by
  rcases Attempt.bind_eq_error.mp h with h | ⟨_, -, h⟩
  · rcases Attempt.bind_eq_error.mp h with h | ⟨_, -, h⟩
    · exact .inl (isPlain_of_checkUnique h)
    rcases Attempt.bind_eq_error.mp h with h | ⟨_, -, h⟩
    · obtain ⟨role, hrole, h⟩ := Attempt.exists_of_forM_eq_error h
      exact (checkRole_eq_error h).imp_right fun h => ⟨role, hrole, h⟩
    rcases Attempt.bind_eq_error.mp h with h | ⟨_, -, h⟩
    · exact .inl (isPlain_of_checkUnique h)
    · obtain ⟨network, -, h⟩ := Attempt.exists_of_forM_eq_error h
      exact .inl (isPlain_of_checkMembers h)
  · cases h

end Topology

namespace AddressPlan

theorem isPlain_of_make {root : Block} {instances : UInt32} {networks : Nat} {fault : Fault}
    (h : make root instances networks = .error fault) : fault.IsPlain := by
  simp only [make] at h
  split at h
  · cases h
  · split at h
    · cases h
      trivial
    · split at h
      · cases h
        trivial
      · cases h

end AddressPlan

namespace Guest

variable {g : Guest} {indexOffset : UInt32} {fault : Fault}

theorem interfaceOn_eq_error {ordinal : UInt32} {segment : Segment} {network : Network}
    (h : g.interfaceOn ordinal segment network indexOffset = .error fault) :
    fault.IsPlain ∨ g.hostOffset segment = .error fault
      ∨ 2 ^ 32 ≤ ordinal.toNat + indexOffset.toNat
        ∧ fault = .badSetting (.indexOverflow ordinal indexOffset) := by
  unfold interfaceOn at h
  rcases Attempt.bind_eq_error.mp h with h | ⟨offset, -, h⟩
  · exact .inr (.inl h)
  · by_cases hindex : ordinal.toNat + indexOffset.toNat ≥ UInt32.size
    · rw [if_pos hindex] at h
      cases h
      exact .inr (.inr ⟨hindex, rfl⟩)
    · rw [if_neg hindex] at h
      left
      cases hhost : network.block.host? offset with
      | none =>
          rw [hhost] at h
          cases h
          trivial
      | some address =>
          rw [hhost] at h
          rcases Attempt.bind_eq_error.mp h with h | ⟨_, -, h⟩
          · exact Fault.isPlain_of_mapError h fun _ => trivial
          · cases h

/-- On a segment that its role is attached to and that has a network in its instance, a guest can
be refused for the index of its interface, but for no other setting. -/
theorem interfaceAt_eq_error {networkOf : UInt32 → Segment → Option Network}
    {entry : Segment × Nat}
    (hnetwork : ∃ network, networkOf g.instanceNumber entry.1 = some network)
    (hmember : g.role.name ∈ entry.1.members)
    (h : g.interfaceAt networkOf indexOffset entry = .error fault) :
    fault.IsPlain ∨ 2 ^ 32 ≤ (UInt32.ofNat (entry.2 + 1)).toNat + indexOffset.toNat
      ∧ fault = .badSetting (.indexOverflow (UInt32.ofNat (entry.2 + 1)) indexOffset) := by
  obtain ⟨network, hnetwork⟩ := hnetwork
  simp only [interfaceAt, hnetwork] at h
  rcases interfaceOn_eq_error h with hplain | hoffset | hindex
  · exact .inl hplain
  · obtain ⟨position, hposition⟩ := Option.isSome_iff_exists.mp (List.isSome_idxOf?.mpr hmember)
    obtain ⟨offset, hok⟩ : ∃ offset, g.hostOffset entry.1 = .ok offset :=
      ⟨_, hostOffset_eq_ok.mpr ⟨position, hposition, rfl⟩⟩
    rw [hok] at hoffset
    cases hoffset
  · exact .inr hindex

/-- A guest of an instance that the plan is made for can only be refused for an index. A plan is
made for far fewer networks than a word can count, so no ordinal wraps round. -/
theorem allocate_eq_error {roles : List Role} {networks : List (Slug × List Slug)} {root : Block}
    {instances : UInt32} {plan : AddressPlan} {id : LabId}
    (hplan : AddressPlan.make root instances networks.length = .ok plan)
    (hone : 1 ≤ g.instanceNumber) (hle : g.instanceNumber ≤ instances)
    (h : g.allocate (Topology.expand roles networks) (plan.network? id) indexOffset
      = .error fault) :
    fault.IsPlain ∨ ∃ ordinal : UInt32, 1 ≤ ordinal.toNat ∧ ordinal.toNat ≤ networks.length
      ∧ 2 ^ 32 ≤ ordinal.toNat + indexOffset.toNat
      ∧ fault = .badSetting (.indexOverflow ordinal indexOffset) := by
  rcases Attempt.bind_eq_error.mp h with h | ⟨_, -, h⟩
  · obtain ⟨entry, hentry, h⟩ := Attempt.exists_of_mapM_eq_error h
    obtain ⟨hsegment, hmember⟩ :=
      Topology.mem_segmentsOf_expand.mp (List.fst_mem_of_mem_zipIdx hentry)
    obtain ⟨hindex, -⟩ := Topology.exists_network_of_mem_segments hsegment
    obtain ⟨block, hblock⟩ := AddressPlan.exists_subnet?_of_make hplan hone hle hindex
    have hnetwork : plan.network? id g.instanceNumber entry.1
        = some (entry.1.network id g.instanceNumber block) :=
      Option.map_eq_some_iff.mpr ⟨block, hblock, rfl⟩
    have hplace : entry.2 < networks.length :=
      calc entry.2 < ((Topology.expand roles networks).segmentsOf g.role.name).length :=
            List.snd_lt_of_mem_zipIdx hentry
        _ ≤ (Topology.expand roles networks).segments.length := List.length_filter_le _ _
        _ = networks.length := Topology.length_segments_expand
    have hfew := AddressPlan.networks_le_of_make hplan (UInt32.le_trans hone hle)
    have hordinal : (UInt32.ofNat (entry.2 + 1)).toNat = entry.2 + 1 :=
      toNat_ofNat_of_lt (by omega)
    refine (interfaceAt_eq_error ⟨_, hnetwork⟩ hmember h).imp_right fun h => ⟨_, ?_, ?_, h⟩
    · rw [hordinal]
      exact Nat.le_add_left 1 entry.2
    · rw [hordinal]
      exact hplace
  · cases h

end Guest

namespace Inventory

/-- When the declarations have been read, settings can only be bad in the index of an interface. -/
theorem build_eq_error {roles : List Role} {networks : List (Slug × List Slug)} {root : Block}
    {id : LabId} {instances indexOffset : UInt32} {services : ServiceSwitches}
    {randomSeed : Option UInt64} {fault : Fault}
    (h : build id instances root (Topology.expand roles networks) services indexOffset randomSeed
      = .error fault) :
    fault.IsPlain ∨ ∃ ordinal : UInt32, 1 ≤ ordinal.toNat ∧ ordinal.toNat ≤ networks.length
      ∧ 2 ^ 32 ≤ ordinal.toNat + indexOffset.toNat
      ∧ fault = .badSetting (.indexOverflow ordinal indexOffset) := by
  rcases Attempt.bind_eq_error.mp h with h | ⟨plan, hplan, h⟩
  · exact .inl (AddressPlan.isPlain_of_make h)
  rcases Attempt.bind_eq_error.mp h with h | ⟨_, -, h⟩
  · obtain ⟨bare, hbare, h⟩ := Attempt.exists_of_mapM_eq_error h
    obtain ⟨i, role, copy, ⟨hone, hle⟩, -, -, rfl⟩ := LabId.mem_guests.mp hbare
    rw [Topology.length_segments_expand] at hplan
    rcases Attempt.bind_eq_error.mp h with h | ⟨_, -, h⟩
    · exact Guest.allocate_eq_error hplan hone hle h
    · cases h
  · cases h

end Inventory

/-! ## All faults of a scenario -/

/-- The settings that a scenario can be refused for: a declared role has more than 251 copies, or
the index of an interface, which counts the networks of its guest, does not fit in a word. -/
def Scenario.HasBadSetting (s : Scenario) (cause : SettingFault) : Prop :=
  (∃ d ∈ s.roles, ∃ name, Slug.ofText? d.name = some name ∧ 251 < d.copies.toNat
    ∧ cause = .tooManyCopies name d.copies 251)
  ∨ ∃ ordinal : UInt32, 1 ≤ ordinal.toNat ∧ ordinal.toNat ≤ s.networks.length
    ∧ 2 ^ 32 ≤ ordinal.toNat + s.indexOffset.toNat ∧ cause = .indexOverflow ordinal s.indexOffset

namespace Inventory

theorem ofScenario_eq_error {roles : List RoleDeclaration} {networks : List NetworkDeclaration}
    {fault : Fault} (h : Topology.ofScenario roles networks = .error fault) :
    fault.IsPlain ∨ ∃ d ∈ roles, ∃ name, Slug.ofText? d.name = some name ∧ 251 < d.copies.toNat
      ∧ fault = .badSetting (.tooManyCopies name d.copies 251) := by
  rcases Attempt.bind_eq_error.mp h with h | ⟨rs, hroles, h⟩
  · exact .inl (Fault.isPlain_of_mapError h fun _ => trivial)
  rcases Attempt.bind_eq_error.mp h with h | ⟨slugs, -, h⟩
  · exact .inl (Fault.isPlain_of_mapError h fun _ => trivial)
  · refine (Topology.ofDeclarations_eq_error h).imp_right ?_
    rintro ⟨role, hrole, hcopies, rfl⟩
    have hread := Attempt.mapM_eq_ok.mp (Attempt.mapError_eq_ok.mp hroles)
    obtain ⟨d, hd, hrole⟩ := exists_left_of_forall₂ hread hrole
    obtain ⟨hname, heq⟩ := RoleDeclaration.toRole_eq_ok.mp hrole
    rw [heq] at hcopies ⊢
    exact ⟨d, hd, role.name, Slug.ofText?_eq_some.mpr hname, UInt32.lt_iff_toNat_lt.mp hcopies, rfl⟩

/-- A scenario is refused for a plain fault or for one of two settings. -/
theorem compile_eq_error {s : Scenario} {fault : Fault} (h : compile s = .error fault) :
    fault.IsPlain ∨ ∃ cause, fault = .badSetting cause ∧ s.HasBadSetting cause := by
  rcases Attempt.bind_eq_error.mp h with h | ⟨id, -, h⟩
  · exact .inl (Fault.isPlain_of_mapError h fun _ => trivial)
  rcases Attempt.bind_eq_error.mp h with h | ⟨_, -, h⟩
  · exact .inl (Fault.isPlain_of_mapError h fun _ => trivial)
  rcases Attempt.bind_eq_error.mp h with h | ⟨root, -, h⟩
  · exact .inl (Fault.isPlain_of_mapError h fun _ => trivial)
  rcases Attempt.bind_eq_error.mp h with h | ⟨t, ht, h⟩
  · refine (ofScenario_eq_error h).imp_right ?_
    rintro ⟨d, hd, name, hname, hcopies, rfl⟩
    exact ⟨_, rfl, .inl ⟨d, hd, name, hname, hcopies, rfl⟩⟩
  · obtain ⟨networks, -, hnetworks, -, hexpand⟩ := ofScenario_eq_ok.mp ht
    have hlength := (Attempt.mapM_eq_ok.mp hnetworks).length_eq
    rw [hexpand] at h
    refine (build_eq_error h).imp_right ?_
    rintro ⟨ordinal, hone, hle, hindex, rfl⟩
    exact ⟨_, rfl, .inr ⟨ordinal, hone, hlength ▸ hle, hindex, rfl⟩⟩

/-! ## All networks of a lab -/

namespace MadeFrom

variable {s : Scenario} {root : Block} {networks : List (Slug × List Slug)} {inv : Inventory}

/-- The segments are those of the declared networks, numbered by their places. -/
theorem segments_of_declared (m : MadeFrom s root networks inv) :
    List.Forall₂ (fun (entry : NetworkDeclaration × Nat) segment =>
        Slug.ofText? entry.1.name = some segment.name ∧ segment.index = entry.2)
      s.networks.zipIdx inv.topology.segments := by
  have hread := forall₂_zipIdx (Attempt.mapM_eq_ok.mp m.networks_read) 0
  rw [m.topology_eq, Topology.expand, List.mapIdx_eq_zipIdx_map, List.forall₂_map_right_iff]
  refine hread.imp fun entry slugs h => ?_
  exact ⟨Slug.ofText?_eq_some.mpr (NetworkDeclaration.toSlugs_eq_ok.mp h.1).1, h.2.symm⟩

theorem length_declared (m : MadeFrom s root networks inv) :
    networks.length = s.networks.length :=
  (Attempt.mapM_eq_ok.mp m.networks_read).length_eq.symm

/-- An instance has a network for each declared one, with the block that the plan has for it. -/
theorem networks_of_instance (m : MadeFrom s root networks inv) {i : UInt32}
    (hi : 1 ≤ i ∧ i ≤ s.instances) :
    List.Forall₂ (fun (entry : NetworkDeclaration × Nat) n =>
        n.instanceNumber = i ∧ Slug.ofText? entry.1.name = some n.base
          ∧ inv.plan.subnet? i entry.2 = some n.block)
      s.networks.zipIdx (inv.topology.segments.filterMap (inv.plan.network? inv.id i)) := by
  have hnetwork : ∀ segment ∈ inv.topology.segments,
      ∃ network, inv.plan.network? inv.id i segment = some network := by
    intro segment hsegment
    obtain ⟨hindex, -⟩ := Topology.exists_network_of_mem_segments (m.mem_segments hsegment)
    obtain ⟨block, hblock⟩ := AddressPlan.exists_subnet?_of_make m.plan_made hi.1 hi.2 hindex
    exact ⟨_, Option.map_eq_some_iff.mpr ⟨block, hblock, rfl⟩⟩
  refine (forall₂_comp m.segments_of_declared (forall₂_filterMap hnetwork)).imp ?_
  rintro entry n ⟨segment, ⟨hname, hindex⟩, hn⟩
  obtain ⟨block, hblock, rfl⟩ := Option.map_eq_some_iff.mp hn
  exact ⟨rfl, hname, hindex ▸ hblock⟩

/-- The networks are those of the first instance, then those of the second, and so on. A plan
without networks is made for no instances and does not tell how many there are, so it is a case
apart. -/
theorem networks_in_order (m : MadeFrom s root networks inv) :
    List.Forall₂ (fun (pair : Nat × NetworkDeclaration × Nat) n =>
        n.instanceNumber.toNat = pair.1 ∧ Slug.ofText? pair.2.1.name = some n.base
          ∧ inv.plan.subnet? n.instanceNumber pair.2.2 = some n.block)
      ((List.range' 1 s.instances.toNat).product s.networks.zipIdx) inv.networks := by
  have hplan := m.plan_made
  by_cases hempty : s.instances = 0 ∨ networks.length = 0
  · have hpairs : (List.range' 1 s.instances.toNat).product s.networks.zipIdx = [] := by
      rcases hempty with hinstances | hnetworks
      · rw [hinstances]
        rfl
      · have hnil : s.networks = [] :=
          List.eq_nil_of_length_eq_zero (m.length_declared.symm.trans hnetworks)
        rw [hnil]
        exact List.product_nil _
    rw [AddressPlan.make_of_empty root hempty] at hplan
    rw [hpairs, m.networks_eq, ← Except.ok.inj hplan]
    exact .nil
  · obtain ⟨hi, hn⟩ := not_or.mp hempty
    obtain ⟨-, hplan⟩ := (AddressPlan.make_eq_ok hi hn).mp hplan
    have hinstances : inv.plan.instances = s.instances := by rw [hplan]
    rw [m.networks_eq, AddressPlan.networkList, hinstances]
    refine List.rel_flatMap (forall₂_ordinals s.instances) ?_
    rintro _ i ⟨rfl, hi⟩
    rw [List.forall₂_map_left_iff]
    refine (m.networks_of_instance hi).imp ?_
    rintro entry n ⟨hinstance, hname, hblock⟩
    exact ⟨congrArg UInt32.toNat hinstance, hname, hinstance ▸ hblock⟩

end MadeFrom

/-! ## What cannot be missing -/

/-- No scenario is refused because a role is missing from a network or a network from an instance:
of the faults of settings, a scenario can only have too many copies of a role or an interface whose
index does not fit in a word. A lab that is made has a network for each instance and each declared
network, by instance and then in the order of declaration, with the block that the plan has for it.
And a plan can be carried out: after the checks the root block is cut without failure, into just the
blocks that the plan gives out. -/
theorem nothing_missing (s : Scenario) :
    (∀ fault, compile s = .error fault →
      (∀ role network, fault ≠ .memberNotFound role network)
      ∧ (∀ network i, fault ≠ .badSetting (.noSubnet network i))
      ∧ ∀ cause, fault = .badSetting cause → s.HasBadSetting cause)
    ∧ (∀ inv, compile s = .ok inv →
      (∃ root, Block.readRoot s.rootBlock = .ok root
        ∧ AddressPlan.make root s.instances s.networks.length = .ok inv.plan)
      ∧ List.Forall₂ (fun (pair : Nat × NetworkDeclaration × Nat) n =>
          n.instanceNumber.toNat = pair.1 ∧ Slug.ofText? pair.2.1.name = some n.base
            ∧ inv.plan.subnet? n.instanceNumber pair.2.2 = some n.block)
        ((List.range' 1 s.instances.toNat).product s.networks.zipIdx) inv.networks)
    ∧ ∀ root instances networks,
      AddressPlan.carve root instances networks
        = (AddressPlan.make root instances networks).map AddressPlan.entries
      ∧ (AddressPlan.checkRoom root instances networks = .ok () →
        ∃ blocks, root.cut? (root.length + instanceBits) = some blocks
          ∧ ∀ block ∈ blocks, ∃ subnets,
            block.cut? (root.length + instanceBits + bitsFor networks) = some subnets) := by
  refine ⟨fun fault h => ?_, fun inv h => ?_, fun root instances networks => ?_⟩
  · rcases compile_eq_error h with hplain | ⟨cause, rfl, hbad⟩
    · refine ⟨?_, ?_, ?_⟩
      · rintro role network rfl
        exact hplain
      · rintro network i rfl
        exact hplain
      · rintro cause rfl
        exact hplain.elim
    · refine ⟨nofun, ?_, ?_⟩
      · rintro network i heq
        cases heq
        rcases hbad with ⟨d, -, name, -, -, heq⟩ | ⟨ordinal, -, -, -, heq⟩
        · cases heq
        · cases heq
      · rintro cause' heq
        cases heq
        exact hbad
  · obtain ⟨root, networks, m⟩ := compile_eq_ok.mp h
    exact ⟨⟨root, m.root_read, m.length_declared ▸ m.plan_made⟩, m.networks_in_order⟩
  · exact ⟨AddressPlan.carve_eq_map_make root instances networks,
      fun h => AddressPlan.cut?_of_hasRoom (AddressPlan.hasRoom_of_checkRoom h)⟩

/-- A platform that takes all but one of the indices leaves no room for the second interface; with
the usual settings the lab has its four networks, and the root block is cut into 256 blocks. -/
theorem nothing_missing_small :
    (∃ cause, compile { Scenario.small with indexOffset := 4294967294 } = .error (.badSetting cause)
      ∧ { Scenario.small with indexOffset := 4294967294 }.HasBadSetting cause)
    ∧ (∃ inv, compile .small = .ok inv ∧ inv.networks.length = 4
      ∧ ∀ n ∈ inv.networks, ∃ index, inv.plan.subnet? n.instanceNumber index = some n.block)
    ∧ ∃ root blocks, Block.ofText? "10.0.0.0/16" = some root
      ∧ AddressPlan.checkRoom root 2 2 = .ok () ∧ root.cut? 24 = some blocks
      ∧ ∀ block ∈ blocks, ∃ subnets, block.cut? 25 = some subnets := by
  refine ⟨?_, ?_, ?_⟩
  · have hrun : compile { Scenario.small with indexOffset := 4294967294 }
        = .error (.badSetting (.indexOverflow 2 4294967294)) := by decide +kernel
    exact ⟨_, hrun, ((nothing_missing _).1 _ hrun).2.2 _ rfl⟩
  · have hrun : (compile .small).map (fun inv => inv.networks.length) = .ok 4 := by decide +kernel
    obtain ⟨inv, h, hlength⟩ := Attempt.map_eq_ok.mp hrun
    refine ⟨inv, h, hlength, fun n hn => ?_⟩
    obtain ⟨pair, -, -, -, hblock⟩ := exists_left_of_forall₂ ((nothing_missing _).2.1 inv h).2 hn
    exact ⟨pair.2.2, hblock⟩
  · let root : Block := { address := .ofNat (10 <<< 24), length := 16, length_le := by decide }
    have hcheck : AddressPlan.checkRoom root 2 2 = .ok () := by decide +kernel
    obtain ⟨blocks, hblocks, hsubnets⟩ := ((nothing_missing .small).2.2 root 2 2).2 hcheck
    exact ⟨root, blocks, by decide +kernel, hcheck, hblocks, hsubnets⟩

end Inventory

end RangeLab
