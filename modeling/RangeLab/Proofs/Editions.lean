import RangeLab.Proofs.Answers

/-!
# What services and editions leave alone

The services of a lab and its random seed come last: when everything else has been made, they are
put beside it (`Inventory.compile_withServices`). So scenarios that differ in nothing else are
refused alike, or their labs have the same networks and guests, are looked into alike and answer
alike all queries that leave services out (`Inventory.unaffected_by_services`).

An edition changes services and the number of instances. Two editions in a row are one edition, in
which the later one is heard first.
-/

namespace RangeLab

open Ipv4 (Block)

/-! ## Scenarios that differ in services -/

namespace Scenario

/-- The second scenario is the first one but for services and random seed. -/
def SameLab (s t : Scenario) : Prop :=
  { s with services := t.services, randomSeed := t.randomSeed } = t

end Scenario

namespace Inventory

/-- Two labs have the same networks, guests and reserved block, they are looked into alike, and they
answer alike all queries that leave services out. -/
structure Alike (inv inv' : Inventory) : Prop where
  networks_eq : inv.networks = inv'.networks
  guests_eq : inv.guests = inv'.guests
  reserved?_eq : inv.reserved? = inv'.reserved?
  guest?_eq : ∀ name, inv.guest? name = inv'.guest? name
  network?_eq : ∀ name, inv.network? name = inv'.network? name
  networkOf?_eq : ∀ i base, inv.networkOf? i base = inv'.networkOf? i base
  resolve_eq : ∀ q : Query, q.onlyInstances = true → inv.resolve q = inv'.resolve q

/-- The lab with other services and another random seed. -/
def withServices (inv : Inventory) (services : ServiceSwitches) (randomSeed : Option UInt64) :
    Inventory :=
  { inv with randomSeed, services := inv.id.serviceGuests services.enabled }

/-! ## Making -/

theorem build_withServices (id : LabId) (instances : UInt32) (root : Block) (t : Topology)
    (services services' : ServiceSwitches) (indexOffset : UInt32)
    (randomSeed randomSeed' : Option UInt64) :
    build id instances root t services' indexOffset randomSeed'
      = (build id instances root t services indexOffset randomSeed).map
        fun inv => inv.withServices services' randomSeed' := by
  unfold build
  simp only [Attempt.map_bind]
  rfl

/-- No stage but the last knows of services and random seed. -/
theorem compile_withServices (s : Scenario) (services : ServiceSwitches)
    (randomSeed : Option UInt64) :
    compile { s with services, randomSeed }
      = (compile s).map fun inv => inv.withServices services randomSeed := by
  unfold compile
  simp only [Attempt.map_bind, ← build_withServices]

/-! ## Answering -/

section

variable (inv : Inventory) (services : ServiceSwitches) (randomSeed : Option UInt64)

/-- A name is not taken for that of a service when services are left out. -/
theorem roleKind?_withServices (name : String) :
    (inv.withServices services randomSeed).roleKind? name true = inv.roleKind? name true := rfl

theorem machines_withServices :
    (inv.withServices services randomSeed).machines true = inv.machines true := rfl

theorem filters_withServices {q : Query} (hq : q.onlyInstances = true) :
    q.filters (inv.withServices services randomSeed) = q.filters inv := by
  have hkinds : q.kinds (inv.withServices services randomSeed) = q.kinds inv := by
    simp only [Query.kinds, hq, roleKind?_withServices]
  have hmax : q.maxCopy (inv.withServices services randomSeed) = q.maxCopy inv := by
    funext kinds
    simp only [Query.maxCopy, hq, machines_withServices]
  rw [Query.filters, Query.filters, hkinds, hmax]
  rfl

theorem resolve_withServices {q : Query} (hq : q.onlyInstances = true) :
    inv.resolve q = (inv.withServices services randomSeed).resolve q := by
  refine resolve_congr (inv.filters_withServices services randomSeed hq).symm fun f _ => ?_
  rw [hq, selectedNames, selectedNames, machines_withServices]

theorem alike_withServices : inv.Alike (inv.withServices services randomSeed) where
  networks_eq := rfl
  guests_eq := rfl
  reserved?_eq := rfl
  guest?_eq _ := rfl
  network?_eq _ := rfl
  networkOf?_eq _ _ := rfl
  resolve_eq _ hq := inv.resolve_withServices services randomSeed hq

end

/-- Scenarios of the same lab are refused with the same fault, or their labs are alike. -/
theorem compile_of_sameLab {s t : Scenario} (h : s.SameLab t) :
    (∃ fault, compile s = .error fault ∧ compile t = .error fault)
    ∨ ∃ inv inv', compile s = .ok inv ∧ compile t = .ok inv' ∧ inv.Alike inv' := by
  have hcompile := compile_withServices s t.services t.randomSeed
  rw [h] at hcompile
  cases hs : compile s with
  | error fault =>
      rw [hs] at hcompile
      exact .inl ⟨fault, rfl, hcompile⟩
  | ok inv =>
      rw [hs] at hcompile
      exact .inr ⟨inv, _, rfl, hcompile, inv.alike_withServices t.services t.randomSeed⟩

end Inventory

/-! ## Editions -/

/-- Two editions as one: it sets what either of them sets, as the later one does where both do. -/
def Edition.merge (earlier later : Edition) : Edition where
  instances := later.instances.or earlier.instances
  teacherAccess := later.teacherAccess.or earlier.teacherAccess
  elastic := later.elastic.or earlier.elastic
  caldera := later.caldera.or earlier.caldera

namespace Scenario

theorem edited_edited (s : Scenario) (earlier later : Edition) :
    (s.edited earlier).edited later = s.edited (earlier.merge later) := by
  simp only [edited, Edition.merge, Option.getD_or]

/-- An edition that leaves the number of instances changes nothing but services. -/
theorem sameLab_edited (s : Scenario) {e : Edition} (h : e.instances = none) :
    s.SameLab (s.edited e) := by
  rw [SameLab, edited, h]
  rfl

end Scenario

namespace Inventory

/-- Services and random seed do not interfere with the rest of a lab, nor do editions that leave the
number of instances as it is: what differs in nothing else is refused with the same fault, or both
labs are alike. Two editions in a row are the edition in which the later one wins. -/
theorem unaffected_by_services (s : Scenario) :
    (∀ t, s.SameLab t →
      (∃ fault, compile s = .error fault ∧ compile t = .error fault)
      ∨ ∃ inv inv', compile s = .ok inv ∧ compile t = .ok inv' ∧ inv.Alike inv')
    ∧ (∀ e : Edition, e.instances = none → s.SameLab (s.edited e))
    ∧ ∀ earlier later : Edition,
      (s.edited earlier).edited later = s.edited (earlier.merge later) :=
  ⟨fun _ => compile_of_sameLab, fun _ => s.sameLab_edited, s.edited_edited⟩

/-- The small lab with more services and a seed answers as it does without, and so does an edition
of it that grants access to teachers. -/
theorem unaffected_by_services_small : ∃ inv inv' inv'', compile .small = .ok inv
    ∧ compile { Scenario.small with
        services := { elastic := true, caldera := true }, randomSeed := some 7 } = .ok inv'
    ∧ compile (Scenario.small.edited { teacherAccess := some true }) = .ok inv''
    ∧ inv.services.length = 1 ∧ inv'.services.length = 3 ∧ inv''.services.length = 2
    ∧ inv.guests = inv'.guests ∧ inv.guests = inv''.guests
    ∧ inv.resolve .small = .ok ["uni1-lab-2-web-1", "uni1-lab-2-web-3"]
    ∧ inv.resolve .small = inv'.resolve .small ∧ inv.resolve .small = inv''.resolve .small := by
  obtain ⟨hsame, hedited, -⟩ := unaffected_by_services .small
  have hrun : (compile .small).map (fun inv => (inv.services.length, inv.resolve .small))
      = .ok (1, .ok ["uni1-lab-2-web-1", "uni1-lab-2-web-3"]) := by decide +kernel
  obtain ⟨inv, h, heq⟩ := Attempt.map_eq_ok.mp hrun
  obtain ⟨hone, hanswer⟩ := Prod.mk.inj heq
  have hrun' : (compile { Scenario.small with
      services := { elastic := true, caldera := true }, randomSeed := some 7 }).map
        (fun inv => inv.services.length) = .ok 3 := by decide +kernel
  obtain ⟨inv', h', hthree⟩ := Attempt.map_eq_ok.mp hrun'
  have hrun'' : (compile (Scenario.small.edited { teacherAccess := some true })).map
      (fun inv => inv.services.length) = .ok 2 := by decide +kernel
  obtain ⟨inv'', h'', htwo⟩ := Attempt.map_eq_ok.mp hrun''
  have halike : ∀ {t inv₁}, compile t = .ok inv₁ → Scenario.small.SameLab t → inv.Alike inv₁ := by
    intro t inv₁ h₁ ht
    rcases hsame t ht with ⟨fault, hfault, -⟩ | ⟨inv₀, inv₂, h₀, h₂, halike⟩
    · cases h.symm.trans hfault
    · obtain rfl := Except.ok.inj (h.symm.trans h₀)
      exact Except.ok.inj (h₂.symm.trans h₁) ▸ halike
  have hseeded := halike h' rfl
  have haccess := halike h'' (hedited _ rfl)
  exact ⟨inv, inv', inv'', h, h', h'', hone, hthree, htwo, hseeded.guests_eq, haccess.guests_eq,
    hanswer, hseeded.resolve_eq _ rfl, haccess.resolve_eq _ rfl⟩

end Inventory

end RangeLab
