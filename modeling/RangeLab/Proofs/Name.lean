import RangeLab.Name
import RangeLab.Proofs.Numeral
import RangeLab.Proofs.Service

/-!
# Reading names back

No component of a guest's name has a dash in it, so splitting the name at its dashes gives the
components back and the name is read as what it was written from (`parse?_render`). Hence names of
networks tell instances and segments apart (`networkName_inj`), and the name of a service, which has
only three components, is never read as the name of a guest (`parse?_serviceName`). Nothing else is
read: components that are read are spelled as they are written, so joining them gives the text back
(`parse?_eq_some`).
-/

namespace RangeLab

namespace MachineName

/-- The components of a name, between which its dashes stand. -/
def components (m : MachineName) : List (List Char) :=
  [m.institution.text.toList, m.lab.text.toList, Numeral.digits m.instanceNumber.toNat,
    m.base.text.toList] ++ (m.copy.toList.map fun copy => Numeral.digits copy.toNat)

theorem toList_render (m : MachineName) : m.render.toList = ['-'].intercalate m.components := by
  have hdash : ("-" : String).toList = ['-'] := rfl
  unfold render components
  cases m.copy with
  | none => simp [hdash, Numeral.toList_toString, List.intercalate_cons_cons]
  | some copy => simp [hdash, Numeral.toList_toString, List.intercalate_cons_cons]

theorem dash_not_mem_components (m : MachineName) : ∀ cs ∈ m.components, '-' ∉ cs := by
  intro cs hcs
  rcases List.mem_append.mp hcs with h | h
  · simp only [List.mem_cons, List.not_mem_nil, or_false] at h
    rcases h with rfl | rfl | rfl | rfl
    · exact m.institution.dash_not_mem
    · exact m.lab.dash_not_mem
    · exact Numeral.dash_not_mem_digits _
    · exact m.base.dash_not_mem
  · obtain ⟨copy, -, rfl⟩ := List.mem_map.mp h
    exact Numeral.dash_not_mem_digits _

theorem splitOn_render (m : MachineName) : m.render.toList.splitOn '-' = m.components := by
  rw [toList_render]
  exact List.splitOn_intercalate '-' m.dash_not_mem_components (List.cons_ne_nil _ _)

theorem slug?_text (s : Slug) : slug? s.text.toList = some s := by
  rw [slug?, String.ofList_toList, Slug.ofCanonical?_text]

/-- A name whose numbers count from 1 is read as what it was written from. -/
theorem parse?_render {m : MachineName} (hi : 1 ≤ m.instanceNumber)
    (hc : ∀ copy ∈ m.copy, 1 ≤ copy) : parse? m.render = some m := by
  obtain ⟨institution, lab, i, base, copy⟩ := m
  rw [parse?, splitOn_render]
  cases copy with
  | none =>
      simp only [components, Option.toList_none, List.map_nil, List.append_nil, ofComponents?,
        slug?_text, Numeral.ordinal?_digits hi]
      rfl
  | some copy =>
      simp only [components, Option.toList_some, List.map_cons, List.map_nil, List.cons_append,
        List.nil_append, ofComponents?, slug?_text, Numeral.ordinal?_digits hi,
        Numeral.ordinal?_digits (hc copy rfl)]
      rfl

/-! ### The names that are read -/

/-- The numbers of a name count from 1. -/
structure IsNumbered (m : MachineName) : Prop where
  one_le_instance : 1 ≤ m.instanceNumber
  one_le_copy : ∀ copy ∈ m.copy, 1 ≤ copy

theorem slug?_eq_some {cs : List Char} {s : Slug} : slug? cs = some s ↔ s.text.toList = cs := by
  rw [slug?, Slug.ofCanonical?_eq_some, ← String.toList_inj, String.toList_ofList]

/-- Components are read as the name that they are the components of. -/
theorem ofComponents?_eq_some {css : List (List Char)} {m : MachineName} :
    ofComponents? css = some m ↔ m.components = css ∧ m.IsNumbered := by
  constructor
  · intro h
    unfold ofComponents? at h
    split at h
    · simp only [Option.bind_eq_bind, Option.bind_eq_some_iff, slug?_eq_some,
        Numeral.ordinal?_eq_some, Option.pure_def, Option.some.injEq] at h
      obtain ⟨institution, rfl, lab, rfl, number, ⟨hone, rfl⟩, base, rfl, rfl⟩ := h
      exact ⟨rfl, hone, nofun⟩
    · simp only [Option.bind_eq_bind, Option.bind_eq_some_iff, slug?_eq_some,
        Numeral.ordinal?_eq_some, Option.pure_def, Option.some.injEq] at h
      obtain ⟨institution, rfl, lab, rfl, number, ⟨hone, rfl⟩, base, rfl, copy, ⟨hcopy, rfl⟩, rfl⟩
        := h
      exact ⟨rfl, hone, fun c hc => Option.some.inj hc ▸ hcopy⟩
    · cases h
  · rintro ⟨rfl, hm⟩
    rw [← splitOn_render]
    exact parse?_render hm.one_le_instance hm.one_le_copy

/-- A name is read as what it is written from: its components joined by dashes are it again. -/
theorem parse?_eq_some {name : String} {m : MachineName} :
    parse? name = some m ↔ m.render = name ∧ m.IsNumbered := by
  constructor
  · intro h
    obtain ⟨hcomponents, hm⟩ := ofComponents?_eq_some.mp h
    refine ⟨?_, hm⟩
    rw [← String.toList_inj, toList_render, hcomponents, List.intercalate_splitOn]
  · rintro ⟨rfl, hm⟩
    exact parse?_render hm.one_le_instance hm.one_le_copy

theorem parse?_eq_none {name : String} :
    parse? name = none ↔ ¬∃ m : MachineName, m.render = name ∧ m.IsNumbered := by
  rw [Option.eq_none_iff_forall_ne_some, not_exists]
  exact forall_congr' fun _ => not_congr parse?_eq_some

theorem read_eq_ok {name : String} {m : MachineName} :
    read name = .ok m ↔ parse? name = some m := by
  unfold read
  cases parse? name <;> simp

theorem read_eq_error {name : String} {fault : NameFault} :
    read name = .error fault ↔ parse? name = none ∧ fault = .notMachine name := by
  unfold read
  cases parse? name <;> simp [eq_comm]

theorem render_ne_empty (m : MachineName) : m.render.isEmpty = false := by
  rw [Bool.eq_false_iff, ne_eq, String.isEmpty_iff]
  intro h
  have hsplit := m.splitOn_render
  rw [h] at hsplit
  exact absurd (congrArg List.length hsplit) (by simp [components])

end MachineName

namespace LabId

variable (id : LabId)

/-! ## Guests -/

theorem copyNumber_machineName {i copies copy : UInt32} {base : Slug}
    (h : copies ≤ 1 → copy = 1) : (id.machineName i base copy copies).copyNumber = copy := by
  unfold machineName MachineName.copyNumber
  by_cases hc : copies > 1
  · rw [if_pos hc, Option.getD_some]
  · rw [if_neg hc, Option.getD_none]
    exact (h (UInt32.not_lt.mp hc)).symm

theorem parse?_machineName {i copies copy : UInt32} {base : Slug} (hi : 1 ≤ i) (hc : 1 ≤ copy) :
    MachineName.parse? (id.machineName i base copy copies).render
      = some (id.machineName i base copy copies) := by
  refine MachineName.parse?_render hi fun c hmem => ?_
  unfold machineName at hmem
  split at hmem
  · obtain rfl := Option.some.inj hmem
    exact hc
  · cases hmem

/-! ## Networks -/

/-- A network is named as the single guest of a role of its name would be. -/
theorem networkName_eq_render (i : UInt32) (base : Slug) :
    id.networkName i base
      = MachineName.render ⟨id.institution, id.lab, i, base, none⟩ := by
  simp only [networkName, MachineName.render, String.append_empty]

theorem networkName_inj {i i' : UInt32} {base base' : Slug} (hi : 1 ≤ i) (hi' : 1 ≤ i')
    (h : id.networkName i base = id.networkName i' base') : i = i' ∧ base = base' := by
  rw [networkName_eq_render, networkName_eq_render] at h
  have hread := congrArg MachineName.parse? h
  rw [MachineName.parse?_render hi (by simp), MachineName.parse?_render hi' (by simp),
    Option.some.injEq, MachineName.mk.injEq] at hread
  exact ⟨hread.2.2.1, hread.2.2.2.1⟩

/-! ## Services -/

theorem splitOn_serviceName (v : Service) :
    (id.serviceName v).toList.splitOn '-'
      = [id.institution.text.toList, id.lab.text.toList, v.id.toList] := by
  have hdash : ("-" : String).toList = ['-'] := rfl
  have hname : (id.serviceName v).toList
      = ['-'].intercalate [id.institution.text.toList, id.lab.text.toList, v.id.toList] := by
    simp [serviceName, hdash, List.intercalate_cons_cons]
  rw [hname]
  refine List.splitOn_intercalate '-' ?_ (List.cons_ne_nil _ _)
  intro cs hcs
  simp only [List.mem_cons, List.not_mem_nil, or_false] at hcs
  rcases hcs with rfl | rfl | rfl
  · exact id.institution.dash_not_mem
  · exact id.lab.dash_not_mem
  · exact v.dash_not_mem_id

/-- The name of a service is not read as the name of a guest: it has a component too few. -/
theorem parse?_serviceName (v : Service) : MachineName.parse? (id.serviceName v) = none := by
  rw [MachineName.parse?, splitOn_serviceName]
  rfl

theorem serviceName_inj {v v' : Service} (h : id.serviceName v = id.serviceName v') : v = v' := by
  have hsplit := id.splitOn_serviceName v
  rw [h, id.splitOn_serviceName v'] at hsplit
  simp only [List.cons.injEq, and_true, true_and, String.toList_inj] at hsplit
  exact (Service.id_inj.mp hsplit).symm

end LabId

/-! ## Reading and writing -/

/-- Exactly the written forms of names whose numbers count from 1 are read, each as the name that it
is the written form of; any other text is refused, that of every service among them. -/
theorem MachineName.read_iff_written :
    (∀ name m, read name = .ok m ↔ m.render = name ∧ m.IsNumbered)
    ∧ (∀ name, read name = .error (.notMachine name) ↔
        ¬∃ m : MachineName, m.render = name ∧ m.IsNumbered)
    ∧ ∀ (id : LabId) (v : Service),
        read (id.serviceName v) = .error (.notMachine (id.serviceName v)) := by
  refine ⟨fun name m => read_eq_ok.trans parse?_eq_some, fun name => ?_, fun id v => ?_⟩
  · rw [read_eq_error, parse?_eq_none]
    exact and_iff_left rfl
  · exact read_eq_error.mpr ⟨id.parse?_serviceName v, rfl⟩

/-- A number with a leading zero is not one that is written. -/
example : MachineName.read "uni-lab-01-web" = .error (.notMachine "uni-lab-01-web") := by
  decide +kernel

end RangeLab
