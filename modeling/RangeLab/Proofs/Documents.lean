import RangeLab.Document.Scenario
import RangeLab.Proofs.Json.Reader
import RangeLab.Proofs.Json.Writings

/-!
# Scenarios in writing

The documents that describe a scenario. What a scenario says of itself in a document may be cut
down: whatever is as usual (`RoleDeclaration.usual`, `ServiceSwitches.usual`, `Scenario.usual`) need
not be said, in the description itself, in the declaration of any role or network, or among the
services. `Scenario.IsWritten` holds of all documents that come of this, with their members in any
order, and each of them is read as the scenario (`Scenario.ofText?_of_isWritten`).

The usual values stand here by themselves. Neither the reader nor the way in which a scenario is
declared step by step is asked for them.
-/

namespace RangeLab

open Json

/-! ## What is usual -/

def RoleDeclaration.usual (name : String) : RoleDeclaration :=
  { name
    sizing := { vcpu := 1, memory := 1024, disk := 10 }
    copies := 1
    entryPoint := false
    internetAccess := false
    os := "ubuntu22" }

def ServiceSwitches.usual : ServiceSwitches :=
  { studentAccess := true, teacherAccess := false, elastic := false, caldera := false }

def Scenario.usual (institution lab : String) (instances : UInt32) : Scenario :=
  { institution, lab, instances
    rootBlock := "10.0.0.0/16"
    randomSeed := none
    roles := []
    networks := []
    services := .usual
    indexOffset := 0 }

/-! ## Written forms -/

namespace RoleDeclaration

def form (d : RoleDeclaration) : List FieldForm :=
  let usual := usual d.name
  [.required "name" (Exactly ofString) d.name,
   .withDefault "vcpu" (Exactly ofUInt32) d.sizing.vcpu usual.sizing.vcpu,
   .withDefault "memory" (Exactly ofUInt32) d.sizing.memory usual.sizing.memory,
   .withDefault "disk" (Exactly ofUInt32) d.sizing.disk usual.sizing.disk,
   .withDefault "copies" (Exactly ofUInt32) d.copies usual.copies,
   .withDefault "entry_point" (Exactly .bool) d.entryPoint usual.entryPoint,
   .withDefault "internet_access" (Exactly .bool) d.internetAccess usual.internetAccess,
   .withDefault "base_os" (Exactly ofString) d.os usual.os]

def IsWritten (d : RoleDeclaration) : Json → Prop := IsObjectOf d.form

end RoleDeclaration

namespace NetworkDeclaration

def form (d : NetworkDeclaration) : List FieldForm :=
  [.required "name" (Exactly ofString) d.name,
   .withDefault "members" (IsListOf (Exactly ofString)) d.members []]

def IsWritten (d : NetworkDeclaration) : Json → Prop := IsObjectOf d.form

end NetworkDeclaration

namespace ServiceSwitches

def form (s : ServiceSwitches) : List FieldForm :=
  [.withDefault "student_access" (Exactly .bool) s.studentAccess usual.studentAccess,
   .withDefault "teacher_access" (Exactly .bool) s.teacherAccess usual.teacherAccess,
   .withDefault "elastic" (Exactly .bool) s.elastic usual.elastic,
   .withDefault "caldera" (Exactly .bool) s.caldera usual.caldera]

def IsWritten (s : ServiceSwitches) : Json → Prop := IsObjectOf s.form

end ServiceSwitches

namespace Scenario

def seedToJson : Option UInt64 → Json := ofOption fun seed => .natural seed.toNat

def form (s : Scenario) : List FieldForm :=
  let usual := usual s.institution s.lab s.instances
  [.required "institution" (Exactly ofString) s.institution,
   .required "lab_name" (Exactly ofString) s.lab,
   .required "instance_number" (Exactly ofUInt32) s.instances,
   .withDefault "network_cidr_block" (Exactly ofString) s.rootBlock usual.rootBlock,
   .withDefault "random_seed" (Exactly seedToJson) s.randomSeed usual.randomSeed,
   .withDefault "guest_settings" (IsListOf RoleDeclaration.IsWritten) s.roles usual.roles,
   .withDefault "topology" (IsListOf NetworkDeclaration.IsWritten) s.networks usual.networks,
   .withDefault "services" ServiceSwitches.IsWritten s.services usual.services,
   .withDefault "interface_index_offset" (Exactly ofUInt32) s.indexOffset usual.indexOffset]

/-- The document describes the scenario: it has what it must say of it, and of the rest it leaves
out nothing that is not as usual. -/
def IsWritten (s : Scenario) : Json → Prop := IsObjectOf s.form

end Scenario

/-! ### The full documents

A document in which nothing is left out is one of those that describe a scenario. -/

theorem RoleDeclaration.isWritten_toJson (d : RoleDeclaration) : d.IsWritten d.toJson :=
  isObjectOf_ofMembers (by simp [form, FieldForm.required, FieldForm.withDefault, Exactly])

theorem NetworkDeclaration.isWritten_toJson (d : NetworkDeclaration) : d.IsWritten d.toJson := by
  have hexactly : ∀ name, Exactly ofString name (ofString name) := fun _ => rfl
  have hmembers := isListOf_ofList hexactly d.members
  exact isObjectOf_ofMembers
    (by simp [form, FieldForm.required, FieldForm.withDefault, Exactly, hmembers])

theorem ServiceSwitches.isWritten_toJson (s : ServiceSwitches) : s.IsWritten s.toJson :=
  isObjectOf_ofMembers (by simp [form, FieldForm.withDefault, Exactly])

theorem Scenario.isWritten_toJson (s : Scenario) : s.IsWritten s.toJson := by
  have hroles := isListOf_ofList RoleDeclaration.isWritten_toJson s.roles
  have hnetworks := isListOf_ofList NetworkDeclaration.isWritten_toJson s.networks
  have hservices := s.services.isWritten_toJson
  exact isObjectOf_ofMembers (by
    simp [form, FieldForm.required, FieldForm.withDefault, Exactly, seedToJson, hroles, hnetworks,
      hservices])

/-! ## Reading -/

theorem RoleDeclaration.ofJson?_of_isWritten (d : RoleDeclaration) :
    ∀ v, d.IsWritten v → ofJson? v = some d := by
  intro v h
  obtain ⟨given, hgiven, hfound⟩ := IsObjectOf.exists_fields? h (by simp [form])
  simp only [form, List.forall_mem_cons] at hfound
  obtain ⟨hname, hvcpu, hmemory, hdisk, hcopies, hentry, hinternet, hos, -⟩ := hfound
  have hstring := read_of_exactly string?_ofString
  have hnumber := read_of_exactly uint32?_ofUInt32
  have hbool := read_of_exactly bool?_bool
  refine Option.bind_eq_some_iff.mpr ⟨given, hgiven, ?_⟩
  refine (Fields.required_bind hname (hstring _)).trans ?_
  refine (Fields.withDefault_bind hvcpu (hnumber _)).trans ?_
  refine (Fields.withDefault_bind hmemory (hnumber _)).trans ?_
  refine (Fields.withDefault_bind hdisk (hnumber _)).trans ?_
  refine (Fields.withDefault_bind hcopies (hnumber _)).trans ?_
  refine (Fields.withDefault_bind hentry (hbool _)).trans ?_
  refine (Fields.withDefault_bind hinternet (hbool _)).trans ?_
  exact Fields.withDefault_bind hos (hstring _)

theorem NetworkDeclaration.ofJson?_of_isWritten (d : NetworkDeclaration) :
    ∀ v, d.IsWritten v → ofJson? v = some d := by
  intro v h
  obtain ⟨given, hgiven, hfound⟩ := IsObjectOf.exists_fields? h (by simp [form])
  simp only [form, List.forall_mem_cons] at hfound
  obtain ⟨hname, hmembers, -⟩ := hfound
  have hstring := read_of_exactly string?_ofString
  refine Option.bind_eq_some_iff.mpr ⟨given, hgiven, ?_⟩
  refine (Fields.required_bind hname (hstring _)).trans ?_
  exact Fields.withDefault_bind hmembers (list?_of_isListOf hstring _)

theorem ServiceSwitches.ofJson?_of_isWritten (s : ServiceSwitches) :
    ∀ v, s.IsWritten v → ofJson? v = some s := by
  intro v h
  obtain ⟨given, hgiven, hfound⟩ := IsObjectOf.exists_fields? h (by simp [form])
  simp only [form, List.forall_mem_cons] at hfound
  obtain ⟨hstudent, hteacher, helastic, hcaldera, -⟩ := hfound
  have hbool := read_of_exactly bool?_bool
  refine Option.bind_eq_some_iff.mpr ⟨given, hgiven, ?_⟩
  refine (Fields.withDefault_bind hstudent (hbool _)).trans ?_
  refine (Fields.withDefault_bind hteacher (hbool _)).trans ?_
  refine (Fields.withDefault_bind helastic (hbool _)).trans ?_
  exact Fields.withDefault_bind hcaldera (hbool _)

namespace Scenario

theorem option?_seedToJson (seed : Option UInt64) :
    option? uint64? (seedToJson seed) = some seed :=
  option?_ofOption (fun _ => by nofun) uint64?_natural seed

theorem ofJson?_of_isWritten (s : Scenario) : ∀ v, s.IsWritten v → ofJson? v = some s := by
  intro v h
  obtain ⟨given, hgiven, hfound⟩ := IsObjectOf.exists_fields? h (by simp [form])
  simp only [form, List.forall_mem_cons] at hfound
  obtain ⟨hinstitution, hlab, hinstances, hroot, hseed, hroles, hnetworks, hservices, hoffset, -⟩ :=
    hfound
  have hstring := read_of_exactly string?_ofString
  have hnumber := read_of_exactly uint32?_ofUInt32
  have hrole := list?_of_isListOf RoleDeclaration.ofJson?_of_isWritten
  have hnetwork := list?_of_isListOf NetworkDeclaration.ofJson?_of_isWritten
  refine Option.bind_eq_some_iff.mpr ⟨given, hgiven, ?_⟩
  refine (Fields.required_bind hinstitution (hstring _)).trans ?_
  refine (Fields.required_bind hlab (hstring _)).trans ?_
  refine (Fields.required_bind hinstances (hnumber _)).trans ?_
  refine (Fields.withDefault_bind hroot (hstring _)).trans ?_
  refine (Fields.withDefault_bind hseed (read_of_exactly option?_seedToJson _)).trans ?_
  refine (Fields.withDefault_bind hroles (hrole _)).trans ?_
  refine (Fields.withDefault_bind hnetworks (hnetwork _)).trans ?_
  refine (Fields.withDefault_bind hservices s.services.ofJson?_of_isWritten).trans ?_
  exact Fields.withDefault_bind hoffset (hnumber _)

/-- Every document that describes the scenario is read as it, as a text that stands for the document
and so in every layout. -/
theorem ofText?_of_isWritten {s : Scenario} {v : Json} (h : s.IsWritten v) :
    (∀ text, parse? text = some v → ofText? text = some s)
    ∧ ∀ layout, ofText? (String.ofList (render layout 0 v)) = some s := by
  have hread : ∀ text, parse? text = some v → ofText? text = some s := fun text htext => by
    rw [ofText?, htext, Option.bind_some, s.ofJson?_of_isWritten v h]
  exact ⟨hread, fun layout => hread _ (parse?_render layout v)⟩

end Scenario

end RangeLab
