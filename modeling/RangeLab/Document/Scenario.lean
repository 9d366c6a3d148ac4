import RangeLab.Document.Lab
import RangeLab.Query

/-!
# Scenarios, editions and queries in JSON

The documents that a user writes. What a document leaves out has the value that it has in a
declaration that says nothing of it.
-/

namespace RangeLab

/-! ## Declarations -/

def RoleDeclaration.toJson (d : RoleDeclaration) : Json :=
  .ofMembers
    [("name", .ofString d.name), ("vcpu", .ofUInt32 d.sizing.vcpu),
     ("memory", .ofUInt32 d.sizing.memory), ("disk", .ofUInt32 d.sizing.disk),
     ("copies", .ofUInt32 d.copies),
     ("entry_point", .bool d.entryPoint), ("internet_access", .bool d.internetAccess),
     ("base_os", .ofString d.os)]

/-- Reads the declaration of a role. Only the name must be given. -/
def RoleDeclaration.ofJson? (v : Json) : Option RoleDeclaration := do
  let f ← v.fields?
    ["name", "vcpu", "memory", "disk", "copies", "entry_point", "internet_access", "base_os"]
  let plain : RoleDeclaration := { name := ← f.required "name" Json.string? }
  return {
    name := plain.name
    sizing := {
      vcpu := ← f.withDefault "vcpu" Json.uint32? plain.sizing.vcpu
      memory := ← f.withDefault "memory" Json.uint32? plain.sizing.memory
      disk := ← f.withDefault "disk" Json.uint32? plain.sizing.disk }
    copies := ← f.withDefault "copies" Json.uint32? plain.copies
    entryPoint := ← f.withDefault "entry_point" Json.bool? plain.entryPoint
    internetAccess := ← f.withDefault "internet_access" Json.bool? plain.internetAccess
    os := ← f.withDefault "base_os" Json.string? plain.os }

def NetworkDeclaration.toJson (d : NetworkDeclaration) : Json :=
  .ofMembers [("name", .ofString d.name), ("members", .ofList .ofString d.members)]

/-- Reads the declaration of a network. Only the name must be given. -/
def NetworkDeclaration.ofJson? (v : Json) : Option NetworkDeclaration := do
  let f ← v.fields? ["name", "members"]
  return {
    name := ← f.required "name" Json.string?
    members := ← f.withDefault "members" (Json.list? Json.string?) [] }

def ServiceSwitches.toJson (s : ServiceSwitches) : Json :=
  .ofMembers
    [("student_access", .bool s.studentAccess), ("teacher_access", .bool s.teacherAccess),
     ("elastic", .bool s.elastic), ("caldera", .bool s.caldera)]

def ServiceSwitches.ofJson? (v : Json) : Option ServiceSwitches := do
  let f ← v.fields? ["student_access", "teacher_access", "elastic", "caldera"]
  let plain : ServiceSwitches := {}
  return {
    studentAccess := ← f.withDefault "student_access" Json.bool? plain.studentAccess
    teacherAccess := ← f.withDefault "teacher_access" Json.bool? plain.teacherAccess
    elastic := ← f.withDefault "elastic" Json.bool? plain.elastic
    caldera := ← f.withDefault "caldera" Json.bool? plain.caldera }

/-! ## Scenarios and editions -/

def Scenario.toJson (s : Scenario) : Json :=
  .ofMembers
    [("institution", .ofString s.institution), ("lab_name", .ofString s.lab),
     ("instance_number", .ofUInt32 s.instances), ("network_cidr_block", .ofString s.rootBlock),
     ("random_seed", .ofOption (fun seed => .natural seed.toNat) s.randomSeed),
     ("guest_settings", .ofList RoleDeclaration.toJson s.roles),
     ("topology", .ofList NetworkDeclaration.toJson s.networks),
     ("services", s.services.toJson), ("interface_index_offset", .ofUInt32 s.indexOffset)]

/-- Reads a scenario. Only the institution, the lab and the number of instances must be given. -/
def Scenario.ofJson? (v : Json) : Option Scenario := do
  let f ← v.fields?
    ["institution", "lab_name", "instance_number", "network_cidr_block", "random_seed",
     "guest_settings", "topology", "services", "interface_index_offset"]
  let institution ← f.required "institution" Json.string?
  let lab ← f.required "lab_name" Json.string?
  let instances ← f.required "instance_number" Json.uint32?
  let plain := Scenario.empty institution lab instances
  return {
    institution, lab, instances
    rootBlock := ← f.withDefault "network_cidr_block" Json.string? plain.rootBlock
    randomSeed := ← f.withDefault "random_seed" (Json.option? Json.uint64?) plain.randomSeed
    roles := ← f.withDefault "guest_settings" (Json.list? RoleDeclaration.ofJson?) plain.roles
    networks := ← f.withDefault "topology" (Json.list? NetworkDeclaration.ofJson?) plain.networks
    services := ← f.withDefault "services" ServiceSwitches.ofJson? plain.services
    indexOffset := ← f.withDefault "interface_index_offset" Json.uint32? plain.indexOffset }

def Scenario.ofText? (s : String) : Option Scenario := (Json.parse? s).bind Scenario.ofJson?

def Edition.toJson (e : Edition) : Json :=
  .ofMembers
    [("instance_number", .ofOption .ofUInt32 e.instances),
     ("teacher_access", .ofOption .bool e.teacherAccess), ("elastic", .ofOption .bool e.elastic),
     ("caldera", .ofOption .bool e.caldera)]

def Edition.ofJson? (v : Json) : Option Edition := do
  let f ← v.fields? ["instance_number", "teacher_access", "elastic", "caldera"]
  return {
    instances := ← f.withDefault "instance_number" (Json.option? Json.uint32?) none
    teacherAccess := ← f.withDefault "teacher_access" (Json.option? Json.bool?) none
    elastic := ← f.withDefault "elastic" (Json.option? Json.bool?) none
    caldera := ← f.withDefault "caldera" (Json.option? Json.bool?) none }

def Edition.ofText? (s : String) : Option Edition := (Json.parse? s).bind Edition.ofJson?

/-! ## Queries -/

def Query.toJson (q : Query) : Json :=
  .ofMembers
    [("instances", .ofList .ofUInt32 q.instances), ("guests", .ofList .ofString q.guests),
     ("copies", .ofList .ofUInt32 q.copies), ("only_instances", .bool q.onlyInstances),
     ("exclude", .ofList .ofString q.exclude)]

def Query.ofJson? (v : Json) : Option Query := do
  let f ← v.fields? ["instances", "guests", "copies", "only_instances", "exclude"]
  let plain : Query := {}
  return {
    instances := ← f.withDefault "instances" (Json.list? Json.uint32?) plain.instances
    guests := ← f.withDefault "guests" (Json.list? Json.string?) plain.guests
    copies := ← f.withDefault "copies" (Json.list? Json.uint32?) plain.copies
    onlyInstances := ← f.withDefault "only_instances" Json.bool? plain.onlyInstances
    exclude := ← f.withDefault "exclude" (Json.list? Json.string?) plain.exclude }

end RangeLab
