import RangeLab.Role
import RangeLab.Topology

/-!
# Scenarios

The declaration of a lab as a user writes it, with names in any spelling, and the changes that an
edition of the lab makes to it. A scenario is a plain value: an edition yields a new scenario.
-/

namespace RangeLab

structure RoleDeclaration where
  name : String
  sizing : Sizing := {}
  copies : UInt32 := 1
  entryPoint : Bool := false
  internetAccess : Bool := false
  os : String := defaultOs
  deriving DecidableEq

structure NetworkDeclaration where
  name : String
  members : List String := []
  deriving DecidableEq

structure ServiceSwitches where
  studentAccess : Bool := true
  teacherAccess : Bool := false
  elastic : Bool := false
  caldera : Bool := false
  deriving DecidableEq

namespace ServiceSwitches

def isEnabled (s : ServiceSwitches) : Service → Bool
  | .studentAccess => s.studentAccess
  | .teacherAccess => s.teacherAccess
  | .elastic => s.elastic
  | .caldera => s.caldera

def enabled (s : ServiceSwitches) : List Service := Service.all.filter s.isEnabled

end ServiceSwitches

def defaultRootBlock : String := "10.0.0.0/16"

structure Scenario where
  institution : String
  lab : String
  instances : UInt32
  rootBlock : String := defaultRootBlock
  /-- A number for other tools to share; nothing in a lab depends on it. -/
  randomSeed : Option UInt64 := none
  roles : List RoleDeclaration := []
  networks : List NetworkDeclaration := []
  services : ServiceSwitches := {}
  /-- The number of interfaces that a platform gives to each guest before those of the lab. -/
  indexOffset : UInt32 := 0
  deriving DecidableEq

/-- The changes that an edition makes to a lab. What is absent stays as it is. -/
structure Edition where
  instances : Option UInt32 := none
  teacherAccess : Option Bool := none
  elastic : Option Bool := none
  caldera : Option Bool := none
  deriving DecidableEq

/-- A setting that a lab may be given after its identity. Roles and networks are added to those
that it has. -/
inductive ScenarioSetting where
  | rootBlock (text : String)
  | randomSeed (seed : UInt64)
  | role (d : RoleDeclaration)
  | network (d : NetworkDeclaration)
  | services (s : ServiceSwitches)
  | indexOffset (n : UInt32)
  deriving DecidableEq

namespace RoleDeclaration

/-- The declaration with one setting made anew. -/
def set (d : RoleDeclaration) : RoleSetting → RoleDeclaration
  | .sizing s => { d with sizing := s }
  | .copies n => { d with copies := n }
  | .entryPoint b => { d with entryPoint := b }
  | .internetAccess b => { d with internetAccess := b }
  | .os name => { d with os := name }

/-- The declared role, if its name has a slug. -/
def toRole (d : RoleDeclaration) : Except NameFault Role := do
  return {
    name := ← Slug.read d.name
    sizing := d.sizing
    copies := d.copies
    entryPoint := d.entryPoint
    internetAccess := d.internetAccess
    os := d.os }

end RoleDeclaration

namespace NetworkDeclaration

/-- The slugs of the network and its members, those of the members read first. -/
def toSlugs (d : NetworkDeclaration) : Except NameFault (Slug × List Slug) := do
  let members ← d.members.mapM Slug.read
  return (← Slug.read d.name, members)

end NetworkDeclaration

def Topology.ofScenario (roles : List RoleDeclaration) (networks : List NetworkDeclaration) :
    Except Fault Topology := do
  let roles ← (roles.mapM RoleDeclaration.toRole).mapError .badName
  let networks ← (networks.mapM NetworkDeclaration.toSlugs).mapError .badName
  Topology.ofDeclarations roles networks

namespace Scenario

/-- A lab of which nothing but its identity and the number of its instances is declared. -/
def empty (institution lab : String) (instances : UInt32) : Scenario :=
  { institution, lab, instances }

/-- The lab with one setting made anew, or with one more role or network. -/
def set (s : Scenario) : ScenarioSetting → Scenario
  | .rootBlock text => { s with rootBlock := text }
  | .randomSeed seed => { s with randomSeed := some seed }
  | .role d => { s with roles := s.roles ++ [d] }
  | .network d => { s with networks := s.networks ++ [d] }
  | .services services => { s with services }
  | .indexOffset n => { s with indexOffset := n }

/-- The lab as an edition has it. -/
def edited (s : Scenario) (e : Edition) : Scenario :=
  { s with
    instances := e.instances.getD s.instances
    services :=
      { s.services with
        teacherAccess := e.teacherAccess.getD s.services.teacherAccess
        elastic := e.elastic.getD s.services.elastic
        caldera := e.caldera.getD s.services.caldera } }

end Scenario

end RangeLab
