import RangeLab.AddressPlan
import RangeLab.Guest
import RangeLab.Scenario

/-!
# Inventories

Everything a lab consists of: its networks with their blocks, its guests with their interfaces, the
machines of its services. An inventory is made from a scenario as a whole or not at all, and it is
a function of the scenario alone.
-/

namespace RangeLab

structure Inventory where
  id : LabId
  instances : UInt32
  randomSeed : Option UInt64
  topology : Topology
  plan : AddressPlan
  /-- By instance, then in the order of declaration. -/
  networks : List Network
  /-- By instance, then by role in the order of declaration, then by copy. -/
  guests : List Guest
  services : List ServiceGuest
  deriving DecidableEq

/-- The network of a segment in an instance, if the plan has a block for it. -/
def AddressPlan.network? (plan : AddressPlan) (id : LabId) (instanceNumber : UInt32)
    (segment : Segment) : Option Network :=
  (plan.subnet? instanceNumber segment.index).map fun block =>
    { name := id.networkName instanceNumber segment.name
      base := segment.name
      instanceNumber, block
      members := segment.members }

def AddressPlan.networkList (plan : AddressPlan) (id : LabId) (segments : List Segment) :
    List Network :=
  (ordinals plan.instances).flatMap fun instanceNumber =>
    segments.filterMap (plan.network? id instanceNumber)

namespace Inventory

/-! ## Making -/

/-- The inventory of a lab from parts that have been checked. -/
def build (id : LabId) (instances : UInt32) (root : Ipv4.Block) (topology : Topology)
    (services : ServiceSwitches) (indexOffset : UInt32) (randomSeed : Option UInt64) :
    Except Fault Inventory := do
  let plan ← AddressPlan.make root instances topology.segments.length
  let guests ← (id.guests topology.roles instances).mapM fun guest => do
    return { guest with interfaces := ← guest.allocate topology (plan.network? id) indexOffset }
  return {
    id, instances, randomSeed, topology, plan
    networks := plan.networkList id topology.segments
    guests
    services := id.serviceGuests services.enabled }

def compile (s : Scenario) : Except Fault Inventory := do
  let id ← (LabId.read s.institution s.lab).mapError .badName
  id.check.mapError .badName
  let root ← (Ipv4.Block.readRoot s.rootBlock).mapError .badRoot
  let topology ← Topology.ofScenario s.roles s.networks
  build id s.instances root topology s.services s.indexOffset s.randomSeed

/-! ## Looking up -/

def reserved? (inv : Inventory) : Option Ipv4.Block := inv.plan.reserved?

def guest? (inv : Inventory) (name : String) : Option Guest :=
  inv.guests.findRev? fun guest => guest.name == name

def network? (inv : Inventory) (name : String) : Option Network :=
  inv.networks.find? fun network => network.name == name

/-- The network of a segment in an instance, the segment named by any text. -/
def networkOf? (inv : Inventory) (instanceNumber : UInt32) (base : String) : Option Network := do
  let slug ← Slug.ofText? base
  inv.networks.find? fun network =>
    network.instanceNumber == instanceNumber && network.base == slug

def guestsOfInstance (inv : Inventory) (instanceNumber : UInt32) : List Guest :=
  inv.guests.filter fun guest => guest.instanceNumber == instanceNumber

def entryPoints (inv : Inventory) : List Guest :=
  inv.guests.filter fun guest => guest.role.entryPoint

def internetFacing (inv : Inventory) : List Guest :=
  inv.guests.filter fun guest => guest.role.internetAccess

/-- The machines of a lab: the guests and then, unless they are left out, the services. -/
def machines (inv : Inventory) (onlyInstances : Bool) : List Machine :=
  inv.guests.map .scenario
    ++ if onlyInstances then [] else inv.services.map .infrastructure

def machineNames (inv : Inventory) (onlyInstances : Bool) : List String :=
  (inv.machines onlyInstances).map Machine.name

/-- What the name of a role refers to. An enabled service is named by its exact identifier, unless
services are left out; a role is named in any spelling. -/
def roleKind? (inv : Inventory) (name : String) (onlyInstances : Bool) : Option RoleKind :=
  let service? := if onlyInstances then none else Service.ofId? name
  match service?.filter fun service => inv.services.any fun guest => guest.service == service with
  | some service => some (.infrastructure service)
  | none => do
    let slug ← Slug.ofText? name
    let role ← inv.topology.role? slug
    return .scenario role.copies

end Inventory

end RangeLab
