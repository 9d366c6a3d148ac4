import RangeLab.Inventory

/-!
# Records

An inventory as plain data for provisioning tools: every name is final, and addresses are text.
-/

namespace RangeLab

structure InterfaceRecord where
  name : String
  index : UInt32
  ip : String
  mask : UInt8
  network : String
  deriving DecidableEq

structure GuestRecord where
  name : String
  base : String
  instanceNumber : UInt32
  copy : UInt32
  os : String
  vcpu : UInt32
  memory : UInt32
  disk : UInt32
  entryPoint : Bool
  internetAccess : Bool
  /-- In the order of their indices. -/
  interfaces : List InterfaceRecord
  deriving DecidableEq

structure NetworkRecord where
  name : String
  base : String
  instanceNumber : UInt32
  cidr : String
  /-- The roles that are attached, each once. -/
  members : List String
  deriving DecidableEq

structure InventoryRecord where
  institution : String
  lab : String
  instances : UInt32
  randomSeed : Option UInt64
  reservedBlock : Option String
  networks : List NetworkRecord
  guests : List GuestRecord
  services : List String
  deriving DecidableEq

def Interface.toRecord (i : Interface) : InterfaceRecord where
  name := i.name
  index := i.index
  ip := i.address.render
  mask := i.mask
  network := i.network

def Guest.toRecord (g : Guest) : GuestRecord where
  name := g.name
  base := g.role.name.text
  instanceNumber := g.instanceNumber
  copy := g.copy
  os := g.role.os
  vcpu := g.role.sizing.vcpu
  memory := g.role.sizing.memory
  disk := g.role.sizing.disk
  entryPoint := g.role.entryPoint
  internetAccess := g.role.internetAccess
  interfaces := g.interfacesInOrder.map Interface.toRecord

/-- The record of a network. Members that stand for several copies are listed where they first
occur. -/
def Network.toRecord (n : Network) : NetworkRecord where
  name := n.name
  base := n.base.text
  instanceNumber := n.instanceNumber
  cidr := n.block.render
  members := n.members.eraseDups.map Slug.text

namespace Inventory

def guestRecords (inv : Inventory) : List GuestRecord := inv.guests.map Guest.toRecord

def networkRecords (inv : Inventory) : List NetworkRecord := inv.networks.map Network.toRecord

def toRecord (inv : Inventory) : InventoryRecord where
  institution := inv.id.institution.text
  lab := inv.id.lab.text
  instances := inv.instances
  randomSeed := inv.randomSeed
  reservedBlock := inv.reserved?.map Ipv4.Block.render
  networks := inv.networkRecords
  guests := inv.guestRecords
  services := inv.services.map ServiceGuest.name

end Inventory

end RangeLab
