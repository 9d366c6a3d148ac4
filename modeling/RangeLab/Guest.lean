import RangeLab.Name
import RangeLab.Table
import RangeLab.Topology

/-!
# Guests

A guest is one copy of a role in one instance. It has an interface on each segment that its role is
attached to. The address of the interface is decided by places alone: the place of the role among
the members of the segment, which has one member for each copy, and the number of the copy. So no
two guests meet at an address.
-/

namespace RangeLab

/-- One copy of a role in one instance. -/
structure Guest where
  name : String
  instanceNumber : UInt32
  copy : UInt32
  role : Role
  /-- The interfaces by name, in the order of the names. -/
  interfaces : List (String × Interface)
  deriving DecidableEq

structure ServiceGuest where
  name : String
  service : Service
  deriving DecidableEq

inductive Machine where
  | scenario (guest : Guest)
  | infrastructure (guest : ServiceGuest)
  deriving DecidableEq

namespace Machine

def name : Machine → String
  | .scenario guest => guest.name
  | .infrastructure guest => guest.name

def base : Machine → String
  | .scenario guest => guest.role.name.text
  | .infrastructure guest => guest.service.id

def instance? : Machine → Option UInt32
  | .scenario guest => some guest.instanceNumber
  | .infrastructure _ => none

end Machine

/-- The interfaces of a guest by index, and where the index is the same, by name. -/
def Guest.interfacesInOrder (g : Guest) : List Interface :=
  (g.interfaces.map Prod.snd).mergeSort fun a b => a.index ≤ b.index

/-! ## Expansion -/

def LabId.guestsOf (id : LabId) (instanceNumber : UInt32) (role : Role) : List Guest :=
  (ordinals role.guestCount).map fun copy =>
    { name := (id.machineName instanceNumber role.name copy role.copies).render
      instanceNumber, copy, role
      interfaces := [] }

/-- The guests of a lab, without interfaces: by instance, then by role in the order of declaration,
then by copy. A lab without roles has no guests, whatever the number of its instances. -/
def LabId.guests (id : LabId) (roles : List Role) (instances : UInt32) : List Guest :=
  if roles.isEmpty then []
  else (ordinals instances).flatMap fun instanceNumber => roles.flatMap (id.guestsOf instanceNumber)

def LabId.serviceGuests (id : LabId) (services : List Service) : List ServiceGuest :=
  services.map fun service => { name := id.serviceName service, service }

/-! ## Interfaces -/

/-- The number of hosts of each network that are kept free, for a gateway and the like. -/
def reservedHosts : Nat := 3

namespace Guest

/-- The number of the host that a guest is on a segment. Copies are numbered from 1. -/
def hostOffset (g : Guest) (segment : Segment) : Except Fault Nat :=
  match segment.position? g.role.name with
  | some position => .ok (position + g.copy.toNat + reservedHosts - 1)
  | none => .error (.memberNotFound g.role.name segment.name)

/-- The interface of a guest on the network of a segment. The ordinal is the place of the segment
among those of the guest, counted from 1; the index makes room below it for the interfaces of a
platform. -/
def interfaceOn (g : Guest) (ordinal : UInt32) (segment : Segment) (network : Network)
    (indexOffset : UInt32) : Except Fault Interface := do
  let offset ← g.hostOffset segment
  if ordinal.toNat + indexOffset.toNat ≥ UInt32.size then
    throw (.badSetting (.indexOverflow ordinal indexOffset))
  match network.block.host? offset with
  | none => throw (.addressOutOfRange network.block offset network.block.usableHosts)
  | some address =>
    let name ← (interfaceName g.name ordinal).mapError .badName
    return {
      name
      index := ordinal + indexOffset
      address
      mask := UInt8.ofNat network.block.length
      network := network.name }

/-- The interface of a guest on a segment at a place among those of the guest, counted from 0. The
network of the segment is looked up among those of the guest's instance. -/
def interfaceAt (networkOf : UInt32 → Segment → Option Network) (indexOffset : UInt32) (g : Guest)
    (entry : Segment × Nat) : Except Fault Interface :=
  match networkOf g.instanceNumber entry.1 with
  | none => .error (.badSetting (.noSubnet entry.1.name g.instanceNumber))
  | some network => g.interfaceOn (UInt32.ofNat (entry.2 + 1)) entry.1 network indexOffset

/-- All interfaces of a guest by name, made in the order in which its networks are declared. -/
def allocate (g : Guest) (topology : Topology) (networkOf : UInt32 → Segment → Option Network)
    (indexOffset : UInt32) : Except Fault (List (String × Interface)) := do
  let entries := (topology.segmentsOf g.role.name).zipIdx
  let interfaces ← entries.mapM (interfaceAt networkOf indexOffset g)
  return Table.ofEntries (interfaces.map fun interface => (interface.name, interface))

end Guest

end RangeLab
