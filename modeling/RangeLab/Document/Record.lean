import RangeLab.Document.Lab
import RangeLab.Json.Printer
import RangeLab.Record

/-!
# Records in JSON

The document that a lab is handed on as. It is laid out for people to read, and what is read from
it is the record it was written from.
-/

namespace RangeLab

def InterfaceRecord.toJson (r : InterfaceRecord) : Json :=
  .ofMembers
    [("name", .ofString r.name), ("index", .ofUInt32 r.index), ("ip", .ofString r.ip),
     ("mask", .natural r.mask.toNat), ("network", .ofString r.network)]

def InterfaceRecord.ofJson? (v : Json) : Option InterfaceRecord := do
  let f ← v.fields? ["name", "index", "ip", "mask", "network"]
  return {
    name := ← f.required "name" Json.string?
    index := ← f.required "index" Json.uint32?
    ip := ← f.required "ip" Json.string?
    mask := ← f.required "mask" Json.uint8?
    network := ← f.required "network" Json.string? }

def GuestRecord.toJson (r : GuestRecord) : Json :=
  .ofMembers
    [("name", .ofString r.name), ("base_name", .ofString r.base),
     ("instance", .ofUInt32 r.instanceNumber), ("copy", .ofUInt32 r.copy), ("os", .ofString r.os),
     ("vcpu", .ofUInt32 r.vcpu), ("memory", .ofUInt32 r.memory), ("disk", .ofUInt32 r.disk),
     ("entry_point", .bool r.entryPoint), ("internet_access", .bool r.internetAccess),
     ("interfaces", .ofList InterfaceRecord.toJson r.interfaces)]

def GuestRecord.ofJson? (v : Json) : Option GuestRecord := do
  let f ← v.fields?
    ["name", "base_name", "instance", "copy", "os", "vcpu", "memory", "disk", "entry_point",
     "internet_access", "interfaces"]
  return {
    name := ← f.required "name" Json.string?
    base := ← f.required "base_name" Json.string?
    instanceNumber := ← f.required "instance" Json.uint32?
    copy := ← f.required "copy" Json.uint32?
    os := ← f.required "os" Json.string?
    vcpu := ← f.required "vcpu" Json.uint32?
    memory := ← f.required "memory" Json.uint32?
    disk := ← f.required "disk" Json.uint32?
    entryPoint := ← f.required "entry_point" Json.bool?
    internetAccess := ← f.required "internet_access" Json.bool?
    interfaces := ← f.required "interfaces" (Json.list? InterfaceRecord.ofJson?) }

def NetworkRecord.toJson (r : NetworkRecord) : Json :=
  .ofMembers
    [("name", .ofString r.name), ("base_name", .ofString r.base),
     ("instance", .ofUInt32 r.instanceNumber), ("cidr", .ofString r.cidr),
     ("members", .ofList .ofString r.members)]

def NetworkRecord.ofJson? (v : Json) : Option NetworkRecord := do
  let f ← v.fields? ["name", "base_name", "instance", "cidr", "members"]
  return {
    name := ← f.required "name" Json.string?
    base := ← f.required "base_name" Json.string?
    instanceNumber := ← f.required "instance" Json.uint32?
    cidr := ← f.required "cidr" Json.string?
    members := ← f.required "members" (Json.list? Json.string?) }

/-- The member for a value that is left out when it is absent. -/
def memberIfSome {α : Type} (name : String) (f : α → Json) : Option α → List (String × Json)
  | none => []
  | some a => [(name, f a)]

def InventoryRecord.toJson (r : InventoryRecord) : Json :=
  .ofMembers <|
    [("institution", .ofString r.institution), ("lab_name", .ofString r.lab),
     ("instance_number", .ofUInt32 r.instances)]
      ++ memberIfSome "random_seed" (fun seed => .natural seed.toNat) r.randomSeed
      ++ memberIfSome "reserved_block" .ofString r.reservedBlock
      ++ [("networks", .ofList NetworkRecord.toJson r.networks),
          ("guests", .ofList GuestRecord.toJson r.guests),
          ("services", .ofList .ofString r.services)]

def InventoryRecord.ofJson? (v : Json) : Option InventoryRecord := do
  let f ← v.fields?
    ["institution", "lab_name", "instance_number", "random_seed", "reserved_block", "networks",
     "guests", "services"]
  return {
    institution := ← f.required "institution" Json.string?
    lab := ← f.required "lab_name" Json.string?
    instances := ← f.required "instance_number" Json.uint32?
    randomSeed := ← f.optional "random_seed" Json.uint64?
    reservedBlock := ← f.optional "reserved_block" Json.string?
    networks := ← f.required "networks" (Json.list? NetworkRecord.ofJson?)
    guests := ← f.required "guests" (Json.list? GuestRecord.ofJson?)
    services := ← f.required "services" (Json.list? Json.string?) }

def InventoryRecord.toText (r : InventoryRecord) : String := r.toJson.pretty

def InventoryRecord.ofText? (s : String) : Option InventoryRecord :=
  (Json.parse? s).bind InventoryRecord.ofJson?

end RangeLab
