import RangeLab.Guest
import RangeLab.Json.Fields

/-!
# Parts of a lab in JSON

The JSON forms of names, roles, networks and guests. Each type has a form that is written and a
reader that takes every record of its fields; slugs are read from any text that has one.
-/

namespace RangeLab

/-! ## Names -/

def Slug.toJson (s : Slug) : Json := .ofString s.text

def Slug.ofJson? (v : Json) : Option Slug := v.string?.bind Slug.ofText?

def Json.ofUInt32 (n : UInt32) : Json := .natural n.toNat

def Service.toJson (s : Service) : Json := .ofString s.id

/-- Reads a service: its identifier, or an object that has it as its only member, with nothing in
it. -/
def Service.ofJson? : Json → Option Service
  | .string (some id) => Service.ofId? id
  | .object [(some id, .null)] => Service.ofId? id
  | _ => none

def MachineName.toJson (m : MachineName) : Json :=
  .ofMembers
    [("institution", m.institution.toJson), ("lab", m.lab.toJson),
     ("instance", .ofUInt32 m.instanceNumber), ("base", m.base.toJson),
     ("copy", .ofOption .ofUInt32 m.copy)]

def MachineName.ofJson? (v : Json) : Option MachineName := do
  let f ← v.fields? ["institution", "lab", "instance", "base", "copy"]
  return {
    institution := ← f.required "institution" Slug.ofJson?
    lab := ← f.required "lab" Slug.ofJson?
    instanceNumber := ← f.required "instance" Json.uint32?
    base := ← f.required "base" Slug.ofJson?
    copy := ← f.optional "copy" Json.uint32? }

/-! ## Roles -/

def Sizing.toJson (s : Sizing) : Json :=
  .ofMembers
    [("vcpu", .ofUInt32 s.vcpu), ("memory", .ofUInt32 s.memory), ("disk", .ofUInt32 s.disk)]

def Sizing.ofJson? (v : Json) : Option Sizing := do
  let f ← v.fields? ["vcpu", "memory", "disk"]
  return {
    vcpu := ← f.required "vcpu" Json.uint32?
    memory := ← f.required "memory" Json.uint32?
    disk := ← f.required "disk" Json.uint32? }

def Role.toJson (r : Role) : Json :=
  .ofMembers
    [("name", r.name.toJson), ("sizing", r.sizing.toJson), ("copies", .ofUInt32 r.copies),
     ("entry_point", .bool r.entryPoint), ("internet_access", .bool r.internetAccess),
     ("os", .ofString r.os)]

def Role.ofJson? (v : Json) : Option Role := do
  let f ← v.fields? ["name", "sizing", "copies", "entry_point", "internet_access", "os"]
  return {
    name := ← f.required "name" Slug.ofJson?
    sizing := ← f.required "sizing" Sizing.ofJson?
    copies := ← f.required "copies" Json.uint32?
    entryPoint := ← f.required "entry_point" Json.bool?
    internetAccess := ← f.required "internet_access" Json.bool?
    os := ← f.required "os" Json.string? }

/-! ## Networks -/

def Segment.toJson (s : Segment) : Json :=
  .ofMembers
    [("name", s.name.toJson), ("index", .natural s.index),
     ("members", .ofList Slug.toJson s.members)]

/-- Reads a segment. Its index must fit in 64 bits. -/
def Segment.ofJson? (v : Json) : Option Segment := do
  let f ← v.fields? ["name", "index", "members"]
  return {
    name := ← f.required "name" Slug.ofJson?
    index := (← f.required "index" Json.uint64?).toNat
    members := ← f.required "members" (Json.list? Slug.ofJson?) }

def Ipv4.Block.toJson (b : Ipv4.Block) : Json := .ofString b.render

def Ipv4.Block.ofJson? (v : Json) : Option Ipv4.Block := v.string?.bind Ipv4.Block.ofText?

def Ipv4.Address.toJson (a : Ipv4.Address) : Json := .ofString a.render

/-- Reads an address, without leading zeros. -/
def Ipv4.Address.ofJson? (v : Json) : Option Ipv4.Address :=
  v.string?.bind fun s => Ipv4.Address.ofPlainQuad? s.toList

def Network.toJson (n : Network) : Json :=
  .ofMembers
    [("name", .ofString n.name), ("base_name", n.base.toJson),
     ("instance", .ofUInt32 n.instanceNumber), ("cidr", n.block.toJson),
     ("members", .ofList Slug.toJson n.members)]

def Network.ofJson? (v : Json) : Option Network := do
  let f ← v.fields? ["name", "base_name", "instance", "cidr", "members"]
  return {
    name := ← f.required "name" Json.string?
    base := ← f.required "base_name" Slug.ofJson?
    instanceNumber := ← f.required "instance" Json.uint32?
    block := ← f.required "cidr" Ipv4.Block.ofJson?
    members := ← f.required "members" (Json.list? Slug.ofJson?) }

def Interface.toJson (i : Interface) : Json :=
  .ofMembers
    [("name", .ofString i.name), ("index", .ofUInt32 i.index), ("ip", i.address.toJson),
     ("mask", .natural i.mask.toNat), ("network", .ofString i.network)]

def Interface.ofJson? (v : Json) : Option Interface := do
  let f ← v.fields? ["name", "index", "ip", "mask", "network"]
  return {
    name := ← f.required "name" Json.string?
    index := ← f.required "index" Json.uint32?
    address := ← f.required "ip" Ipv4.Address.ofJson?
    mask := ← f.required "mask" Json.uint8?
    network := ← f.required "network" Json.string? }

/-! ## Guests -/

def Interface.tableToJson (table : List (String × Interface)) : Json :=
  .ofMembers (table.map fun (name, i) => (name, i.toJson))

def Guest.toJson (g : Guest) : Json :=
  .ofMembers
    [("name", .ofString g.name), ("instance", .ofUInt32 g.instanceNumber),
     ("copy", .ofUInt32 g.copy), ("role", g.role.toJson),
     ("interfaces", Interface.tableToJson g.interfaces)]

def Guest.ofJson? (v : Json) : Option Guest := do
  let f ← v.fields? ["name", "instance", "copy", "role", "interfaces"]
  return {
    name := ← f.required "name" Json.string?
    instanceNumber := ← f.required "instance" Json.uint32?
    copy := ← f.required "copy" Json.uint32?
    role := ← f.required "role" Role.ofJson?
    interfaces := ← f.required "interfaces" (Json.table? Interface.ofJson?) }

def ServiceGuest.toJson (g : ServiceGuest) : Json :=
  .ofMembers [("name", .ofString g.name), ("service", g.service.toJson)]

end RangeLab
