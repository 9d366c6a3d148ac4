import RangeLab.Inventory

/-!
# Queries

A query selects machines of an inventory by instance, by role and by copy, less those of some
roles. An empty filter restricts nothing. A filter that names something the lab does not have is
refused, and so is a query that selects no machine.
-/

namespace RangeLab

structure Query where
  instances : List UInt32 := []
  /-- Names of roles in any spelling, and identifiers of services. -/
  guests : List String := []
  copies : List UInt32 := []
  /-- Whether the machines of services are left out. -/
  onlyInstances : Bool := true
  /-- Names of roles and identifiers of services whose machines are taken away. -/
  exclude : List String := []
  deriving DecidableEq

/-- Filters that have been checked against an inventory. -/
structure Filters where
  instances : List UInt32
  /-- Slugs of roles and identifiers of services. -/
  roles : List String
  copies : List UInt32
  exclude : List String

/-! ## Checking -/

/-- The text that stands for a role or service among the filters. -/
def RoleKind.key (kind : RoleKind) (name : String) : String :=
  match kind with
  | .infrastructure service => service.id
  | .scenario _ => String.ofList (Slug.letters name)

/-- What an excluded name may stand for: a service, as it is, or a role, by its slug. -/
def excludeKeys (name : String) : List String :=
  match Slug.ofText? name with
  | some slug => [name, slug.text]
  | none => [name]

namespace Machine

/-- The largest copy number among the machines of the same role or service. -/
def maxCopy : Machine → UInt32
  | .scenario guest => guest.role.guestCount
  | .infrastructure _ => 1

end Machine

namespace Query

def checkInstances (q : Query) (inv : Inventory) : Except Fault Unit :=
  match q.instances.find? fun n => n == 0 || n > inv.instances with
  | some bad => .error (.badFilter (.noInstance bad inv.instances))
  | none => .ok ()

def kinds (q : Query) (inv : Inventory) : Except Fault (List RoleKind) :=
  q.guests.mapM fun name =>
    match inv.roleKind? name q.onlyInstances with
    | some kind => .ok kind
    | none => .error (.badFilter (.noGuest name))

/-- The largest copy number that the query may name: that of the roles and services it names, or
of all machines if it names none. -/
def maxCopy (q : Query) (inv : Inventory) (kinds : List RoleKind) : Nat :=
  let bounds :=
    if kinds.isEmpty then (inv.machines q.onlyInstances).map Machine.maxCopy
    else kinds.map RoleKind.maxCopy
  ((bounds.map UInt32.toNat).max?).getD 0

/-- Refuses a query for a copy that none of the selected roles has. -/
def checkCopies (q : Query) (largest : Nat) : Except Fault Unit :=
  match q.copies.find? fun n => n == 0 || n.toNat > largest with
  | some bad => .error (.badFilter (.noCopy bad largest))
  | none => .ok ()

def filters (q : Query) (inv : Inventory) : Except Fault Filters := do
  q.checkInstances inv
  let kinds ← q.kinds inv
  q.checkCopies (q.maxCopy inv kinds)
  return {
    instances := q.instances
    roles := (kinds.zip q.guests).map fun (kind, name) => kind.key name
    copies := q.copies
    exclude := q.exclude.flatMap excludeKeys }

end Query

/-! ## Selecting -/

namespace Filters

def matchesInstance (f : Filters) (m : Machine) : Bool :=
  f.instances.isEmpty ||
    match m.instance? with
    | some n => f.instances.contains n
    | none => false

def matchesRole (f : Filters) (m : Machine) : Bool := f.roles.isEmpty || f.roles.contains m.base

/-- The machine is a selected copy. A machine without copy number is copy 1. -/
def matchesCopy (f : Filters) (m : Machine) : Bool :=
  f.copies.isEmpty ||
    match m with
    | .scenario guest => f.copies.contains (if guest.role.isSingleton then 1 else guest.copy)
    | .infrastructure _ => f.copies.contains 1

def isExcluded (f : Filters) (m : Machine) : Bool := f.exclude.contains m.base

def selects (f : Filters) (m : Machine) : Bool :=
  f.matchesInstance m && f.matchesRole m && f.matchesCopy m && !f.isExcluded m

end Filters

/-- The names of the machines that a query selects, in the order of the inventory. -/
def Inventory.resolve (inv : Inventory) (q : Query) : Except Fault (List String) := do
  let filters ← q.filters inv
  let names := ((inv.machines q.onlyInstances).filter filters.selects).map Machine.name
  if names.isEmpty then throw .noMatch
  return names

end RangeLab
