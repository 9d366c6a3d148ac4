import RangeLab.Network
import RangeLab.Topology.Rules

/-!
# Topologies

The roles and segments of a lab, in the order of declaration. The order matters: the place of a
segment decides its block, and the place of a member in a segment decides its address.
-/

namespace RangeLab

structure Topology where
  roles : List Role
  segments : List Segment
  deriving DecidableEq

namespace Topology

def checkRole (role : Role) : Except Fault Unit := do
  checkNotService role.name
  checkCopies role

def checkMembers (roles : List Slug) (network : Slug × List Slug) : Except Fault Unit := do
  checkDeclared network.1 roles network.2
  checkMembersUnique network.1 network.2

def check (roles : List Role) (networks : List (Slug × List Slug)) : Except Fault Unit := do
  checkUnique .guest (roles.map Role.name)
  roles.forM checkRole
  checkUnique .network (networks.map Prod.fst)
  networks.forM (checkMembers (roles.map Role.name))

/-- The number of guests that an instance has of the role with this name. -/
def guestCountOf (roles : List Role) (name : Slug) : Nat :=
  match roles.find? fun role => role.name == name with
  | some role => role.guestCount.toNat
  | none => 1

/-- Each member once for every guest that an instance has of it. -/
def expandMembers (roles : List Role) (members : List Slug) : List Slug :=
  members.flatMap fun member => List.replicate (guestCountOf roles member) member

/-- The topology of a lab with these roles and these networks, given by name and members. -/
def ofDeclarations (roles : List Role) (networks : List (Slug × List Slug)) :
    Except Fault Topology := do
  check roles networks
  return {
    roles
    segments := networks.mapIdx fun index network =>
      { name := network.1, index, members := expandMembers roles network.2 } }

def role? (t : Topology) (name : Slug) : Option Role := t.roles.find? fun role => role.name == name

def segmentsOf (t : Topology) (role : Slug) : List Segment :=
  t.segments.filter fun segment => segment.contains role

def maxGuestCount (t : Topology) : Nat :=
  ((t.roles.map fun role => role.guestCount.toNat).max?).getD 0

def guestsPerInstance (t : Topology) : Nat :=
  (t.roles.map fun role => role.guestCount.toNat).foldr (· + ·) 0

end Topology

end RangeLab
