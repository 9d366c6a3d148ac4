import RangeLab.Ipv4.Block
import RangeLab.Slug

/-!
# Networks and interfaces

A *segment* is a network as a lab declares it. Every instance of the lab has a *network* for each
segment, with a block of addresses of its own, and guests are attached to networks by *interfaces*.
-/

namespace RangeLab

structure Segment where
  name : Slug
  /-- The place of the segment among those of the lab. -/
  index : Nat
  /-- The roles that are attached, each once for every copy of it, in the order of declaration. -/
  members : List Slug
  deriving DecidableEq

namespace Segment

/-- The place of the first member that is this role. -/
def position? (s : Segment) (role : Slug) : Option Nat := s.members.idxOf? role

def contains (s : Segment) (role : Slug) : Bool := s.members.contains role

end Segment

structure Network where
  name : String
  base : Slug
  instanceNumber : UInt32
  block : Ipv4.Block
  members : List Slug
  deriving DecidableEq

/-- The attachment of a guest to a network. -/
structure Interface where
  name : String
  index : UInt32
  address : Ipv4.Address
  /-- The length of the network's block. -/
  mask : UInt8
  network : String
  deriving DecidableEq

namespace Interface

/-- The mask as an address. A mask that no block can have stands for the longest one. -/
def netmask (i : Interface) : Ipv4.Address :=
  if i.mask ≤ 32 then .ofNat (UInt32.size - 1 <<< (32 - i.mask.toNat)) else .last

def cidr (i : Interface) : String := i.address.render ++ "/" ++ toString i.mask

def render (i : Interface) : String := i.name ++ " (" ++ i.cidr ++ ")"

instance : ToString Interface := ⟨render⟩

end Interface

end RangeLab
