import RangeLab.Service
import RangeLab.Slug

/-!
# Roles

A role is what a lab declares of its guests: how large they are, what they run, and how many copies
of them each instance has.
-/

namespace RangeLab

/-- The size of a guest: processors, memory in MiB and disk in GiB. -/
structure Sizing where
  vcpu : UInt32 := 1
  memory : UInt32 := 1024
  disk : UInt32 := 10
  deriving DecidableEq

def defaultOs : String := "ubuntu22"

structure Role where
  name : Slug
  sizing : Sizing := {}
  copies : UInt32 := 1
  entryPoint : Bool := false
  internetAccess : Bool := false
  os : String := defaultOs
  deriving DecidableEq

/-- A setting that a role may be given after its name. -/
inductive RoleSetting where
  | sizing (s : Sizing)
  | copies (n : UInt32)
  | entryPoint (b : Bool)
  | internetAccess (b : Bool)
  | os (name : String)
  deriving DecidableEq

namespace Role

/-- The role with one setting made anew. -/
def set (r : Role) : RoleSetting → Role
  | .sizing s => { r with sizing := s }
  | .copies n => { r with copies := n }
  | .entryPoint b => { r with entryPoint := b }
  | .internetAccess b => { r with internetAccess := b }
  | .os name => { r with os := name }

/-- The number of guests that an instance has of a role. A role with no copies has one guest. -/
def guestCount (r : Role) : UInt32 := if r.copies = 0 then 1 else r.copies

/-- Whether the guests of a role have no copy number in their names. -/
def isSingleton (r : Role) : Bool := r.copies ≤ 1

end Role

/-- What the name of a role refers to. -/
inductive RoleKind where
  /-- A declared role with so many copies. -/
  | scenario (copies : UInt32)
  | infrastructure (service : Service)
  deriving DecidableEq

/-- The largest copy number that a machine of this kind can have. -/
def RoleKind.maxCopy : RoleKind → UInt32
  | .scenario copies => if copies = 0 then 1 else copies
  | .infrastructure _ => 1

end RangeLab
