import RangeLab.Fault
import RangeLab.Role

/-!
# Rules for declarations

What the declarations of a lab must satisfy before anything is made of them. Each rule is a check
that names the first offender in the order of declaration. Names are compared as slugs.
-/

namespace RangeLab

/-- The first element of a list that occurs before it, in the list or among `seen`. -/
def firstRepeat? {α : Type} [DecidableEq α] (seen : List α) : List α → Option α
  | [] => none
  | a :: as => if a ∈ seen then some a else firstRepeat? (a :: seen) as

/-- The number of copies that a role can have at most: the hosts of a block of 256 addresses, less
those that are kept free. -/
def maxCopies : UInt32 := 251

/-- No two things of one kind share a name. -/
def checkUnique (kind : NameKind) (names : List Slug) : Except Fault Unit :=
  match firstRepeat? [] names with
  | some name => .error (.duplicateName kind name.text)
  | none => .ok ()

/-- Every member of a network is a declared role. -/
def checkDeclared (network : Slug) (roles members : List Slug) : Except Fault Unit :=
  match members.find? fun member => !roles.contains member with
  | some member => .error (.undeclaredMember network member)
  | none => .ok ()

/-- No role is a member of a network twice. -/
def checkMembersUnique (network : Slug) (members : List Slug) : Except Fault Unit :=
  match firstRepeat? [] members with
  | some member => .error (.duplicateName .member (network.text ++ "/" ++ member.text))
  | none => .ok ()

/-- No role has a slug that is the identifier of a service, enabled or not. -/
def checkNotService (role : Slug) : Except Fault Unit :=
  match Service.ofId? role.text with
  | some service => .error (.duplicateName .service service.id)
  | none => .ok ()

def checkCopies (role : Role) : Except Fault Unit :=
  if role.copies > maxCopies then
    .error (.badSetting (.tooManyCopies role.name role.copies maxCopies))
  else .ok ()

end RangeLab
