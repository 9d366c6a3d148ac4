import RangeLab.Ipv4.Block
import RangeLab.Slug
import RangeLab.Text.Quoted

/-!
# Faults

Why a scenario cannot be compiled, a name not be read or a query not be answered. A fault is kept
as its cause; the words for a user are made by `message`.
-/

namespace RangeLab

/-! ## Names -/

inductive NameFault where
  /-- The text has no letter or digit to make a slug of. -/
  | empty (raw : String)
  /-- The text is not the name of a guest. -/
  | notMachine (name : String)
  /-- An interface is to be named after a guest without a name. -/
  | noOwner
  /-- The slugs of institution and lab leave no room for the rest of a machine name. -/
  | tooLong (institution lab : Slug)
  deriving DecidableEq

def NameFault.message : NameFault → String
  | .empty raw => "Name is empty after slugification: " ++ Text.quoted raw
  | .notMachine name => "not a scenario machine name: " ++ name
  | .noOwner => "interface owner name is empty"
  | .tooLong institution lab =>
    institution.text ++ "-" ++ lab.text ++ " is too long to prefix machine names"

def Slug.read (raw : String) : Except NameFault Slug :=
  match Slug.ofText? raw with
  | some slug => .ok slug
  | none => .error (.empty raw)

/-! ## Queries -/

inductive FilterFault where
  | noInstance (bad count : UInt32)
  | noGuest (name : String)
  | noCopy (bad : UInt32) (largest : Nat)
  deriving DecidableEq

def FilterFault.message : FilterFault → String
  | .noInstance bad count => "instance " ++ toString bad ++ " is outside 1..=" ++ toString count
  | .noGuest name => "unknown guest: " ++ name
  | .noCopy bad largest =>
    "copy " ++ toString bad ++ " exceeds the maximum of " ++ toString largest
      ++ " for the selected guests"

/-! ## Settings -/

inductive SettingFault where
  /-- A role has more copies than a network can have hosts. -/
  | tooManyCopies (role : Slug) (copies max : UInt32)
  /-- The index of an interface does not fit in 32 bits. -/
  | indexOverflow (ordinal offset : UInt32)
  /-- A network has no block in an instance. -/
  | noSubnet (network : Slug) (instanceNumber : UInt32)
  deriving DecidableEq

def SettingFault.message : SettingFault → String
  | .tooManyCopies role copies max =>
    "guest " ++ role.text ++ " declares " ++ toString copies ++ " copies, at most "
      ++ toString max ++ " are supported"
  | .indexOverflow ordinal offset =>
    "interface index " ++ toString ordinal ++ " + offset " ++ toString offset ++ " overflows"
  | .noSubnet network instanceNumber =>
    "no subnet for network " ++ network.text ++ " of instance " ++ toString instanceNumber

/-! ## All faults -/

/-- What is named by a name that may be given only once. -/
inductive NameKind where
  | guest
  | network
  | member
  | service
  deriving DecidableEq

def NameKind.word : NameKind → String
  | .guest => "guest"
  | .network => "network"
  | .member => "member"
  | .service => "service"

inductive Fault where
  | badName (cause : NameFault)
  | duplicateName (kind : NameKind) (name : String)
  /-- A block cannot be cut into so many parts of the given length. -/
  | addressSpaceExhausted (block : Ipv4.Block) (requested length : Nat)
  /-- A block has no host with the given number. -/
  | addressOutOfRange (block : Ipv4.Block) (offset usable : Nat)
  | memberNotFound (role network : Slug)
  | undeclaredMember (network member : Slug)
  | badRoot (cause : Ipv4.BlockFault)
  | badFilter (cause : FilterFault)
  | noMatch
  | badSetting (cause : SettingFault)
  /-- A JSON text does not describe what it should. -/
  | malformed
  deriving DecidableEq

def Fault.message : Fault → String
  | .badName cause => "Invalid name: " ++ cause.message
  | .duplicateName kind name => "Duplicate " ++ kind.word ++ " name: " ++ name
  | .addressSpaceExhausted block requested length =>
    "Address space exhausted: cannot split " ++ block.render ++ " into " ++ toString requested
      ++ " subnets of /" ++ toString length
  | .addressOutOfRange block offset usable =>
    "Host offset " ++ toString offset ++ " is out of range for " ++ block.render ++ " ("
      ++ toString usable ++ " usable hosts)"
  | .memberNotFound role network =>
    "Guest role " ++ role.text ++ " is not a member of network " ++ network.text
  | .undeclaredMember network member =>
    "Network " ++ network.text ++ " declares undeclared member " ++ member.text
  | .badRoot cause => "Invalid CIDR block: " ++ cause.message
  | .badFilter cause => "Invalid filter: " ++ cause.message
  | .noMatch => "No machines match the given filters"
  | .badSetting cause => "Configuration error: " ++ cause.message
  | .malformed => "Serialization error"

end RangeLab
