import RangeLab.Fault
import RangeLab.Numeral
import RangeLab.Service

/-!
# Names

Everything in a lab is known by a name made of dash-separated components:

* a guest by `institution-lab-instance-base`, with `-copy` behind it if its role has several copies;
* a network by `institution-lab-instance-base`;
* an interface by the name of its guest and its ordinal;
* a service by `institution-lab-service`.

Names of guests can be read back. Slugs have no dash, so a name has one reading at most.
-/

namespace RangeLab

/-- The institution and the lab that every name begins with. -/
structure LabId where
  institution : Slug
  lab : Slug
  deriving DecidableEq

structure MachineName where
  institution : Slug
  lab : Slug
  instanceNumber : UInt32
  base : Slug
  /-- The number of the copy; absent if the role has a single copy. -/
  copy : Option UInt32
  deriving DecidableEq

namespace MachineName

/-- The number of the copy, 1 for the single copy of a role. -/
def copyNumber (m : MachineName) : UInt32 := m.copy.getD 1

def render (m : MachineName) : String :=
  m.institution.text ++ "-" ++ m.lab.text ++ "-" ++ toString m.instanceNumber ++ "-"
    ++ m.base.text
    ++ match m.copy with
      | none => ""
      | some copy => "-" ++ toString copy

instance : ToString MachineName := ⟨render⟩

def slug? (cs : List Char) : Option Slug := Slug.ofCanonical? (String.ofList cs)

def ofComponents? : List (List Char) → Option MachineName
  | [institution, lab, number, base] => do
    return {
      institution := ← slug? institution
      lab := ← slug? lab
      instanceNumber := ← Numeral.ordinal? number
      base := ← slug? base
      copy := none }
  | [institution, lab, number, base, copy] => do
    return {
      institution := ← slug? institution
      lab := ← slug? lab
      instanceNumber := ← Numeral.ordinal? number
      base := ← slug? base
      copy := some (← Numeral.ordinal? copy) }
  | _ => none

/-- The name that a text is the written form of. -/
def parse? (name : String) : Option MachineName := ofComponents? (name.toList.splitOn '-')

def read (name : String) : Except NameFault MachineName :=
  match parse? name with
  | some m => .ok m
  | none => .error (.notMachine name)

end MachineName

namespace LabId

/-- The lab of an institution, both given by any text. -/
def read (institution lab : String) : Except NameFault LabId := do
  return { institution := ← Slug.read institution, lab := ← Slug.read lab }

def machineName (id : LabId) (instanceNumber : UInt32) (base : Slug) (copy copies : UInt32) :
    MachineName where
  institution := id.institution
  lab := id.lab
  instanceNumber
  base
  copy := if copies > 1 then some copy else none

def networkName (id : LabId) (instanceNumber : UInt32) (base : Slug) : String :=
  id.institution.text ++ "-" ++ id.lab.text ++ "-" ++ toString instanceNumber ++ "-" ++ base.text

def serviceName (id : LabId) (service : Service) : String :=
  id.institution.text ++ "-" ++ id.lab.text ++ "-" ++ service.id

def maxNameLength : Nat := 253

/-- Refuses a lab whose names could not be long enough for more than institution and lab. -/
def check (id : LabId) : Except NameFault Unit :=
  if id.institution.text.length + id.lab.text.length + 1 > maxNameLength then
    .error (.tooLong id.institution id.lab)
  else .ok ()

end LabId

def machineName (institution lab : String) (instanceNumber : UInt32) (base : String)
    (copy copies : UInt32) : Except NameFault MachineName := do
  let id ← LabId.read institution lab
  return id.machineName instanceNumber (← Slug.read base) copy copies

def networkName (institution lab : String) (instanceNumber : UInt32) (base : String) :
    Except NameFault String := do
  let id ← LabId.read institution lab
  return id.networkName instanceNumber (← Slug.read base)

def interfaceName (guest : String) (ordinal : UInt32) : Except NameFault String :=
  if guest.isEmpty then .error .noOwner else .ok (guest ++ "-" ++ toString ordinal)

end RangeLab
