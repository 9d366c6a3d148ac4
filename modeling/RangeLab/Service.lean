/-!
# Infrastructure services

Machines that a lab may have beside its guests. They are a closed list and belong to no instance.
-/

namespace RangeLab

inductive Service where
  /-- The host that students connect through. -/
  | studentAccess
  /-- The host that instructors connect through. -/
  | teacherAccess
  /-- The monitoring stack. -/
  | elastic
  /-- The server that emulates adversaries. -/
  | caldera
  deriving DecidableEq, Repr

namespace Service

/-- The services in the order in which an inventory lists them. -/
def all : List Service := [.studentAccess, .teacherAccess, .elastic, .caldera]

/-- The identifier that machine names and queries use. -/
def id : Service → String
  | .studentAccess => "student_access"
  | .teacherAccess => "teacher_access"
  | .elastic => "elastic"
  | .caldera => "caldera"

instance : ToString Service := ⟨id⟩

/-- The service with exactly this identifier. -/
def ofId? (s : String) : Option Service := all.find? fun service => service.id == s

/-- The place of a service in an inventory. -/
def rank (s : Service) : Nat := all.idxOf s

/-- What is said of a text that identifies no service. -/
def unknownMessage (s : String) : String := "Unknown infrastructure service: " ++ s

end Service

end RangeLab
