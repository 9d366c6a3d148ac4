import RangeLab.Proofs.Slug
import RangeLab.Service

/-!
# Identifiers of services

The identifiers tell the services apart and have no dash in them. Those of the two access hosts have
an underscore, so no slug is such an identifier.
-/

namespace RangeLab.Service

theorem id_inj {v v' : Service} : v.id = v'.id ↔ v = v' := by
  cases v <;> cases v' <;> decide

theorem mem_all (v : Service) : v ∈ all := by
  cases v <;> decide

theorem dash_not_mem_id (v : Service) : '-' ∉ v.id.toList := by
  cases v <;> decide

theorem ofId?_eq_some {s : String} {v : Service} : ofId? s = some v ↔ v.id = s := by
  constructor
  · intro h
    rw [ofId?] at h
    simpa using List.find?_some h
  · rintro rfl
    cases v <;> decide

theorem ofId?_eq_none {s : String} : ofId? s = none ↔ ∀ v : Service, v.id ≠ s := by
  rw [ofId?, List.find?_eq_none]
  exact ⟨fun h v => by simpa using h v v.mem_all, fun h v _ => by simpa using h v⟩

/-- The access hosts: the services whose identifiers have two words. -/
def isAccess : Service → Bool
  | .studentAccess | .teacherAccess => true
  | .elastic | .caldera => false

theorem underscore_mem_id_iff (v : Service) : '_' ∈ v.id.toList ↔ v.isAccess = true := by
  cases v <;> decide

theorem letters_id (v : Service) (h : v.isAccess = false) : Slug.letters v.id = v.id.toList := by
  cases v <;> first | rfl | cases h

/-- No service has the letters of another one's identifier. -/
theorem eq_of_letters_id {v v' : Service} (h : Slug.letters v.id = v'.id.toList) : v = v' := by
  revert h
  cases v <;> cases v' <;> decide

end RangeLab.Service
