import RangeLab.Proofs.Json.Fields
import RangeLab.Proofs.Json.Reader

/-!
# A record is read back from its document

Each kind of record is written as an object with a member for each of its fields, and a field that
has no value is left out. The members have different names whichever fields are left out, so every
field is read from its own member, and the records inside are read back before the record that
holds them (`InventoryRecord.ofText?_toText`).
-/

namespace RangeLab

open Json

/-! ## The records inside an inventory

The fields are read one after another. `simp` reads each of them but leaves the sequence folded:
unfolded, it would go through all that follows twice at every field.
-/

theorem InterfaceRecord.ofJson?_toJson (r : InterfaceRecord) : ofJson? r.toJson = some r := by
  rw [toJson, ofJson?, fields?_ofMembers (by simp), Option.bind_eq_bind, Option.bind_some]
  simp [-Option.bind_eq_bind, Fields.required_fieldsOf, lookup_cons_of_ne]
  rfl

theorem GuestRecord.ofJson?_toJson (r : GuestRecord) : ofJson? r.toJson = some r := by
  have hinterfaces := list?_ofList InterfaceRecord.ofJson?_toJson r.interfaces
  rw [toJson, ofJson?, fields?_ofMembers (by simp), Option.bind_eq_bind, Option.bind_some]
  simp [-Option.bind_eq_bind, Fields.required_fieldsOf, lookup_cons_of_ne, hinterfaces]
  rfl

theorem NetworkRecord.ofJson?_toJson (r : NetworkRecord) : ofJson? r.toJson = some r := by
  have hmembers := list?_ofList string?_ofString r.members
  rw [toJson, ofJson?, fields?_ofMembers (by simp), Option.bind_eq_bind, Option.bind_some]
  simp [-Option.bind_eq_bind, Fields.required_fieldsOf, lookup_cons_of_ne, hmembers]
  rfl

/-! ## The inventory -/

section

variable {α : Type} {f : α → Json} {o : Option α} {members : List (String × Json)}

theorem lookup_memberIfSome_append (n name : String) :
    (memberIfSome n f o ++ members).lookup name
      = if name = n then (o.map f).or (members.lookup name) else members.lookup name := by
  cases o with
  | none => simp [memberIfSome]
  | some a =>
      rw [memberIfSome, List.singleton_append]
      by_cases h : name = n
      · simp [h]
      · rw [lookup_cons_of_ne h, if_neg h]

theorem InventoryRecord.ofJson?_toJson (r : InventoryRecord) : ofJson? r.toJson = some r := by
  obtain ⟨institution, lab, instances, randomSeed, reservedBlock, networks, guests, services⟩ := r
  have hseed : Fields.readIfGiven uint64? (randomSeed.map fun seed => .natural seed.toNat)
      = some randomSeed :=
    Fields.readIfGiven_map (fun _ => by nofun) uint64?_natural randomSeed
  have hblock : Fields.readIfGiven string? (reservedBlock.map ofString) = some reservedBlock :=
    Fields.readIfGiven_map (fun _ => by nofun) string?_ofString reservedBlock
  have hnetworks := list?_ofList NetworkRecord.ofJson?_toJson networks
  have hguests := list?_ofList GuestRecord.ofJson?_toJson guests
  have hservices := list?_ofList string?_ofString services
  rw [toJson, ofJson?, fields?_ofMembers, Option.bind_eq_bind, Option.bind_some]
  · simp [-Option.bind_eq_bind, Fields.required_fieldsOf, Fields.optional_fieldsOf,
      lookup_memberIfSome_append, lookup_cons_of_ne, hseed, hblock, hnetworks, hguests, hservices]
    rfl
  · cases randomSeed <;> cases reservedBlock <;> simp [memberIfSome]

end

/-- Whatever it holds, an inventory that is handed on as a document is read back unchanged: any
text for an operating system, any seed, and with or without the parts that may be left out. -/
theorem InventoryRecord.ofText?_toText (r : InventoryRecord) : ofText? r.toText = some r := by
  rw [toText, pretty, ofText?, parse?_render, Option.bind_some, ofJson?_toJson]

end RangeLab
