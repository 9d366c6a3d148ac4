import Mathlib.Data.List.Forall2
import Mathlib.Data.List.Perm.Basic
import RangeLab.Proofs.Json.Fields

/-!
# Records with members left out

A record may be written in several ways: the members of an object stand in any order, and a field
that has its default value need not have a member. A `FieldForm` says for one field what its member
may hold and whether it may be left out, and `IsObjectOf` which objects a record with such fields is
written as.

Whichever of these objects it is, each field is found in it as its form says
(`IsObjectOf.exists_fields?`), so a reader that knows the default value reads the value of the field
(`Fields.withDefault_eq_some`).
-/

namespace RangeLab.Json

variable {α : Type} {members : List (String × Json)} {name : String}

/-! ## Forms of a record -/

/-- How a field of a record is written. -/
structure FieldForm where
  name : String
  /-- What the member for the field may hold. -/
  holds : Json → Prop
  mayBeLeftOut : Prop

namespace FieldForm

/-- A field that always has a member. -/
def required (name : String) (writes : α → Json → Prop) (a : α) : FieldForm :=
  { name, holds := writes a, mayBeLeftOut := False }

/-- A field that needs no member if it has its default value. -/
def withDefault (name : String) (writes : α → Json → Prop) (a default : α) : FieldForm :=
  { name, holds := writes a, mayBeLeftOut := a = default }

@[simp] theorem name_required {name : String} {writes : α → Json → Prop} {a : α} :
    (required name writes a).name = name := rfl

@[simp] theorem name_withDefault {name : String} {writes : α → Json → Prop} {a default : α} :
    (withDefault name writes a default).name = name := rfl

/-- What is given for the field is as its form says. -/
def IsFoundIn (f : FieldForm) (given : Fields) : Prop :=
  match given.slot f.name with
  | .given v => f.holds v
  | .leftOut => f.mayBeLeftOut
  | .cutOff => False

end FieldForm

/-- The members that a record is written with, in the order of its fields: one for each field but
for some that may be left out. -/
inductive MembersOf : List FieldForm → List (String × Json) → Prop
  | nil : MembersOf [] []
  | given {f : FieldForm} {fields : List FieldForm} {members : List (String × Json)} {v : Json} :
      f.holds v → MembersOf fields members → MembersOf (f :: fields) ((f.name, v) :: members)
  | leftOut {f : FieldForm} {fields : List FieldForm} {members : List (String × Json)} :
      f.mayBeLeftOut → MembersOf fields members → MembersOf (f :: fields) members

/-- The value is an object that a record with these fields is written as, with its members in any
order. -/
def IsObjectOf (fields : List FieldForm) (v : Json) : Prop :=
  ∃ ordered members, MembersOf fields ordered ∧ members.Perm ordered ∧ v = ofMembers members

/-- A value that is written in one way only. -/
def Exactly (f : α → Json) (a : α) (v : Json) : Prop := v = f a

/-- A list of what the items are written as. -/
def IsListOf (writes : α → Json → Prop) (as : List α) (v : Json) : Prop :=
  ∃ items, v = .list items ∧ List.Forall₂ writes as items

/-- A record with all its members is one of the objects that it is written as. -/
theorem isObjectOf_ofMembers {fields : List FieldForm}
    (h : List.Forall₂ (fun f (m : String × Json) => m.1 = f.name ∧ f.holds m.2) fields members) :
    IsObjectOf fields (ofMembers members) := by
  refine ⟨members, members, ?_, .refl _, rfl⟩
  induction h with
  | nil => exact .nil
  | @cons f m _ _ hm _ ih =>
      obtain ⟨name, v⟩ := m
      obtain ⟨rfl, hholds⟩ := hm
      exact .given hholds ih

theorem isListOf_ofList {writes : α → Json → Prop} {f : α → Json} (h : ∀ a, writes a (f a))
    (as : List α) : IsListOf writes as (ofList f as) := by
  refine ⟨as.map f, rfl, ?_⟩
  rw [List.forall₂_map_right_iff, List.forall₂_same]
  exact fun a _ => h a

/-! ## Finding a field -/

theorem lookup_eq_some_of_mem {m : String × Json} (hnd : (members.map Prod.fst).Nodup)
    (hm : m ∈ members) : members.lookup m.1 = some m.2 := by
  induction members with
  | nil => cases hm
  | cons m' members ih =>
      obtain ⟨hnot, hnd⟩ := List.nodup_cons.mp hnd
      rcases List.mem_cons.mp hm with rfl | hm
      · rw [List.lookup_cons, beq_self_eq_true]
      · have hne : m.1 ≠ m'.1 := fun h => hnot (h ▸ List.mem_map_of_mem hm)
        rw [lookup_cons_of_ne hne, ih hnd hm]

theorem lookup_eq_none_of_not_mem (h : name ∉ members.map Prod.fst) :
    members.lookup name = none := by
  simp only [List.lookup_eq_none_iff, bne_iff_ne]
  exact fun m hm heq => h (heq ▸ List.mem_map_of_mem hm)

namespace MembersOf

variable {fields : List FieldForm}

theorem keys_sublist (h : MembersOf fields members) :
    (members.map Prod.fst).Sublist (fields.map FieldForm.name) := by
  induction h with
  | nil => exact .slnil
  | given _ _ ih => exact ih.cons_cons _
  | leftOut _ _ ih => exact ih.cons _

theorem exists_field (h : MembersOf fields members) {m : String × Json} (hm : m ∈ members) :
    ∃ f ∈ fields, f.name = m.1 ∧ f.holds m.2 := by
  induction h with
  | nil => cases hm
  | @given f fields _ v hholds _ ih =>
      rcases List.mem_cons.mp hm with rfl | hm
      · exact ⟨f, List.mem_cons_self, rfl, hholds⟩
      · obtain ⟨f', hf', hm'⟩ := ih hm
        exact ⟨f', List.mem_cons_of_mem f hf', hm'⟩
  | @leftOut f fields _ _ _ ih =>
      obtain ⟨f', hf', hm'⟩ := ih hm
      exact ⟨f', List.mem_cons_of_mem f hf', hm'⟩

theorem complete (h : MembersOf fields members) {f : FieldForm} (hf : f ∈ fields) :
    f.name ∈ members.map Prod.fst ∨ f.mayBeLeftOut := by
  induction h with
  | nil => cases hf
  | given _ _ ih =>
      rcases List.mem_cons.mp hf with rfl | hf
      · exact .inl List.mem_cons_self
      · exact (ih hf).imp_left (List.mem_cons_of_mem _)
  | leftOut hleft _ ih =>
      rcases List.mem_cons.mp hf with rfl | hf
      · exact .inr hleft
      · exact ih hf

end MembersOf

/-- In an object that a record is written as, each field is found as its form says. The fields have
different names, so the member of that name is the one that the field is written as. -/
theorem IsObjectOf.exists_fields? {fields : List FieldForm} {v : Json} (h : IsObjectOf fields v)
    (hnames : (fields.map FieldForm.name).Nodup) :
    ∃ given, fields? (fields.map FieldForm.name) v = some given
      ∧ ∀ f ∈ fields, f.IsFoundIn given := by
  obtain ⟨ordered, members, hordered, hperm, rfl⟩ := h
  have hnd : (members.map Prod.fst).Nodup :=
    (hperm.map Prod.fst).nodup_iff.mpr (hnames.sublist hordered.keys_sublist)
  refine ⟨_, fields?_ofMembers hnd _, fun f hf => ?_⟩
  rw [FieldForm.IsFoundIn, Fields.slot_fieldsOf (List.mem_map_of_mem hf), slotOf]
  by_cases hgiven : f.name ∈ members.map Prod.fst
  · obtain ⟨m, hm, hname⟩ := List.mem_map.mp hgiven
    obtain ⟨f', hf', hname', hholds⟩ := hordered.exists_field (hperm.mem_iff.mp hm)
    obtain rfl : f' = f := List.inj_on_of_nodup_map hnames hf' hf (hname'.trans hname)
    rw [← hname, lookup_eq_some_of_mem hnd hm]
    exact hholds
  · rw [lookup_eq_none_of_not_mem hgiven]
    have hcomplete := hordered.complete hf
    rw [← (hperm.map Prod.fst).mem_iff] at hcomplete
    exact hcomplete.resolve_left hgiven

namespace Fields

variable {given : Fields} {writes : α → Json → Prop} {read : Json → Option α} {a default : α}

theorem required_eq_some (h : (FieldForm.required name writes a).IsFoundIn given)
    (hread : ∀ v, writes a v → read v = some a) : given.required name read = some a := by
  unfold FieldForm.IsFoundIn at h
  unfold required
  split at h
  · rename_i v hslot
    rw [show given.slot name = .given v from hslot]
    exact hread v h
  · exact h.elim
  · exact h.elim

theorem withDefault_eq_some (h : (FieldForm.withDefault name writes a default).IsFoundIn given)
    (hread : ∀ v, writes a v → read v = some a) :
    given.withDefault name read default = some a := by
  unfold FieldForm.IsFoundIn at h
  unfold withDefault
  split at h
  · rename_i v hslot
    rw [show given.slot name = .given v from hslot]
    exact hread v h
  · rename_i hslot
    rw [show given.slot name = .leftOut from hslot]
    exact congrArg some (Eq.symm h)
  · exact h.elim

/-! A reader goes on with the value of the field. -/

theorem required_bind {β : Type} {f : α → Option β}
    (h : (FieldForm.required name writes a).IsFoundIn given)
    (hread : ∀ v, writes a v → read v = some a) : (given.required name read >>= f) = f a := by
  rw [required_eq_some h hread]
  rfl

theorem withDefault_bind {β : Type} {f : α → Option β}
    (h : (FieldForm.withDefault name writes a default).IsFoundIn given)
    (hread : ∀ v, writes a v → read v = some a) :
    (given.withDefault name read default >>= f) = f a := by
  rw [withDefault_eq_some h hread]
  rfl

end Fields

/-! ## Reading values -/

theorem read_of_exactly {f : α → Json} {read : Json → Option α} (h : ∀ a, read (f a) = some a)
    (a : α) : ∀ v, Exactly f a v → read v = some a := by
  rintro v rfl
  exact h a

/-- A list is read when its items are, however these are written. -/
theorem list?_of_isListOf {writes : α → Json → Prop} {read : Json → Option α}
    (h : ∀ a v, writes a v → read v = some a) (as : List α) :
    ∀ v, IsListOf writes as v → list? read v = some as := by
  rintro v ⟨items, rfl, hitems⟩
  rw [list?]
  induction hitems with
  | nil => rfl
  | cons ha _ ih => rw [List.mapM_cons, h _ _ ha, ih]; rfl

end RangeLab.Json
