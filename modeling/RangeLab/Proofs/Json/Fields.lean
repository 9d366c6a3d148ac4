import Mathlib.Data.List.Nodup
import RangeLab.Document.Record

/-!
# Reading the fields of a written record

A record is written as an object whose members have different names. Such an object gives for each
field what its member holds (`fields?_ofMembers`), so reading a field is looking its member up, and
each kind of value is read as what it was written from.
-/

namespace RangeLab.Json

variable {α : Type} {members : List (String × Json)} {names : List String} {name : String}

/-! ## Fields -/

/-- What members with different names give for one field. -/
def slotOf (members : List (String × Json)) (name : String) : Slot :=
  match members.lookup name with
  | some v => .given v
  | none => .leftOut

/-- What members with different names give for the fields with these names. -/
def fieldsOf (members : List (String × Json)) (names : List String) : Fields :=
  names.map fun name => (name, slotOf members name)

theorem filter_key_eq_nil (h : name ∉ members.map Prod.fst) :
    ((members.map fun (key, v) => (some key, v)).filter fun m => m.1 == some name) = [] := by
  rw [List.filter_eq_nil_iff]
  intro m hm heq
  obtain ⟨member, hmember, rfl⟩ := List.mem_map.mp hm
  obtain rfl := Option.some.inj (eq_of_beq heq)
  exact h (List.mem_map_of_mem hmember)

theorem slot?_eq (hnd : (members.map Prod.fst).Nodup) (name : String) :
    slot? (members.map fun (key, v) => (some key, v)) name = some (name, slotOf members name) := by
  induction members with
  | nil => rfl
  | cons m members ih =>
      obtain ⟨hnot, hnd⟩ := List.nodup_cons.mp hnd
      rw [slot?, slotOf, List.map_cons, List.filter_cons, List.lookup_cons]
      by_cases h : m.1 = name
      · subst h
        rw [if_pos (beq_self_eq_true _), beq_self_eq_true, filter_key_eq_nil hnot]
      · have hname : (name == m.1) = false := beq_false_of_ne (Ne.symm h)
        have hkey : (some m.1 == some name) = false := beq_false_of_ne fun heq =>
          h (Option.some.inj heq)
        rw [hkey, hname, if_neg Bool.false_ne_true]
        exact ih hnd

/-- An object whose members have different names gives for each field what its member holds. -/
theorem fields?_ofMembers (hnd : (members.map Prod.fst).Nodup) (names : List String) :
    fields? names (ofMembers members) = some (fieldsOf members names) := by
  have hnames : (members.map fun (key, v) => ((some key : Text), v)).all (fun m => m.1.isSome)
      = true := by simp
  rw [ofMembers, fields?, if_pos hnames]
  induction names with
  | nil => rfl
  | cons name names ih => rw [List.mapM_cons, slot?_eq hnd, ih]; rfl

theorem lookup_cons_of_ne {key : String} (h : name ≠ key) (v : Json) :
    ((key, v) :: members).lookup name = members.lookup name := by
  rw [List.lookup_cons, beq_false_of_ne h]

namespace Fields

theorem slot_fieldsOf (h : name ∈ names) :
    slot (fieldsOf members names) name = slotOf members name := by
  induction names with
  | nil => cases h
  | cons n names ih =>
      rw [slot, fieldsOf, List.map_cons]
      by_cases heq : name = n
      · rw [heq, List.lookup_cons_self, Option.getD_some]
      · rw [List.lookup_cons, beq_false_of_ne heq]
        exact ih ((List.mem_cons.mp h).resolve_left heq)

/-- A field that must be given is read from its member. -/
theorem required_fieldsOf (h : name ∈ names) (read : Json → Option α) :
    required (fieldsOf members names) name read = (members.lookup name).bind read := by
  rw [required, slot_fieldsOf h, slotOf]
  cases members.lookup name <;> rfl

/-- What a field that may be left out is read as, from its member if there is one. -/
def readIfGiven (read : Json → Option α) : Option Json → Option (Option α)
  | none | some .null => some none
  | some v => (read v).map some

theorem optional_fieldsOf (h : name ∈ names) (read : Json → Option α) :
    optional (fieldsOf members names) name read = readIfGiven read (members.lookup name) := by
  rw [optional, slot_fieldsOf h, slotOf]
  cases members.lookup name with
  | none => rfl
  | some v => cases v <;> rfl

end Fields

/-! ## Values -/

@[simp] theorem string?_ofString (s : String) : string? (ofString s) = some s := rfl

@[simp] theorem bool?_bool (b : Bool) : bool? (.bool b) = some b := rfl

@[simp] theorem uint8?_natural (w : UInt8) : uint8? (.natural w.toNat) = some w := by
  rw [uint8?, natural?, Option.bind_some, word8?, if_pos w.toNat_lt, UInt8.ofNat_toNat]

@[simp] theorem uint32?_ofUInt32 (w : UInt32) : uint32? (ofUInt32 w) = some w := by
  rw [uint32?, ofUInt32, natural?, Option.bind_some, word32?, if_pos w.toNat_lt, UInt32.ofNat_toNat]

@[simp] theorem uint64?_natural (w : UInt64) : uint64? (.natural w.toNat) = some w := by
  rw [uint64?, natural?, Option.bind_some, word64?, if_pos w.toNat_lt, UInt64.ofNat_toNat]

/-- A list is read back when its items are. -/
theorem list?_ofList {f : α → Json} {read : Json → Option α} (h : ∀ a, read (f a) = some a)
    (as : List α) : list? read (ofList f as) = some as := by
  rw [ofList, list?]
  induction as with
  | nil => rfl
  | cons a as ih => rw [List.map_cons, List.mapM_cons, h, ih]; rfl

/-- A value that may be absent is read as it was written, if it is never written as `null`. -/
theorem option?_ofOption {f : α → Json} {read : Json → Option α} (hnull : ∀ a, f a ≠ .null)
    (hread : ∀ a, read (f a) = some a) (o : Option α) : option? read (ofOption f o) = some o := by
  cases o with
  | none => rfl
  | some a =>
      have hnull := hnull a
      have hread := hread a
      rw [ofOption]
      generalize f a = v at hnull hread ⊢
      cases v with
      | null => exact absurd rfl hnull
      | _ => exact congrArg (Option.map some) hread

/-- So it is if its member is left out when it is absent. -/
theorem Fields.readIfGiven_map {f : α → Json} {read : Json → Option α} (hnull : ∀ a, f a ≠ .null)
    (hread : ∀ a, read (f a) = some a) (o : Option α) : readIfGiven read (o.map f) = some o := by
  cases o with
  | none => rfl
  | some a =>
      have hoption := option?_ofOption hnull hread (some a)
      rw [ofOption] at hoption
      rw [Option.map_some, ← hoption]
      generalize f a = v
      cases v <;> rfl

end RangeLab.Json
