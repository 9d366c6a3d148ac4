import RangeLab.Proofs.Lists
import RangeLab.Proofs.Topology
import RangeLab.Proofs.Word

/-!
# Runs of members

Expanding the declared members of a network gives each of them a run of places, as long as an
instance has guests of it. The runs follow one another without gaps: a role holds the places from
its first one on (`getElem?_run`), and every place is in the run of one of the members
(`exists_run`). The host that a guest gets is a place in the run of its role, so these two facts
decide which addresses are given out.
-/

namespace RangeLab

/-! ## The number of guests of a role -/

theorem Role.one_le_guestCount (role : Role) : 1 ≤ role.guestCount := by
  unfold guestCount
  split
  · exact UInt32.le_refl 1
  · rename_i h
    exact one_le_iff_ne_zero.mpr h

theorem Role.toNat_guestCount (role : Role) : role.guestCount.toNat = max 1 role.copies.toNat := by
  unfold guestCount
  split
  · rename_i h
    rw [h]
    rfl
  · rename_i h
    have : 1 ≤ role.copies.toNat := UInt32.le_iff_toNat_le.mp (one_le_iff_ne_zero.mpr h)
    omega

namespace Topology

variable {roles : List Role}

theorem guestCountOf_pos (name : Slug) : 0 < guestCountOf roles name := by
  unfold guestCountOf
  split
  · exact UInt32.le_iff_toNat_le.mp (Role.one_le_guestCount _)
  · exact Nat.one_pos

theorem find?_name (hnd : (roles.map Role.name).Nodup) {role : Role} (h : role ∈ roles) :
    (roles.find? fun r => r.name == role.name) = some role :=
  find?_of_key h fun _ hmem hname => List.inj_on_of_nodup_map hnd hmem h hname

theorem guestCountOf_name (hnd : (roles.map Role.name).Nodup) {role : Role} (h : role ∈ roles) :
    guestCountOf roles role.name = role.guestCount.toNat := by
  rw [guestCountOf, find?_name hnd h]

/-! ## The runs -/

variable {members : List Slug} {name : Slug}

theorem expandMembers_cons (member : Slug) :
    expandMembers roles (member :: members)
      = List.replicate (guestCountOf roles member) member ++ expandMembers roles members :=
  List.flatMap_cons

theorem length_expandMembers :
    (expandMembers roles members).length = (members.map (guestCountOf roles)).sum := by
  induction members with
  | nil => rfl
  | cons member members ih =>
      rw [expandMembers_cons, List.length_append, List.length_replicate, ih, List.map_cons,
        List.sum_cons]

@[simp] theorem mem_expandMembers : name ∈ expandMembers roles members ↔ name ∈ members := by
  simp only [expandMembers, List.mem_flatMap, List.mem_replicate]
  constructor
  · rintro ⟨member, hmem, -, rfl⟩
    exact hmem
  · intro hmem
    exact ⟨name, hmem, Nat.ne_of_gt (guestCountOf_pos name), rfl⟩

theorem expandMembers_eq_nil_iff : expandMembers roles members = [] ↔ members = [] := by
  rw [List.eq_nil_iff_forall_not_mem, List.eq_nil_iff_forall_not_mem]
  exact forall_congr' fun _ => not_congr mem_expandMembers

theorem position_cons_self :
    (expandMembers roles (name :: members)).idxOf? name = some 0 := by
  obtain ⟨n, hn⟩ := Nat.exists_eq_succ_of_ne_zero
    (Nat.ne_of_gt (@guestCountOf_pos roles name))
  rw [expandMembers_cons, hn, List.replicate_succ, List.cons_append, List.idxOf?_cons]
  simp

theorem idxOf?_replicate_append {member : Slug} (hne : member ≠ name) (n : Nat) (l : List Slug) :
    (List.replicate n member ++ l).idxOf? name = (l.idxOf? name).map (n + ·) := by
  induction n with
  | zero => simp
  | succ n ih =>
      rw [List.replicate_succ, List.cons_append, List.idxOf?_cons, ih, beq_false_of_ne hne,
        if_neg (by decide), Option.map_map]
      congr 1
      funext k
      simp only [Function.comp_apply]
      omega

theorem position_cons_of_ne {member : Slug} (hne : member ≠ name) :
    (expandMembers roles (member :: members)).idxOf? name
      = ((expandMembers roles members).idxOf? name).map (guestCountOf roles member + ·) := by
  rw [expandMembers_cons, idxOf?_replicate_append hne]

/-- The run of a role: its places are those from the first one on, as many as it has guests. -/
theorem getElem?_run {position k : Nat}
    (hpos : (expandMembers roles members).idxOf? name = some position)
    (hk : k < guestCountOf roles name) :
    (expandMembers roles members)[position + k]? = some name := by
  induction members generalizing position with
  | nil => cases hpos
  | cons member members ih =>
      by_cases heq : member = name
      · subst heq
        rw [position_cons_self, Option.some.injEq] at hpos
        subst hpos
        rw [expandMembers_cons, Nat.zero_add, List.getElem?_append_left (by simpa using hk),
          List.getElem?_replicate_of_lt hk]
      · rw [position_cons_of_ne heq] at hpos
        obtain ⟨p, hp, rfl⟩ := Option.map_eq_some_iff.mp hpos
        rw [expandMembers_cons, Nat.add_assoc, List.getElem?_append_right (by simp),
          List.length_replicate, Nat.add_sub_cancel_left]
        exact ih hp

/-- Every place is in the run of one of the members, if these are different. -/
theorem exists_run (hnd : members.Nodup) {k : Nat} (hk : k < (expandMembers roles members).length) :
    ∃ name ∈ members, ∃ position, (expandMembers roles members).idxOf? name = some position
      ∧ position ≤ k ∧ k < position + guestCountOf roles name := by
  induction members generalizing k with
  | nil => cases hk
  | cons member members ih =>
      obtain ⟨hnot, hnd⟩ := List.nodup_cons.mp hnd
      by_cases hfirst : k < guestCountOf roles member
      · exact ⟨member, List.mem_cons_self, 0, position_cons_self, Nat.zero_le k,
          by rwa [Nat.zero_add]⟩
      · rw [expandMembers_cons, List.length_append, List.length_replicate] at hk
        have hk' : k - guestCountOf roles member < (expandMembers roles members).length := by omega
        obtain ⟨name, hmem, p, hp, hle, hlt⟩ := ih hnd hk'
        have hne : member ≠ name := fun heq => hnot (heq ▸ hmem)
        refine ⟨name, List.mem_cons_of_mem _ hmem, guestCountOf roles member + p, ?_, by omega,
          by omega⟩
        rw [position_cons_of_ne hne, hp]
        rfl

/-- Roles whose runs share a place are the same role, at the same place of its run. -/
theorem eq_of_run {name' : Slug} {position position' k k' : Nat}
    (hpos : (expandMembers roles members).idxOf? name = some position)
    (hpos' : (expandMembers roles members).idxOf? name' = some position')
    (hk : k < guestCountOf roles name) (hk' : k' < guestCountOf roles name')
    (heq : position + k = position' + k') : name = name' ∧ k = k' := by
  have hname := getElem?_run hpos hk
  rw [heq, getElem?_run hpos' hk', Option.some.injEq] at hname
  subst hname
  rw [hpos, Option.some.injEq] at hpos'
  exact ⟨rfl, by omega⟩

end Topology

end RangeLab
