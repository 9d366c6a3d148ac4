import Mathlib.Algebra.Ring.Nat
import Mathlib.Data.List.Forall2
import Mathlib.Data.List.Nodup
import RangeLab.Word

/-!
# The words that count from 1

`ordinals n` holds exactly the words from 1 to `n`, each once and in ascending order: no number up
to a word wraps round.
-/

namespace RangeLab

theorem toNat_ofNat_of_lt {n : Nat} (h : n < 2 ^ 32) : (UInt32.ofNat n).toNat = n := by
  rw [UInt32.toNat_ofNat']
  exact Nat.mod_eq_of_lt h

@[simp] theorem mem_ordinals {k n : UInt32} : k ∈ ordinals n ↔ 1 ≤ k ∧ k ≤ n := by
  simp only [ordinals, List.mem_map, List.mem_range, UInt32.le_iff_toNat_le]
  have hn : n.toNat < 2 ^ 32 := n.toNat_lt
  constructor
  · rintro ⟨m, hm, rfl⟩
    rw [toNat_ofNat_of_lt (by omega)]
    exact ⟨Nat.le_add_left 1 m, hm⟩
  · rintro ⟨h1, hk⟩
    have h1' : 1 ≤ k.toNat := h1
    refine ⟨k.toNat - 1, by omega, ?_⟩
    rw [Nat.sub_add_cancel h1']
    exact UInt32.ofNat_toNat

@[simp] theorem length_ordinals (n : UInt32) : (ordinals n).length = n.toNat := by
  rw [ordinals, List.length_map, List.length_range]

theorem map_toNat_ordinals (n : UInt32) :
    (ordinals n).map UInt32.toNat = List.range' 1 n.toNat := by
  have hn : n.toNat < 2 ^ 32 := n.toNat_lt
  rw [ordinals, List.map_map, List.range'_eq_map_range]
  refine List.map_congr_left fun k hk => ?_
  have hlt := List.mem_range.mp hk
  rw [Function.comp_apply, toNat_ofNat_of_lt (by omega), Nat.add_comm]

theorem toNat_of_getElem?_ordinals {k : Nat} {i n : UInt32} (h : (ordinals n)[k]? = some i) :
    i.toNat = k + 1 := by
  have hnat : ((ordinals n).map UInt32.toNat)[k]? = some i.toNat := by
    rw [List.getElem?_map, h, Option.map_some]
  rw [map_toNat_ordinals] at hnat
  obtain ⟨hk, heq⟩ := List.getElem?_eq_some_iff.mp hnat
  rw [← heq, List.getElem_range', Nat.one_mul, Nat.add_comm]

theorem forall₂_ordinals (n : UInt32) :
    List.Forall₂ (fun k (i : UInt32) => k = i.toNat ∧ 1 ≤ i ∧ i ≤ n) (List.range' 1 n.toNat)
      (ordinals n) := by
  rw [← map_toNat_ordinals, List.forall₂_map_left_iff, List.forall₂_same]
  exact fun i hi => ⟨rfl, mem_ordinals.mp hi⟩

/-- A number stands at the place before it. -/
theorem getElem?_ordinals {k n : UInt32} (h : 1 ≤ k ∧ k ≤ n) :
    (ordinals n)[k.toNat - 1]? = some k := by
  have hone : 1 ≤ k.toNat := UInt32.le_iff_toNat_le.mp h.1
  have hle : k.toNat ≤ n.toNat := UInt32.le_iff_toNat_le.mp h.2
  rw [ordinals, List.getElem?_map, List.getElem?_range (by omega), Option.map_some,
    Nat.sub_add_cancel hone, UInt32.ofNat_toNat]

theorem nodup_ordinals (n : UInt32) : (ordinals n).Nodup := by
  have hn : n.toNat < 2 ^ 32 := n.toNat_lt
  refine List.Nodup.map_on ?_ List.nodup_range
  intro a ha b hb hab
  rw [List.mem_range] at ha hb
  have := congrArg UInt32.toNat hab
  rw [toNat_ofNat_of_lt (by omega), toNat_ofNat_of_lt (by omega)] at this
  omega

/-- The numbers up to a larger word go on where those up to a smaller one end. -/
theorem ordinals_append {n n' : UInt32} (h : n ≤ n') :
    ∃ later, ordinals n' = ordinals n ++ later ∧ ∀ k ∈ later, n < k := by
  obtain ⟨d, hd⟩ := Nat.exists_eq_add_of_le (UInt32.le_iff_toNat_le.mp h)
  have hn' : n'.toNat < 2 ^ 32 := n'.toNat_lt
  refine ⟨(List.range d).map fun k => UInt32.ofNat (n.toNat + k + 1), ?_, ?_⟩
  · rw [ordinals, hd, List.range_add, List.map_append, List.map_map]
    rfl
  · intro k hk
    obtain ⟨j, hj, rfl⟩ := List.mem_map.mp hk
    have hjd := List.mem_range.mp hj
    rw [UInt32.lt_iff_toNat_lt, toNat_ofNat_of_lt (by omega)]
    omega

theorem one_le_iff_ne_zero {n : UInt32} : 1 ≤ n ↔ n ≠ 0 := by
  rw [UInt32.le_iff_toNat_le, ne_eq, ← UInt32.toNat_inj]
  exact Nat.one_le_iff_ne_zero

end RangeLab
