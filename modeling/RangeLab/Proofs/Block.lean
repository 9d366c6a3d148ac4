import Mathlib.Algebra.Ring.Nat
import Mathlib.Tactic.ByContra
import RangeLab.Ipv4.Block

/-!
# The arithmetic of blocks

Blocks are intervals of the address space that start at a multiple of their size, so nothing in
their arithmetic wraps round. Three facts carry everything that is said of the addresses of a lab:

* the parts of a block lie inside it (`mem_of_mem_part`);
* parts of the same cut that share an address are the same part (`eq_of_mem_part`);
* host `k` of a block is the address `k` places above its first host (`host?_eq_some`), and the
  hosts from the third on stay below the highest address (`host_bounds`).
-/

namespace RangeLab.Ipv4

namespace Address

theorem toNat_lt (a : Address) : a.toNat < 2 ^ 32 := a.bits.toNat_lt

theorem toNat_inj {a a' : Address} : a.toNat = a'.toNat ↔ a = a' := by
  cases a
  cases a'
  simp [toNat, UInt32.toNat_inj]

theorem toNat_ofNat {n : Nat} (h : n < 2 ^ 32) : (ofNat n).toNat = n := by
  show (UInt32.ofNat n).toNat = n
  rw [UInt32.toNat_ofNat']
  exact Nat.mod_eq_of_lt h

end Address

namespace Block

/-! ## The interval of a block -/

theorem mem_iff {a : Address} {b : Block} :
    a ∈ b ↔ b.base ≤ a.toNat ∧ a.toNat < b.base + b.size := Iff.rfl

theorem size_eq (b : Block) : b.size = 2 ^ (32 - b.length) := Nat.one_shiftLeft _

theorem size_pos (b : Block) : 0 < b.size := b.size_eq ▸ Nat.two_pow_pos _

theorem size_dvd (b : Block) : b.size ∣ 2 ^ 32 :=
  b.size_eq ▸ Nat.pow_dvd_pow 2 (Nat.sub_le 32 b.length)

theorem size_dvd_base (b : Block) : b.size ∣ b.base := Nat.dvd_mul_left _ _

theorem base_le (b : Block) : b.base ≤ b.address.toNat := Nat.div_mul_le_self _ _

/-- A block ends within the address space: its base and the end of the space are multiples of its
size, and the base is the smaller one. -/
theorem base_add_size_le (b : Block) : b.base + b.size ≤ 2 ^ 32 := by
  obtain ⟨m, hm⟩ := b.size_dvd
  obtain ⟨k, hk⟩ := b.size_dvd_base
  have hlt : b.base < 2 ^ 32 := Nat.lt_of_le_of_lt b.base_le b.address.toNat_lt
  rw [hk, hm] at hlt
  have hkm : k + 1 ≤ m := Nat.lt_of_mul_lt_mul_left hlt
  calc b.base + b.size = b.size * (k + 1) := by rw [hk, Nat.mul_succ]
    _ ≤ b.size * m := Nat.mul_le_mul_left _ hkm
    _ = 2 ^ 32 := hm.symm

theorem base_of_dvd {b : Block} {n : Nat} (haddr : b.address = .ofNat n) (hlt : n < 2 ^ 32)
    (hdvd : b.size ∣ n) : b.base = n := by
  rw [base, haddr, Address.toNat_ofNat hlt]
  exact Nat.div_mul_cancel hdvd

@[simp] theorem length_truncated (b : Block) : b.truncated.length = b.length := rfl

@[simp] theorem size_truncated (b : Block) : b.truncated.size = b.size := rfl

@[simp] theorem base_truncated (b : Block) : b.truncated.base = b.base :=
  base_of_dvd rfl (Nat.lt_of_le_of_lt b.base_le b.address.toNat_lt) b.size_dvd_base

@[simp] theorem mem_truncated {a : Address} {b : Block} : a ∈ b.truncated ↔ a ∈ b := by
  rw [mem_iff, mem_iff, base_truncated, size_truncated]

/-! ## Parts -/

theorem part?_eq (b : Block) (bits k : Nat) :
    b.part? bits k = if h : b.length + bits ≤ 32 then
      if k < 2 ^ bits then
        some
          { address := .ofNat (b.base + k * 2 ^ (32 - (b.length + bits)))
            length := b.length + bits
            length_le := h }
      else none
    else none := by
  simp only [part?, Nat.shiftLeft_eq, Nat.one_mul]

/-- What a part of a block is: the block is cut into `2 ^ bits` intervals of the part's size, and
part `k` has `k` of them below it. It starts below the end of the block, which is within the address
space. -/
theorem part?_eq_some {b p : Block} {bits k : Nat} (h : b.part? bits k = some p) :
    k < 2 ^ bits ∧ p.length = b.length + bits ∧ b.size = 2 ^ bits * p.size
      ∧ p.base = b.base + k * p.size := by
  rw [part?_eq] at h
  split at h
  · rename_i hlen
    split at h
    · rename_i hk
      have hp := Option.some.inj h
      have hpart : p.size = 2 ^ (32 - (b.length + bits)) := by rw [size_eq, ← hp]
      have haddr : p.address = .ofNat (b.base + k * p.size) := by rw [hpart, ← hp]
      have hsize : b.size = 2 ^ bits * p.size := by
        rw [size_eq, hpart, ← Nat.pow_add]
        congr 1
        omega
      refine ⟨hk, by rw [← hp], hsize, base_of_dvd haddr ?_ ?_⟩
      · have hlt : k * p.size < b.size := by
          rw [hsize]
          exact Nat.mul_lt_mul_of_pos_right hk p.size_pos
        have hend := b.base_add_size_le
        omega
      · have hdvd : p.size ∣ b.size := ⟨2 ^ bits, by rw [hsize, Nat.mul_comm]⟩
        exact Nat.dvd_add (Nat.dvd_trans hdvd b.size_dvd_base) (Nat.dvd_mul_left _ _)
    · cases h
  · cases h

theorem exists_part?_iff {b : Block} {bits k : Nat} :
    (∃ p, b.part? bits k = some p) ↔ b.length + bits ≤ 32 ∧ k < 2 ^ bits := by
  by_cases hlen : b.length + bits ≤ 32
  · by_cases hk : k < 2 ^ bits
    · exact ⟨fun _ => ⟨hlen, hk⟩, fun _ => ⟨_, by rw [part?_eq, dif_pos hlen, if_pos hk]⟩⟩
    · simp [part?_eq, hlen, hk]
  · simp [part?_eq, hlen]

theorem mem_of_mem_part {b p : Block} {bits k : Nat} (h : b.part? bits k = some p) {a : Address}
    (ha : a ∈ p) : a ∈ b := by
  obtain ⟨hk, -, hsize, hbase⟩ := part?_eq_some h
  obtain ⟨hlo, hhi⟩ := mem_iff.mp ha
  have hend : k * p.size + p.size ≤ b.size := by
    rw [hsize, ← Nat.succ_mul]
    exact Nat.mul_le_mul_right _ hk
  exact mem_iff.mpr ⟨by omega, by omega⟩

/-- Parts of the same cut that share an address are the same part. -/
theorem eq_of_mem_part {b p p' : Block} {bits k k' : Nat} (h : b.part? bits k = some p)
    (h' : b.part? bits k' = some p') {a : Address} (ha : a ∈ p) (ha' : a ∈ p') : k = k' := by
  obtain ⟨-, hlen, -, hbase⟩ := part?_eq_some h
  obtain ⟨-, hlen', -, hbase'⟩ := part?_eq_some h'
  have hsize : p'.size = p.size := by rw [size, size, hlen, hlen']
  rw [hsize] at hbase'
  obtain ⟨hlo, hhi⟩ := mem_iff.mp ha
  obtain ⟨hlo', hhi'⟩ := mem_iff.mp ha'
  have hle : k * p.size < k' * p.size + p.size := by omega
  have hle' : k' * p.size < k * p.size + p.size := by omega
  rw [← Nat.succ_mul] at hle hle'
  have := Nat.lt_of_mul_lt_mul_right hle
  have := Nat.lt_of_mul_lt_mul_right hle'
  omega

/-! ## Hosts -/

/-- The number of addresses that hosts can have in a block of this length. -/
def usableHostsOf (length : Nat) : Nat :=
  if length < 31 then 2 ^ (32 - length) - 2 else 2 ^ (32 - length)

theorem usableHosts_eq (b : Block) : b.usableHosts = usableHostsOf b.length := by
  rw [usableHosts, usableHostsOf, size_eq]

theorem exists_host?_iff {b : Block} {k : Nat} : (∃ a, b.host? k = some a) ↔ k < b.usableHosts := by
  unfold host?
  split <;> simp_all

theorem host?_eq_some {b : Block} {k : Nat} {a : Address} (h : b.host? k = some a) :
    k < b.usableHosts ∧ a.toNat = b.base + k + (if b.length < 31 then 1 else 0) := by
  unfold host? at h
  split at h
  · rename_i hk
    obtain rfl := Option.some.inj h
    refine ⟨hk, Address.toNat_ofNat ?_⟩
    have := b.base_add_size_le
    unfold usableHosts at hk
    split at hk <;> rename_i hlen
    · rw [if_pos hlen]; omega
    · rw [if_neg hlen]; omega
  · cases h

theorem mem_of_host? {b : Block} {k : Nat} {a : Address} (h : b.host? k = some a) : a ∈ b := by
  obtain ⟨hk, ha⟩ := host?_eq_some h
  rw [usableHosts] at hk
  rw [mem_iff]
  split at ha <;> rename_i hlen
  · rw [if_pos hlen] at hk; omega
  · rw [if_neg hlen] at hk; omega

/-- A block with a third host has more than two addresses. -/
theorem length_lt_of_host {b : Block} {k : Nat} (hk : k < b.usableHosts) (h2 : 2 ≤ k) :
    b.length < 31 := by
  by_contra hlen
  have hle := b.length_le
  rw [usableHosts, if_neg hlen, size] at hk
  have : 2 ^ (32 - b.length) ≤ 2 ^ 1 := Nat.pow_le_pow_right (by decide) (by omega)
  omega

/-- Where the hosts from the third on are: one above the number of the host, and below the highest
address of the block. -/
theorem host_bounds {b : Block} {k : Nat} {a : Address} (h : b.host? k = some a) (h2 : 2 ≤ k) :
    a.toNat = b.base + k + 1 ∧ a.toNat < b.base + b.size - 1 := by
  obtain ⟨hk, ha⟩ := host?_eq_some h
  have hlen := length_lt_of_host hk h2
  rw [if_pos hlen] at ha
  rw [usableHosts, if_pos hlen] at hk
  exact ⟨ha, by omega⟩

end Block

end RangeLab.Ipv4
