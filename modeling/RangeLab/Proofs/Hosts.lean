import Mathlib.Data.List.Sort
import RangeLab.Network
import RangeLab.Proofs.Block

/-!
# The hosts of a block

Hosts have the usable addresses of a block: all of them in a block of one or two, and in a larger
one all but the lowest and the highest. They are an interval of the address space that begins at the
*first host* (`isUsable_iff`), as long as `usableHosts` says. So in whatever way the usable
addresses are listed in ascending order, the list is this interval, and host `k` is its entry `k`
(`Lists.getElem?_eq`).
-/

namespace RangeLab.Ipv4.Block

/-! ## Usable addresses -/

/-- An address of the block that a host can have. -/
structure IsUsable (b : Block) (a : Address) : Prop where
  mem : a ∈ b
  ne_lowest : b.length ≤ 30 → a.toNat ≠ b.base
  ne_highest : b.length ≤ 30 → a.toNat ≠ b.base + b.size - 1

/-- The number of the lowest usable address. -/
def firstHost (b : Block) : Nat := if b.length ≤ 30 then b.base + 1 else b.base

variable {b : Block} {a : Address} {k : Nat}

/-- A block with a lowest and a highest address to leave out has four addresses or more. -/
theorem four_le_size (h : b.length ≤ 30) : 4 ≤ b.size := by
  rw [size_eq]
  calc 4 = 2 ^ 2 := rfl
    _ ≤ 2 ^ (32 - b.length) := Nat.pow_le_pow_right (by decide) (by omega)

theorem isUsable_iff :
    b.IsUsable a ↔ b.firstHost ≤ a.toNat ∧ a.toNat < b.firstHost + b.usableHosts := by
  rw [firstHost, usableHosts]
  by_cases hlen : b.length ≤ 30
  · have hsize := four_le_size hlen
    rw [if_pos hlen, if_pos (by omega)]
    constructor
    · rintro ⟨hmem, hlowest, hhighest⟩
      have hlow := hlowest hlen
      have hhigh := hhighest hlen
      obtain ⟨hlo, hhi⟩ := mem_iff.mp hmem
      omega
    · rintro ⟨hlo, hhi⟩
      exact ⟨mem_iff.mpr (by omega), fun _ => by omega, fun _ => by omega⟩
  · rw [if_neg hlen, if_neg (by omega), ← mem_iff]
    exact ⟨IsUsable.mem, fun hmem => ⟨hmem, fun h => absurd h hlen, fun h => absurd h hlen⟩⟩

theorem toNat_host (h : b.host? k = some a) : a.toNat = b.firstHost + k := by
  obtain ⟨-, ha⟩ := host?_eq_some h
  rw [ha, firstHost]
  by_cases hlen : b.length ≤ 30
  · rw [if_pos hlen, if_pos (by omega)]
    omega
  · rw [if_neg hlen, if_neg (by omega), Nat.add_zero]

/-- The addresses of hosts are the usable ones. -/
theorem exists_host_iff : (∃ k, b.host? k = some a) ↔ b.IsUsable a := by
  rw [isUsable_iff]
  constructor
  · rintro ⟨k, hk⟩
    obtain ⟨hlt, -⟩ := host?_eq_some hk
    have := toNat_host hk
    omega
  · rintro ⟨hlo, hhi⟩
    obtain ⟨a', ha'⟩ := exists_host?_iff.mpr (show a.toNat - b.firstHost < b.usableHosts by omega)
    have hnat := toNat_host ha'
    rw [Nat.add_sub_cancel' hlo] at hnat
    exact ⟨_, ha'.trans (congrArg some (Address.toNat_inj.mp hnat))⟩

/-! ## Lists of hosts -/

/-- A list of just the usable addresses of a block, in ascending order. -/
structure Lists (b : Block) (hosts : List Address) : Prop where
  ascending : hosts.Pairwise fun a a' => a.toNat < a'.toNat
  mem_iff : ∀ a, a ∈ hosts ↔ b.IsUsable a

/-- A list of the hosts has no gaps, so it is settled by where it begins and how long it is. -/
theorem Lists.map_toNat {hosts : List Address} (h : b.Lists hosts) :
    hosts.map Address.toNat = List.range' b.firstHost b.usableHosts := by
  refine List.Pairwise.eq_of_mem_iff (List.pairwise_map.mpr h.ascending) List.pairwise_lt_range' ?_
  intro n
  rw [List.mem_map, List.mem_range'_1]
  constructor
  · rintro ⟨a, ha, rfl⟩
    exact isUsable_iff.mp ((h.mem_iff a).mp ha)
  · rintro ⟨hlo, hhi⟩
    obtain ⟨a, ha⟩ := exists_host?_iff.mpr (show n - b.firstHost < b.usableHosts by omega)
    refine ⟨a, (h.mem_iff a).mpr (exists_host_iff.mp ⟨_, ha⟩), ?_⟩
    rw [toNat_host ha, Nat.add_sub_cancel' hlo]

theorem Lists.length_eq {hosts : List Address} (h : b.Lists hosts) :
    hosts.length = b.usableHosts := by
  rw [← List.length_map (f := Address.toNat), h.map_toNat, List.length_range']

theorem Lists.getElem?_eq {hosts : List Address} (h : b.Lists hosts) (k : Nat) :
    hosts[k]? = b.host? k := by
  by_cases hk : k < b.usableHosts
  · obtain ⟨a, ha⟩ := exists_host?_iff.mpr hk
    have hnat := congrArg (·[k]?) h.map_toNat
    rw [List.getElem?_map, List.getElem?_range' hk, Option.map_eq_some_iff] at hnat
    obtain ⟨a', ha', hnat⟩ := hnat
    rw [Nat.one_mul, ← toNat_host ha] at hnat
    rw [ha', ha, Address.toNat_inj.mp hnat]
  · rw [List.getElem?_eq_none (by rw [h.length_eq]; omega), host?, if_neg hk]

/-- The usable addresses, counted up from the first host. -/
def hosts (b : Block) : List Address := (List.range' b.firstHost b.usableHosts).map .ofNat

/-- The interval ends within the address space, so its numbers are those of different addresses. -/
theorem lists_hosts (b : Block) : b.Lists b.hosts := by
  have hnat : ∀ n ∈ List.range' b.firstHost b.usableHosts, (Address.ofNat n).toNat = n := by
    intro n hn
    obtain ⟨hlo, hhi⟩ := List.mem_range'_1.mp hn
    obtain ⟨a, ha⟩ := exists_host?_iff.mpr (show n - b.firstHost < b.usableHosts by omega)
    have hlt := a.toNat_lt
    rw [toNat_host ha, Nat.add_sub_cancel' hlo] at hlt
    exact Address.toNat_ofNat hlt
  refine ⟨?_, fun a => ?_⟩
  · refine List.pairwise_map.mpr (List.Pairwise.imp_of_mem ?_ List.pairwise_lt_range')
    intro n n' hn hn' hlt
    rw [hnat n hn, hnat n' hn']
    exact hlt
  · rw [hosts, List.mem_map, isUsable_iff, ← List.mem_range'_1]
    constructor
    · rintro ⟨n, hn, rfl⟩
      rw [hnat n hn]
      exact hn
    · intro hmem
      exact ⟨a.toNat, hmem, Address.toNat_inj.mp (hnat _ hmem)⟩

end RangeLab.Ipv4.Block

namespace RangeLab.Network

open Ipv4 (Address Block)

/-- Host `k` of a network exists iff there are more than `k` usable hosts. Its address is `k` places
above the lowest usable one, so hosts ascend, and between them they have all usable addresses. A
walk over the hosts that yields the usable addresses in ascending order, whatever it yields behind
the last of them, has host `k` at place `k`. -/
theorem hosts_in_order (n : Network) :
    (∀ k, (∃ a, n.block.host? k = some a) ↔ k < n.block.usableHosts)
    ∧ (∀ k a, n.block.host? k = some a →
      a.toNat = n.block.base + if n.block.length ≤ 30 then k + 1 else k)
    ∧ (∀ k k' a a', n.block.host? k = some a → n.block.host? k' = some a' →
      (k < k' ↔ a.toNat < a'.toNat))
    ∧ (∀ a, (∃ k, n.block.host? k = some a) ↔ n.block.IsUsable a)
    ∧ ∀ (hosts : List Address) (nth : Nat → Option Address), n.block.Lists hosts →
      (∀ k, k < hosts.length → nth k = hosts[k]?) →
      ∀ k, (if k < n.block.usableHosts then nth k else none) = n.block.host? k := by
  refine ⟨fun k => Block.exists_host?_iff, fun k a h => ?_, fun k k' a a' h h' => ?_,
    fun a => Block.exists_host_iff, fun hosts nth hlists hnth k => ?_⟩
  · rw [Block.toNat_host h, Block.firstHost]
    split <;> omega
  · rw [Block.toNat_host h, Block.toNat_host h']
    omega
  · split
    · rename_i hk
      rw [hnth k (hlists.length_eq ▸ hk), hlists.getElem?_eq]
    · rename_i hk
      rw [Block.host?, if_neg hk]

/-- A network with two hosts at the very end of the address space, given by the upper one. -/
def edge : Network where
  name := "uni-lab-1-edge"
  base := ⟨"edge", by decide⟩
  instanceNumber := 1
  block := { address := .ofNat (2 ^ 32 - 2), length := 30, length_le := by decide }
  members := []

/-- A walk that begins anew after `2 ^ 32` steps has the lower host at that place again, but there
is no such host of the network. -/
theorem hosts_in_order_edge :
    edge.block.Lists edge.block.hosts
    ∧ (∀ k, k < edge.block.hosts.length →
      edge.block.hosts[k % 2 ^ 32]? = edge.block.hosts[k]?)
    ∧ edge.block.host? 0 = some (.ofNat (2 ^ 32 - 3))
    ∧ edge.block.host? 1 = some (.ofNat (2 ^ 32 - 2))
    ∧ edge.block.hosts[2 ^ 32 % 2 ^ 32]? = some (.ofNat (2 ^ 32 - 3))
    ∧ edge.block.host? (2 ^ 32) = none ∧ ¬edge.block.IsUsable .last := by
  have hlists := edge.block.lists_hosts
  have hwalk : ∀ k, k < edge.block.hosts.length →
      edge.block.hosts[k % 2 ^ 32]? = edge.block.hosts[k]? := by
    intro k hk
    have hlt : k < 2 := hk
    rw [Nat.mod_eq_of_lt (by omega)]
  obtain ⟨-, -, -, -, hwalked⟩ := hosts_in_order edge
  have hyields := hwalked _ (fun k => edge.block.hosts[k % 2 ^ 32]?) hlists hwalk
  have hlast : ¬edge.block.IsUsable .last := by
    rintro ⟨-, -, hne⟩
    exact hne (by decide) (by decide)
  exact ⟨hlists, hwalk, (hyields 0).symm, (hyields 1).symm, by decide,
    (hyields (2 ^ 32)).symm, hlast⟩

end RangeLab.Network
