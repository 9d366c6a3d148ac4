import RangeLab.Fault

/-!
# Address plans

How the block of a lab is shared out. The root block is cut into 256 parts. Part 0 is reserved for
services; part `i` belongs to instance `i` and is cut again, into as many parts as it takes, a power
of two, to give each network its own. The block of a network depends on nothing but the root block,
the number of networks, the instance and the place of the network.
-/

namespace RangeLab

/-- The number of bits that tell the instances of a lab apart. -/
def instanceBits : Nat := 8

/-- The number of bits that tell `n` things apart: the least `b` with `n ≤ 2 ^ b`. -/
def bitsFor (n : Nat) : Nat := if n ≤ 1 then 0 else (n - 1).log2 + 1

/-- A root block with the numbers of instances and of networks that it is shared out to. -/
structure AddressPlan where
  root : Ipv4.Block
  instances : UInt32
  networks : Nat
  deriving DecidableEq

namespace AddressPlan

/-- Shares out a root block, given by any of its addresses. Without instances or without networks
there is nothing to share out; otherwise the parts must be enough and at least one address large. -/
def make (root : Ipv4.Block) (instances : UInt32) (networks : Nat) : Except Fault AddressPlan :=
  let root := root.truncated
  if instances = 0 ∨ networks = 0 then .ok { root, instances := 0, networks := 0 }
  else
    let blocks := instances.toNat + 1
    let length := root.length + instanceBits
    if length > 32 ∨ blocks > 1 <<< instanceBits then
      .error (.addressSpaceExhausted root blocks (min length 32))
    else if length + bitsFor networks > 32 then
      .error (.addressSpaceExhausted root networks 32)
    else .ok { root, instances, networks }

/-- The block of a network of an instance, the networks counted from 0. -/
def subnet? (p : AddressPlan) (instanceNumber : UInt32) (index : Nat) : Option Ipv4.Block :=
  if 1 ≤ instanceNumber ∧ instanceNumber ≤ p.instances ∧ index < p.networks then do
    let block ← p.root.part? instanceBits instanceNumber.toNat
    block.part? (bitsFor p.networks) index
  else none

def reserved? (p : AddressPlan) : Option Ipv4.Block := p.root.part? instanceBits 0

def size (p : AddressPlan) : Nat := p.instances.toNat * p.networks

/-- The blocks that the plan gives out, each with its instance and the place of its network. -/
def entries (p : AddressPlan) : List (UInt32 × Nat × Ipv4.Block) :=
  (ordinals p.instances).flatMap fun instanceNumber =>
    (List.range p.networks).filterMap fun index =>
      (p.subnet? instanceNumber index).map fun block => (instanceNumber, index, block)

end AddressPlan

end RangeLab
