import RangeLab.Ipv4.Address
import RangeLab.Ipv6

/-!
# IPv4 blocks

A block is an address together with a length, the number of leading bits that all addresses of the
block share; it is written `10.0.0.0/16`. The address may be any member of the block; the block's
*base* is its lowest one. This module has the arithmetic of blocks: their parts of equal size and
their usable hosts.
-/

namespace RangeLab.Ipv4

/-- A block of IPv4 addresses, given by one of its addresses. -/
structure Block where
  address : Address
  /-- The number of leading bits that the addresses share. -/
  length : Nat
  length_le : length ≤ 32
  deriving DecidableEq

namespace Block

def size (b : Block) : Nat := 1 <<< (32 - b.length)

/-- The number of the lowest address. -/
def base (b : Block) : Nat := b.address.toNat / b.size * b.size

def truncated (b : Block) : Block := { b with address := .ofNat b.base }

/-- The addresses of a block. -/
instance : Membership Address Block :=
  ⟨fun b a => b.base ≤ a.toNat ∧ a.toNat < b.base + b.size⟩

def hasHostBits (b : Block) : Bool := b.address.toNat != b.base

/-- The written form of a block, with the address it is given by. -/
def render (b : Block) : String := b.address.render ++ "/" ++ toString b.length

instance : ToString Block := ⟨render⟩

/-! ## Parts -/

/-- Part `k` of a block that is cut into `2 ^ bits` blocks of equal size, counted from 0 at the
lowest address. There is none if the parts would be smaller than one address. -/
def part? (b : Block) (bits k : Nat) : Option Block :=
  if h : b.length + bits ≤ 32 then
    if k < 1 <<< bits then
      some
        { address := .ofNat (b.base + k <<< (32 - (b.length + bits)))
          length := b.length + bits
          length_le := h }
    else none
  else none

/-! ## Hosts -/

/-- The number of addresses that hosts can have. The lowest and the highest address of a block are
no host's, except in blocks of one or two addresses. -/
def usableHosts (b : Block) : Nat :=
  if b.length < 31 then b.size - 2 else b.size

/-- The address of host `k`, counted from 0 in ascending order. -/
def host? (b : Block) (k : Nat) : Option Address :=
  if k < b.usableHosts then
    some (.ofNat (b.base + k + if b.length < 31 then 1 else 0))
  else none

/-! ## Reading -/

def length? (cs : List Char) : Option { n : Nat // n ≤ 32 } :=
  if Numeral.isRun cs && cs.length ≤ 2 then
    if h : Numeral.value cs ≤ 32 then some ⟨Numeral.value cs, h⟩ else none
  else none

/-- Reads a block: an address, a slash and a length. -/
def ofText? (s : String) : Option Block :=
  match s.toList.splitOn '/' with
  | [quad, length] => do
    let address ← Address.ofQuad? quad
    let n ← length? length
    return ⟨address, n.val, n.property⟩
  | _ => none

end Block

inductive BlockFault where
  | malformed (text : String)
  | notIpv4 (text : String)
  | hostBits (text : String) (block : Block)
  deriving DecidableEq

def BlockFault.message : BlockFault → String
  | .malformed text => "Invalid CIDR notation: " ++ text
  | .notIpv4 text => "Only IPv4 blocks are supported: " ++ text
  | .hostBits text block =>
    "CIDR block has host bits set: " ++ text ++ " (network is " ++ block.render ++ ")"

/-- Reads the block of a whole lab, which must be given by its lowest address. A text with an IPv6
address before its first slash is told from a malformed one. -/
def Block.readRoot (s : String) : Except BlockFault Block :=
  if '/' ∉ s.toList then .error (.malformed s)
  else if Ipv6.isAddress (s.toList.takeWhile (· ≠ '/')) then .error (.notIpv4 s)
  else
    match Block.ofText? s with
    | none => .error (.malformed s)
    | some block => if block.hasHostBits then .error (.hostBits s block.truncated) else .ok block

end RangeLab.Ipv4
