import RangeLab.Numeral

/-!
# IPv4 addresses

Addresses as 32-bit words, and their written form: four decimal octets with dots between them.
-/

namespace RangeLab.Ipv4

structure Address where
  bits : UInt32
  deriving DecidableEq

namespace Address

def toNat (a : Address) : Nat := a.bits.toNat

/-- The address with this number, counted round the address space. -/
def ofNat (n : Nat) : Address := ⟨UInt32.ofNat n⟩

/-- The last address, 255.255.255.255. -/
def last : Address := ofNat (UInt32.size - 1)

/-- The octet that has so many bits below it. -/
def octet (a : Address) (shift : Nat) : Nat := a.toNat >>> shift % 256

def render (a : Address) : String :=
  String.ofList <| List.intercalate ['.'] <|
    [24, 16, 8, 0].map fun shift => Numeral.digits (a.octet shift)

instance : ToString Address := ⟨render⟩

/-! ## Reading -/

def octet? (cs : List Char) : Option Nat :=
  if Numeral.isRun cs && cs.length ≤ 3 && Numeral.value cs ≤ 255 then some (Numeral.value cs)
  else none

def ofQuad? (cs : List Char) : Option Address :=
  match (cs.splitOn '.').map octet? with
  | [some a, some b, some c, some d] => some (ofNat (a <<< 24 + b <<< 16 + c <<< 8 + d))
  | _ => none

/-- Whether a run of digits has a zero before another digit at its start. -/
def hasLeadingZero : List Char → Bool
  | '0' :: _ :: _ => true
  | _ => false

def ofPlainQuad? (cs : List Char) : Option Address :=
  if (cs.splitOn '.').any hasLeadingZero then none else ofQuad? cs

end Address

end RangeLab.Ipv4
