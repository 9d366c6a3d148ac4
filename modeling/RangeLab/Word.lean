/-!
# Words

Numbers of a fixed number of bits, as far as a lab has them: which numbers fit, and the words that
count things from 1.
-/

namespace RangeLab

def word32? (n : Nat) : Option UInt32 :=
  if n < UInt32.size then some (UInt32.ofNat n) else none

def word64? (n : Nat) : Option UInt64 :=
  if n < UInt64.size then some (UInt64.ofNat n) else none

def word8? (n : Nat) : Option UInt8 :=
  if n < UInt8.size then some (UInt8.ofNat n) else none

/-- The numbers 1 to `n`, in ascending order. -/
def ordinals (n : UInt32) : List UInt32 :=
  (List.range n.toNat).map fun k => UInt32.ofNat (k + 1)

end RangeLab
