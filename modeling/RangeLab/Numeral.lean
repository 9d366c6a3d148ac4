import RangeLab.Word

/-!
# Decimal numerals

Numbers as people and tools write them. A *run* is a non-empty list of decimal digits; its value
is read in base ten. Two stricter or looser forms are read from it: an *ordinal* is the one
spelling of a positive number that names carry, and a *count* is what a user types in a list of
numbers.
-/

namespace RangeLab.Numeral

/-- Whether the characters are a run: at least one, and all of them decimal digits. -/
def isRun (cs : List Char) : Bool := !cs.isEmpty && cs.all Char.isDigit

def value (cs : List Char) : Nat := Nat.ofDigitChars 10 cs 0

def digits (n : Nat) : List Char := Nat.toDigits 10 n

/-- Reads a positive number that is written without sign and without leading zeros and fits in
32 bits. -/
def ordinal? (cs : List Char) : Option UInt32 :=
  if isRun cs && cs.head? != some '0' then word32? (value cs) else none

inductive CountFault where
  | notDigit
  | tooLarge
  deriving DecidableEq, Repr

def CountFault.message : CountFault → String
  | .notDigit => "invalid digit found in string"
  | .tooLarge => "number too large to fit in target type"

/-- Reads the digits that follow those whose value is `n`. The first character that is no digit
or makes the value too large decides. -/
def countFrom (n : Nat) : List Char → Except CountFault Nat
  | [] => .ok n
  | c :: cs =>
    if !c.isDigit then .error .notDigit
    else
      let m := 10 * n + (c.toNat - '0'.toNat)
      if m < UInt32.size then countFrom m cs else .error .tooLarge

/-- Reads a number below 2 ^ 32 that may begin with one plus sign and with zeros. -/
def count (cs : List Char) : Except CountFault UInt32 :=
  let run := if cs.head? = some '+' then cs.tail else cs
  if run.isEmpty then .error .notDigit else (countFrom 0 run).map UInt32.ofNat

end RangeLab.Numeral
