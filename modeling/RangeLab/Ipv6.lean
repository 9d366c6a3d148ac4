import RangeLab.Ipv4.Address

/-!
# IPv6 addresses

The standard written form of an IPv6 address, as far as it takes to tell one from other text: eight
groups of one to four hexadecimal digits with colons between them. The last two groups may be
written as an IPv4 address, and one run of groups, which must not be empty, may be left out between
two colons.
-/

namespace RangeLab.Ipv6

/-- Whether the characters are a group. -/
def isGroup (cs : List Char) : Bool :=
  !cs.isEmpty && cs.length ≤ 4 &&
    cs.all fun c => c.isDigit || ('a' ≤ c && c ≤ 'f') || ('A' ≤ c && c ≤ 'F')

/-- The number of groups that a list of parts stands for. Only the last part may be an IPv4
address, which stands for two. -/
def groupCount : List (List Char) → Option Nat
  | [] => some 0
  | [last] =>
    if isGroup last then some 1
    else if (Ipv4.Address.ofPlainQuad? last).isSome then some 2
    else none
  | part :: parts => if isGroup part then (groupCount parts).map (· + 1) else none

/-- The parts of a text between its colons; an empty text has none. -/
def parts (cs : List Char) : List (List Char) := if cs.isEmpty then [] else cs.splitOn ':'

/-- The text before and after the first two adjacent colons. -/
def cutAtGap : List Char → Option (List Char × List Char)
  | ':' :: ':' :: cs => some ([], cs)
  | c :: cs => (cutAtGap cs).map fun (before, after) => (c :: before, after)
  | [] => none

/-- Whether the characters are an IPv6 address. -/
def isAddress (cs : List Char) : Bool :=
  match cutAtGap cs with
  | none => groupCount (parts cs) == some 8
  | some (before, after) =>
    (parts before).all isGroup &&
      match groupCount (parts after) with
      | some n => (parts before).length + n ≤ 7
      | none => false

end RangeLab.Ipv6
