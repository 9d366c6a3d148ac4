import RangeLab.Json.Token
import RangeLab.Numeral

/-!
# Scanning a JSON text

An automaton that reads a JSON text one character at a time and collects its tokens. It has one
state per kind of unfinished token. The grammar is the strict one: four blank characters, no
control characters inside strings, no leading zeros, no sign but a minus.
-/

namespace RangeLab.Json

/-! ## String literals -/

/-- A piece of a string literal: a character, or a UTF-16 code unit from a four-digit escape. -/
inductive Piece where
  | char (c : Char)
  | unit (u : Nat)

def isHighSurrogate (u : Nat) : Bool := 0xd800 ≤ u && u ≤ 0xdbff

def isLowSurrogate (u : Nat) : Bool := 0xdc00 ≤ u && u ≤ 0xdfff

def ofSurrogates (high low : Nat) : Char :=
  Char.ofNat (0x10000 + (high - 0xd800) * 0x400 + (low - 0xdc00))

/-- The text of a literal from its pieces, the last piece first; `after` holds the characters
that follow them. -/
def textOfPieces (after : List Char) : List Piece → Text
  | [] => some (String.ofList after)
  | .char c :: before => textOfPieces (c :: after) before
  | .unit low :: .unit high :: before =>
    if isHighSurrogate high && isLowSurrogate low then
      textOfPieces (ofSurrogates high low :: after) before
    else if isHighSurrogate low || isLowSurrogate low then none
    else textOfPieces (Char.ofNat low :: after) (.unit high :: before)
  | .unit u :: before =>
    if isHighSurrogate u || isLowSurrogate u then none
    else textOfPieces (Char.ofNat u :: after) before

def escapedChar? : Char → Option Char
  | '"' => some '"'
  | '\\' => some '\\'
  | '/' => some '/'
  | 'b' => some '\x08'
  | 'f' => some '\x0c'
  | 'n' => some '\n'
  | 'r' => some '\r'
  | 't' => some '\t'
  | _ => none

def hexValue? (c : Char) : Option Nat :=
  if c.isDigit then some (c.toNat - '0'.toNat)
  else if 'a' ≤ c && c ≤ 'f' then some (c.toNat - 'a'.toNat + 10)
  else if 'A' ≤ c && c ≤ 'F' then some (c.toNat - 'A'.toNat + 10)
  else none

/-! ## Numbers -/

/-- How far a number has been read: the part that its last character belongs to. -/
inductive NumberPart where
  | minus
  | zero
  | whole
  | point
  | fraction
  | mark
  | markSign
  | exponent
  deriving DecidableEq

namespace NumberPart

/-- The part that a further character belongs to, if the number goes on with it. -/
def next? (part : NumberPart) (c : Char) : Option NumberPart :=
  match part with
  | .minus => if c = '0' then some .zero else if c.isDigit then some .whole else none
  | .zero => if c = '.' then some .point else if c = 'e' || c = 'E' then some .mark else none
  | .whole =>
    if c.isDigit then some .whole
    else if c = '.' then some .point
    else if c = 'e' || c = 'E' then some .mark
    else none
  | .point => if c.isDigit then some .fraction else none
  | .fraction =>
    if c.isDigit then some .fraction else if c = 'e' || c = 'E' then some .mark else none
  | .mark =>
    if c = '+' || c = '-' then some .markSign else if c.isDigit then some .exponent else none
  | .markSign => if c.isDigit then some .exponent else none
  | .exponent => if c.isDigit then some .exponent else none

def isComplete : NumberPart → Bool
  | .zero | .whole | .fraction | .exponent => true
  | .minus | .point | .mark | .markSign => false

end NumberPart

def ofNumeral (cs : List Char) : Json :=
  if cs.all Char.isDigit then .natural (Numeral.value cs) else .otherNumber

/-! ## The automaton -/

/-- What is being read. Characters and pieces are collected with the last one first. -/
inductive Scan where
  /-- Nothing: the last token is complete. -/
  | between
  /-- A name such as `true`, with the letters still to come and the value that it stands for. -/
  | name (rest : List Char) (v : Json)
  | number (part : NumberPart) (read : List Char)
  | string (read : List Piece)
  /-- A string, after a backslash. -/
  | escape (read : List Piece)
  /-- A string, inside a four-digit escape of which so many digits are to come. -/
  | unit (read : List Piece) (missing : Nat) (value : Nat)

namespace Scan

/-- The first character of a token, or a blank one. -/
def begin (c : Char) : Option (Scan × List Token) :=
  match c with
  | ' ' | '\t' | '\n' | '\r' => some (.between, [])
  | '[' => some (.between, [.openList])
  | ']' => some (.between, [.closeList])
  | '{' => some (.between, [.openObject])
  | '}' => some (.between, [.closeObject])
  | ',' => some (.between, [.comma])
  | ':' => some (.between, [.colon])
  | '"' => some (.string [], [])
  | 't' => some (.name ['r', 'u', 'e'] (.bool true), [])
  | 'f' => some (.name ['a', 'l', 's', 'e'] (.bool false), [])
  | 'n' => some (.name ['u', 'l', 'l'] .null, [])
  | '-' => some (.number .minus [c], [])
  | '0' => some (.number .zero [c], [])
  | c => if c.isDigit then some (.number .whole [c], []) else none

/-- One more character: the new state and the tokens that it completes, the last one first. -/
def step (s : Scan) (c : Char) : Option (Scan × List Token) :=
  match s with
  | .between => begin c
  | .name [] _ => none
  | .name (l :: rest) v =>
    if c ≠ l then none
    else if rest.isEmpty then some (.between, [.leaf v])
    else some (.name rest v, [])
  | .number part read =>
    match part.next? c with
    | some part => some (.number part (c :: read), [])
    | none =>
      if part.isComplete then
        (begin c).map fun (s, found) => (s, found ++ [.leaf (ofNumeral read.reverse)])
      else none
  | .string read =>
    if c = '"' then some (.between, [.leaf (.string (textOfPieces [] read))])
    else if c = '\\' then some (.escape read, [])
    else if c < ' ' then none
    else some (.string (.char c :: read), [])
  | .escape read =>
    if c = 'u' then some (.unit read 3 0, [])
    else (escapedChar? c).map fun e => (.string (.char e :: read), [])
  | .unit read missing value =>
    (hexValue? c).map fun d =>
      match missing with
      | 0 => (.string (.unit (16 * value + d) :: read), [])
      | k + 1 => (.unit read k (16 * value + d), [])

/-- The end of the text: the token that it completes, if any; `none` inside a token. -/
def finish : Scan → Option (List Token)
  | .between => some []
  | .number part read =>
    if part.isComplete then some [.leaf (ofNumeral read.reverse)] else none
  | _ => none

/-- The tokens of a text from a state on, after those in `found`, which are kept last first. -/
def run (s : Scan) (found : List Token) : List Char → Option (List Token)
  | [] => s.finish.map fun last => (last ++ found).reverse
  | c :: cs =>
    match s.step c with
    | none => none
    | some (s, more) => run s (more ++ found) cs

end Scan

/-- The tokens of a text, or `none` if some part of it is no token. -/
def tokens? (cs : List Char) : Option (List Token) := Scan.run .between [] cs

end RangeLab.Json
