import RangeLab.Text.Extender
import RangeLab.Text.Unseen

/-!
# Quoted text

How a message shows a text that a user wrote: between double quotes, with the quote, the backslash
and the common controls escaped by a letter, and every character that a reader could not see or
could not tell apart escaped by its number.
-/

namespace RangeLab.Text

/-- The hexadecimal digits of a number, in lower case and without leading zeros. -/
def hexDigits (n : Nat) : List Char := Nat.toDigits 16 n

def quotedChar (c : Char) : List Char :=
  match c with
  | '"' => ['\\', '"']
  | '\\' => ['\\', '\\']
  | '\t' => ['\\', 't']
  | '\n' => ['\\', 'n']
  | '\r' => ['\\', 'r']
  | '\x00' => ['\\', '0']
  | c =>
    if isUnseen c || isExtender c then
      ['\\', 'u', '{'] ++ hexDigits c.toNat ++ ['}']
    else
      [c]

def quoted (s : String) : String :=
  String.ofList ('"' :: s.toList.flatMap quotedChar ++ ['"'])

end RangeLab.Text
