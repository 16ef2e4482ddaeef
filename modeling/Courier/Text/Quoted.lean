import Courier.Text.Numeral
import Courier.Text.ShownTable

/-!
# Quoted texts

How a text is shown inside an error: between double quotes, with the quote and the backslash
escaped, with short escapes for tab, line feed, carriage return and the null character, and with
every other character that cannot be seen alone written by its number in braces.
-/

namespace Courier.Text

/-- The digits of a number to the base 16, without leading zeros. -/
def shortHex (n : Nat) : List Char :=
  Numeral.digitsOnto 16 (n + 1) n []

def byNumber (c : Char) : List Char :=
  ['\\', 'u', '\x7b'] ++ shortHex c.toNat ++ ['\x7d']

/-- Whether a quoted text shows a character as it is. -/
def isShown (c : Char) : Bool :=
  if c.toNat < 128 then 32 ≤ c.toNat && c.toNat < 127 else !inRanges c.toNat hiddenRanges

/-- A character as a quoted text shows it. -/
def quotedChar (c : Char) : List Char :=
  if c = '\x00' then ['\\', '0']
  else if c = '\t' then ['\\', 't']
  else if c = '\n' then ['\\', 'n']
  else if c = '\x0d' then ['\\', 'r']
  else if c = '\\' then ['\\', '\\']
  else if c = '\x22' then ['\\', '\x22']
  else if isShown c then [c]
  else byNumber c

/-- A text as an error shows it. -/
def quoted (s : String) : String :=
  String.ofList (['\x22'] ++ s.toList.flatMap quotedChar ++ ['\x22'])

end Courier.Text
