/-!
# Blanks

The characters of the Unicode property White_Space, and texts without blanks at their ends.
-/

namespace Courier.Text

/-- Whether a character is white space, in any script. -/
def isBlank (c : Char) : Bool :=
  let n := c.toNat
  (9 ≤ n && n ≤ 13) || n == 0x20 || n == 0x85 || n == 0xA0 || n == 0x1680
    || (0x2000 ≤ n && n ≤ 0x200A) || n == 0x2028 || n == 0x2029 || n == 0x202F || n == 0x205F
    || n == 0x3000

/-- The characters without the blanks at either end. -/
def trimChars (cs : List Char) : List Char :=
  ((cs.dropWhile isBlank).reverse.dropWhile isBlank).reverse

/-- Splits characters at every separator; there is one part more than there are separators. -/
def splitChars (separator : Char) : List Char → List (List Char)
  | [] => [[]]
  | c :: rest =>
    if c = separator then [] :: splitChars separator rest
    else
      match splitChars separator rest with
      | [] => [[c]]
      | part :: parts => (c :: part) :: parts

/-- Splits characters at every separator, where one at the very end ends the last part and begins no
other. -/
def splitEnded (separator : Char) : List Char → List (List Char)
  | [] => []
  | c :: rest =>
    if c = separator then [] :: splitEnded separator rest
    else
      match splitEnded separator rest with
      | [] => [[c]]
      | part :: parts => (c :: part) :: parts

def splitAt (separator : Char) (s : String) : List String :=
  (splitChars separator s.toList).map String.ofList

/-- Puts texts one after the other with a separator between them. -/
def joinWith (separator : String) : List String → String
  | [] => ""
  | [s] => s
  | s :: rest => s ++ separator ++ joinWith separator rest

end Courier.Text
