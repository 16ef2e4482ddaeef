import Courier.Text.CaseTable

/-!
# Small letters

The text with every capital replaced by its small letter, in all scripts. A capital sigma becomes
the final small sigma at the end of a word: after a letter with case and before none, where
characters that case ignores are skipped on both sides.
-/

namespace Courier.Text

/-- Whether a character is a capital, a small letter or a title letter. -/
def isCased (c : Char) : Bool :=
  c.isAlpha || inRanges c.toNat casedRanges

/-- Whether a character is skipped when the letters around a place are looked up. -/
def isCaseIgnorable (c : Char) : Bool :=
  inRanges c.toNat caseIgnorableRanges

/-- The small letter of the capital `n` in the first run that has it. -/
def smallLetterIn (n : Nat) : List (Nat × Nat × Nat × Nat) → Option Nat
  | [] => none
  | (first, last, step, small) :: rest =>
    if first ≤ n ∧ n ≤ last ∧ (n - first) % step = 0 then some (small + (n - first))
    else smallLetterIn n rest

/-- The small form of a character. Only the dotted capital I has one of two characters. -/
def smallLetters (c : Char) : List Char :=
  if c.toNat < 128 then [c.toLower]
  else if c.toNat = 0x130 then ['i', Char.ofNat 0x307]
  else
    match smallLetterIn c.toNat smallLetterRuns with
    | some n => [Char.ofNat n]
    | none => [c]

/-- Whether the first character that is not skipped has case. -/
def leadsToCased : List Char → Bool
  | [] => false
  | c :: rest => if isCaseIgnorable c then leadsToCased rest else isCased c

def capitalSigma : Char := Char.ofNat 0x3A3

/-- The small sigma that stands between the characters `before`, nearest first, and `after`. -/
def smallSigma (before after : List Char) : Char :=
  if leadsToCased before && !leadsToCased after then Char.ofNat 0x3C2 else Char.ofNat 0x3C3

/-- The small form of characters that stand after the characters `before`, nearest first. -/
def lowercaseAfter (before : List Char) : List Char → List Char
  | [] => []
  | c :: rest =>
    (if c = capitalSigma then [smallSigma before rest] else smallLetters c)
      ++ lowercaseAfter (c :: before) rest

def lowercase (s : String) : String :=
  String.ofList (lowercaseAfter [] s.toList)

end Courier.Text
