import Courier.Text.Blank

/-!
# Vendor states

What the vendors of tracing systems add to a trace context: keyed values, written with an equals
sign in each of them and a comma between them. One bad member makes a whole text unreadable.
-/

namespace Courier.Trace

/-! ## §1 Members -/

/-- Whether a character may stand in the key of a member. -/
def isKeyChar (c : Char) : Bool :=
  c.isLower || c.isDigit || c == '_' || c == '-' || c == '*' || c == '/' || c == '@'

/-- Whether a character may begin a key, or the name of a vendor in it. -/
def isKeyStart (c : Char) : Bool :=
  c.isLower || c.isDigit

/-- Whether the characters after the first at sign of a key name a vendor: no further at sign, at
most thirteen characters, and a small letter or a digit at the beginning. -/
def isVendor (cs : List Char) : Bool :=
  !cs.contains '@' && decide (cs.length ≤ 13) &&
    match cs with
    | [] => true
    | c :: _ => isKeyStart c

/-- Whether characters are the key of a member. The empty key is one. -/
def isKey (cs : List Char) : Bool :=
  cs.all isKeyChar && decide (cs.length ≤ 256) &&
    (match cs with
    | [] => true
    | c :: _ => isKeyStart c) &&
    (match cs.dropWhile (· != '@') with
    | [] => true
    | _ :: vendor => isVendor vendor)

/-- Whether characters are the value of a member. -/
def isValue (cs : List Char) : Bool :=
  !cs.contains ',' && !cs.contains '=' && decide ((String.ofList cs).utf8ByteSize ≤ 256)

/-- A keyed value. -/
abbrev Member := List Char × List Char

/-- Whether key and value are well formed. -/
def Member.isValid (m : Member) : Bool :=
  isKey m.1 && isValue m.2

/-- Reads a member: the key ends at the first equals sign, and further ones right after it are
dropped. -/
def Member.read (cs : List Char) : Option Member :=
  match cs.dropWhile (· != '=') with
  | [] => none
  | value =>
    let m : Member := (cs.takeWhile (· != '='), value.dropWhile (· == '='))
    if m.isValid then some m else none

def Member.chars (m : Member) : List Char :=
  m.1 ++ '=' :: m.2

/-! ## §2 States -/

/-- The members that vendors have added, in order. -/
structure State where
  members : List Member
  valid : ∀ m ∈ members, m.isValid = true
deriving DecidableEq

namespace State

def empty : State := ⟨[], by simp⟩

instance : Inhabited State := ⟨empty⟩

instance : Repr State := ⟨fun s n => reprPrec s.members n⟩

/-- Reads the members of a list of parts. -/
def readMembers : List (List Char) → Option (List Member)
  | [] => some []
  | part :: rest =>
    match Member.read part, readMembers rest with
    | some m, some ms => some (m :: ms)
    | _, _ => none

private theorem isValid_of_read {cs : List Char} {m : Member} (h : Member.read cs = some m) :
    m.isValid = true := by
  simp only [Member.read] at h
  split at h
  · exact absurd h (by simp)
  · split at h
    · rename_i hm
      exact (Option.some.inj h) ▸ hm
    · exact absurd h (by simp)

private theorem isValid_of_readMembers {parts : List (List Char)} {ms : List Member}
    (h : readMembers parts = some ms) : ∀ m ∈ ms, m.isValid = true := by
  induction parts generalizing ms with
  | nil =>
    simp only [readMembers, Option.some.injEq] at h
    simp [← h]
  | cons part rest ih =>
    simp only [readMembers] at h
    split at h
    · rename_i m more hm hmore
      obtain rfl := Option.some.inj h
      intro x hx
      rcases List.mem_cons.1 hx with hx | hx
      · exact hx ▸ isValid_of_read hm
      · exact ih hmore x hx
    · exact absurd h (by simp)

/-- Reads a state from a text of members with commas between them, if every member is well formed.
A comma may stand at the end. -/
def read? (text : String) : Option State :=
  match h : readMembers (Text.splitEnded ',' text.toList) with
  | some ms => some ⟨ms, isValid_of_readMembers h⟩
  | none => none

/-- Reads a state; a text that is not well formed stands for the empty one. -/
def read (text : String) : State :=
  (read? text).getD empty

def text (s : State) : String :=
  Text.joinWith "," (s.members.map fun m => String.ofList m.chars)

end State

end Courier.Trace
