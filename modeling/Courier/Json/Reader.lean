import Courier.Json.Basic
import Courier.Json.Scalar

/-!
# Reading JSON values

Lists and objects are read by loops over their items and fields that take the reader of an item, so
that values are read by recursion on the depth that is still allowed. A document nests lists and
objects at most `allowedDepth - 1` deep. `skipValue` passes over a value of any depth.
-/

namespace Courier.Json

/-! ## §1 Items and fields -/

/-- Whether another item follows: the cursor is then at its first byte, and otherwise at the closing
bracket. -/
def anotherItem (first : Bool) (c : Cursor) : Except ReadError (Bool × Cursor) :=
  let c := c.skipSpaces
  match c.rest with
  | [] => .error (c.peekFault .endInList)
  | b :: _ =>
    if b = 93 then .ok (false, c)
    else if first then .ok (true, c)
    else if b = 44 then
      let c := c.next.skipSpaces
      match c.rest with
      | [] => .error (c.peekFault .endInValue)
      | b :: _ => if b = 93 then .error (c.peekFault .trailingComma) else .ok (true, c)
    else .error (c.peekFault .noListComma)

/-- Reads items up to the closing bracket. -/
def readItems {α : Type} (item : Reader α) : (fuel : Nat) → (first : Bool) → Reader (List α)
  | 0, _, c => .error (c.fault .endInList)
  | fuel + 1, first, c =>
    match anotherItem first c with
    | .error e => .error e
    | .ok (false, c) => .ok ([], c)
    | .ok (true, c) =>
      match item c with
      | .error e => .error e
      | .ok (v, c) =>
        match readItems item fuel false c with
        | .error e => .error e
        | .ok (rest, c) => .ok (v :: rest, c)

def closeList (c : Cursor) : Except ReadError Cursor :=
  let c := c.skipSpaces
  match c.rest with
  | [] => .error (c.peekFault .endInList)
  | b :: _ =>
    if b = 93 then .ok c.next
    else if b = 44 then
      let c := c.next.skipSpaces
      if c.sees 93 then .error (c.peekFault .trailingComma)
      else .error (c.peekFault .trailingCharacters)
    else .error (c.peekFault .trailingCharacters)

/-- Whether another field follows: the cursor is then at the quote of its name, and otherwise at the
closing brace. -/
def anotherField (first : Bool) (c : Cursor) : Except ReadError (Bool × Cursor) :=
  let c := c.skipSpaces
  match c.rest with
  | [] => .error (c.peekFault .endInObject)
  | b :: _ =>
    if b = 125 then .ok (false, c)
    else if first then
      if b = 34 then .ok (true, c) else .error (c.peekFault .keyNotText)
    else if b = 44 then
      let c := c.next.skipSpaces
      match c.rest with
      | [] => .error (c.peekFault .endInValue)
      | b :: _ =>
        if b = 34 then .ok (true, c)
        else if b = 125 then .error (c.peekFault .trailingComma)
        else .error (c.peekFault .keyNotText)
    else .error (c.peekFault .noObjectComma)

def readColon (c : Cursor) : Except ReadError Cursor :=
  let c := c.skipSpaces
  match c.rest with
  | [] => .error (c.peekFault .endInObject)
  | b :: _ => if b = 58 then .ok c.next else .error (c.peekFault .noColon)

/-- Reads fields up to the closing brace. -/
def readFields {α : Type} (value : Reader α) : (fuel : Nat) → (first : Bool) →
    Reader (List (String × α))
  | 0, _, c => .error (c.fault .endInObject)
  | fuel + 1, first, c =>
    match anotherField first c with
    | .error e => .error e
    | .ok (false, c) => .ok ([], c)
    | .ok (true, c) =>
      match readText c with
      | .error e => .error e
      | .ok (name, c) =>
        match readColon c with
        | .error e => .error e
        | .ok c =>
          match value c with
          | .error e => .error e
          | .ok (v, c) =>
            match readFields value fuel false c with
            | .error e => .error e
            | .ok (rest, c) => .ok ((name, v) :: rest, c)

def closeObject (c : Cursor) : Except ReadError Cursor :=
  let c := c.skipSpaces
  match c.rest with
  | [] => .error (c.peekFault .endInObject)
  | b :: _ =>
    if b = 125 then .ok c.next
    else if b = 44 then .error (c.peekFault .trailingComma)
    else .error (c.peekFault .trailingCharacters)

/-- Reads a list with its brackets, the cursor being at the first. -/
def readList {α : Type} (item : Reader α) : Reader (List α) := fun c =>
  match readItems item (c.rest.length + 1) true c.next with
  | .error e => .error e
  | .ok (items, c) =>
    match closeList c with
    | .error e => .error e
    | .ok c => .ok (items, c)

/-- Reads an object with its braces, the cursor being at the first. -/
def readObject {α : Type} (value : Reader α) : Reader (List (String × α)) := fun c =>
  match readFields value (c.rest.length + 1) true c.next with
  | .error e => .error e
  | .ok (fields, c) =>
    match closeObject c with
    | .error e => .error e
    | .ok c => .ok (fields, c)

/-! ## §2 Values -/

/-- Reads a value that is neither a list nor an object, the cursor being at its first byte `b`. -/
def readScalar (b : UInt8) : Reader Json := fun c =>
  if b = 110 then (readWord afterN c.next).map fun r => (.null, r.2)
  else if b = 116 then (readWord afterT c.next).map fun r => (.bool true, r.2)
  else if b = 102 then (readWord afterF c.next).map fun r => (.bool false, r.2)
  else if b = 34 then (readText c).map fun r => (.text r.1, r.2)
  else if b = 45 ∨ (digit? b).isSome then
    (readNumber c).map fun r =>
      match r with
      | (.whole n, c) => (.int n, c)
      | (.binary x, c) => (.float x, c)
  else .error (c.peekFault .noValue)

/-- Reads a value, with `depth - 1` levels of lists and objects allowed. -/
def readValue : (depth : Nat) → Reader Json
  | 0, c => .error (c.peekFault .tooDeep)
  | depth + 1, c =>
    let c := c.skipSpaces
    match c.rest with
    | [] => .error (c.peekFault .endInValue)
    | b :: _ =>
      if b = 91 then
        if depth = 0 then .error (c.peekFault .tooDeep)
        else (readList (readValue depth) c).map fun r => (.list r.1, r.2)
      else if b = 123 then
        if depth = 0 then .error (c.peekFault .tooDeep)
        else (readObject (readValue depth) c).map fun r => (ofFields r.1, r.2)
      else readScalar b c

/-- One more than the number of levels of lists and objects in a document. -/
def allowedDepth : Nat := 128

/-- Reads a whole document with the given reader: nothing but white space may follow. -/
def readDocument {α : Type} (value : Reader α) (bytes : List UInt8) : Except ReadError α :=
  match value (Cursor.start bytes) with
  | .error e => .error e
  | .ok (v, c) =>
    let c := c.skipSpaces
    match c.rest with
    | [] => .ok v
    | _ :: _ => .error (c.peekFault .trailingCharacters)

def read (bytes : List UInt8) : Except ReadError Json :=
  readDocument (readValue allowedDepth) bytes

/-! ## §3 Passing over values -/

/-- Passes over an escape after its backslash. Halves of pairs are not checked. -/
def skipEscape (c : Cursor) : Except ReadError Cursor :=
  match c.rest with
  | [] => .error (c.fault .endInText)
  | b :: _ =>
    if b = 117 then (readHexFour c.next).map Prod.snd
    else if (shortEscape? b).isSome then .ok c.next
    else .error (c.next.fault .badEscape)

/-- Passes over a text after its opening quote. -/
def skipText : (fuel : Nat) → Cursor → Except ReadError Cursor
  | 0, c => .error (c.fault .endInText)
  | fuel + 1, c =>
    match c.rest with
    | [] => .error (c.fault .endInText)
    | b :: _ =>
      if b = 34 then .ok c.next
      else if b = 92 then
        match skipEscape c.next with
        | .error e => .error e
        | .ok c => skipText fuel c
      else if b < 32 then .error (c.fault .controlInText)
      else skipText fuel c.next

/-- Passes over an exponent, the cursor being at its letter. -/
def skipExponent (c : Cursor) : Except ReadError Cursor :=
  let c := c.next
  let c := if c.sees 43 || c.sees 45 then c.next else c
  match c.peek?.bind digit? with
  | some _ => .ok (skipDigits c.rest.length c.next)
  | none => .error (c.next.fault .badNumber)

/-- Passes over what may follow the digits of a whole number. -/
def skipAfterDigits (c : Cursor) : Except ReadError Cursor :=
  if c.sees 46 then
    let c := c.next
    match c.peek?.bind digit? with
    | some _ =>
      let c := skipDigits c.rest.length c
      if seesExponent c then skipExponent c else .ok c
    | none => .error (c.peekFault .badNumber)
  else if seesExponent c then skipExponent c
  else .ok c

/-- Passes over a number without its sign. -/
def skipNumber (c : Cursor) : Except ReadError Cursor :=
  match c.peek?.bind digit? with
  | none => .error (c.next.fault .badNumber)
  | some 0 =>
    match c.next.peek?.bind digit? with
    | some _ => .error (c.next.peekFault .badNumber)
    | none => skipAfterDigits c.next
  | some _ => skipAfterDigits (skipDigits c.rest.length c)

/-- Passes over a value without items or fields, the cursor being at its first byte `b`. -/
def skipScalar (b : UInt8) (c : Cursor) : Except ReadError Cursor :=
  if b = 110 then (readWord afterN c.next).map Prod.snd
  else if b = 116 then (readWord afterT c.next).map Prod.snd
  else if b = 102 then (readWord afterF c.next).map Prod.snd
  else if b = 34 then skipText (c.rest.length + 1) c.next
  else if b = 45 then skipNumber c.next
  else if (digit? b).isSome then skipNumber c
  else .error (c.peekFault .noValue)

def skipName (c : Cursor) : Except ReadError Cursor :=
  let c := c.skipSpaces
  match c.rest with
  | [] => .error (c.peekFault .endInObject)
  | b :: _ =>
    if b = 34 then
      match skipText (c.rest.length + 1) c.next with
      | .error e => .error e
      | .ok c => readColon c
    else .error (c.peekFault .keyNotText)

/-- What comes next when a value is passed over. -/
inductive SkipState where
  | value
  /-- The inside of the innermost list or object, after an item or before the first. -/
  | inside (afterItem : Bool)

/-- Passes over a value. `brackets` holds those that are open, the innermost first, `true` for
the brace of an object. -/
def skipFrom : (fuel : Nat) → SkipState → (brackets : List Bool) → Cursor → Except ReadError Cursor
  | 0, _, _, c => .error (c.fault .endInValue)
  | fuel + 1, .value, brackets, c =>
    let c := c.skipSpaces
    match c.rest with
    | [] => .error (c.peekFault .endInValue)
    | b :: _ =>
      if b = 91 then skipFrom fuel (.inside false) (false :: brackets) c.next
      else if b = 123 then skipFrom fuel (.inside false) (true :: brackets) c.next
      else
        match skipScalar b c with
        | .error e => .error e
        | .ok c =>
          match brackets with
          | [] => .ok c
          | _ :: _ => skipFrom fuel (.inside true) brackets c
  | _ + 1, .inside _, [], c => .ok c
  | fuel + 1, .inside afterItem, inObject :: outer, c =>
    let c := c.skipSpaces
    match c.rest with
    | [] => .error (c.peekFault (if inObject then .endInObject else .endInList))
    | b :: _ =>
      if b = 44 ∧ afterItem then
        if inObject then
          match skipName c.next with
          | .error e => .error e
          | .ok c => skipFrom fuel .value (inObject :: outer) c
        else skipFrom fuel .value (inObject :: outer) c.next
      else if b = (if inObject then 125 else 93) then
        match outer with
        | [] => .ok c.next
        | _ :: _ => skipFrom fuel (.inside true) outer c.next
      else if afterItem then
        .error (c.peekFault (if inObject then .noObjectComma else .noListComma))
      else if inObject then
        match skipName c with
        | .error e => .error e
        | .ok c => skipFrom fuel .value (inObject :: outer) c
      else skipFrom fuel .value (inObject :: outer) c

def skipValue (c : Cursor) : Except ReadError Cursor :=
  skipFrom (2 * c.rest.length + 2) .value [] c

end Courier.Json
