import Courier.Dict
import Courier.Text.Lowercase
import Courier.Text.Numeral
import Courier.Trace.State

/-!
# Trace contexts and their carriers

A trace context names a span in a trace. It travels in headers: a propagator says which pairs are
set for a context, and which context a header map holds. Keys are set in small letters and looked up
as they are.
-/

namespace Courier.Trace

/-! ## §1 Contexts -/

/-- A span in a trace, and whether it was read from headers. -/
structure Context where
  traceId : BitVec 128
  spanId : BitVec 64
  flags : UInt8
  state : State
  remote : Bool
deriving DecidableEq, Repr

namespace Context

def none : Context := ⟨0, 0, 0, State.empty, false⟩

instance : Inhabited Context := ⟨none⟩

/-- Whether a context names a span: neither of its numbers is zero. -/
def isValid (c : Context) : Bool :=
  c.traceId != 0 && c.spanId != 0

/-- The trace number in 32 hexadecimal digits. -/
def traceText (c : Context) : String := Numeral.hex 32 c.traceId.toNat

/-- The span number in 16 hexadecimal digits. -/
def spanText (c : Context) : String := Numeral.hex 16 c.spanId.toNat

end Context

def readTraceId (text : String) : Option (BitVec 128) :=
  (Numeral.readHex (1 <<< 128) text).map (BitVec.ofNat 128)

def readSpanId (text : String) : Option (BitVec 64) :=
  (Numeral.readHex (1 <<< 64) text).map (BitVec.ofNat 64)

/-! ## §2 Propagators -/

/-- A way for contexts to travel: the pairs that are set for a context, in order, and the context
that values looked up by key hold. -/
structure Propagator where
  inject : Context → List (String × String)
  extract : (String → Option String) → Context

/-- Sets pairs under their keys in small letters. -/
def setPairs (headers : Dict String) (pairs : List (String × String)) : Dict String :=
  headers.insertAll (pairs.map fun p => (Text.lowercase p.1, p.2))

namespace Propagator

def injectInto (p : Propagator) (c : Context) (headers : Dict String) : Dict String :=
  setPairs headers (p.inject c)

def extractFrom (p : Propagator) (headers : Dict String) : Context :=
  p.extract headers.get?

/-- Contexts do not travel. -/
def silent : Propagator where
  inject := fun _ => []
  extract := fun _ => Context.none

/-- The same pairs for every context; the value under the first key is read as both numbers. -/
def fixed (pairs : List (String × String)) : Propagator where
  inject := fun _ => pairs
  extract := fun get =>
    match pairs.head?.bind fun p => get p.1 with
    | none => Context.none
    | some text =>
      match readTraceId text, readSpanId text with
      | some trace, some span => ⟨trace, span, 1, State.empty, true⟩
      | _, _ => Context.none

/-! ## §3 The W3C form -/

/-- The header that names the span. -/
def parentHeader : String := "traceparent"

/-- The header that holds the state of the vendors. -/
def stateHeader : String := "tracestate"

/-- The flag of a sampled trace, the only one that travels. -/
def sampledFlag : UInt8 := 1

/-- The text that names the span of a context. -/
def parentText (c : Context) : String :=
  "00-" ++ c.traceText ++ "-" ++ c.spanText ++ "-"
    ++ Numeral.hex 2 (c.flags &&& sampledFlag).toNat

/-- Whether there is a capital among the letters `A` to `Z`. -/
def hasCapital (s : String) : Bool :=
  s.toList.any Char.isUpper

/-- Reads version, numbers and flags. Version 0 has four parts and flags up to 2, later ones may
have more of either, and version 255 is none. -/
def readParts (parts : List String) : Option (BitVec 128 × BitVec 64 × UInt8) :=
  match parts with
  | versionPart :: tracePart :: spanPart :: flagsPart :: more =>
    match Numeral.readHex 256 versionPart with
    | none => none
    | some version =>
      if version > 254 ∨ (version = 0 ∧ more ≠ []) ∨ hasCapital tracePart ∨ hasCapital spanPart then
        none
      else
        match readTraceId tracePart, readSpanId spanPart, Numeral.readHex 256 flagsPart with
        | some trace, some span, some flags =>
          if version = 0 ∧ flags > 2 then none
          else some (trace, span, UInt8.ofNat flags &&& sampledFlag)
        | _, _, _ => none
  | _ => none

/-- Reads the text that names a span. Blanks around it are dropped, and so is a dash at its end. -/
def readParent (text : String) : Option (BitVec 128 × BitVec 64 × UInt8) :=
  readParts ((Text.splitEnded '-' (Text.trimChars text.toList)).map String.ofList)

/-- The form of the World Wide Web Consortium: one header for the span and one for the state. -/
def w3c : Propagator where
  inject := fun c =>
    if c.isValid then [(parentHeader, parentText c), (stateHeader, c.state.text)] else []
  extract := fun get =>
    match (get parentHeader).bind readParent with
    | none => Context.none
    | some (trace, span, flags) =>
      let c : Context := ⟨trace, span, flags, State.read ((get stateHeader).getD ""), true⟩
      if c.isValid then c else Context.none

end Propagator

end Courier.Trace
