import Courier.Dialer.Step
import Courier.Publisher.Step
import Courier.Subscriber.Step

/-!
# Scripts of simulated brokers

A simulation runs a dialer, a publisher and a subscriber against a broker that follows a script: how
often and for how long each kind of call fails or takes, and what the handler does. This module
holds what a script consists of.
-/

namespace Courier.Simulation

/-! ## §1 Gates -/

/-- A kind of call that a script controls. -/
inductive Point where
  | dial
  | session
  | closeConnection
  | openSink
  | send
  | closeSink
  | openSource
  | ack
  | reject
  | requeue
  | republish
  | closeSource
deriving DecidableEq, Repr

/-- How the calls of one kind turn out: the next ones as listed, `true` for one that fails, the others
all alike; and the milliseconds that each of them takes. -/
structure Gate where
  outcomes : List Bool
  otherwise : Bool
  delay : Nat
deriving Inhabited

def Gate.smooth : Gate := ⟨[], false, 0⟩

/-- Whether the next call fails, and the gate after it. -/
def Gate.take (g : Gate) : Bool × Gate :=
  match g.outcomes with
  | [] => (g.otherwise, g)
  | fails :: rest => (fails, { g with outcomes := rest })

/-! ## §2 Handlers -/

/-- What the handler makes of a delivery. -/
inductive Verdict where
  | success
  | retry (text : String)
  | terminal (text : String)
  /-- Success if the body is a whole number, else a terminal error. -/
  | decode

/-- What the handler makes of a delivery, and the milliseconds that it takes for it. -/
structure Response where
  verdict : Verdict
  delay : Nat

def wholeNumber : Json.Shape := .integer (-(1 <<< 63)) ((1 <<< 63) - 1) "i64"

def Verdict.result (v : Verdict) (d : Delivery) : Except HandlerError Unit :=
  match v with
  | .success => .ok ()
  | .retry text => .error (.retry (.text text))
  | .terminal text => .error (.terminal (.text text))
  | .decode =>
    match d.json wholeNumber with
    | .ok _ => .ok ()
    | .error e => .error (.terminal (.broker e))

/-! ## §3 Set-ups and steps -/

/-- What a simulation runs. Linked transports need the connection of the dialer. -/
structure Setup where
  policy : Policy
  publisher : Publisher.Setup
  publisherLinked : Bool
  subscriber : Subscriber.Setup
  subscriberLinked : Bool
  /-- Whether the source can publish copies. -/
  copies : Bool
  responses : List Response
  otherwise : Response

/-- A call of the application. -/
inductive Command where
  | dialer (operation : Dialer.Operation)
  | publish (batch : Publisher.Batch)
  | closePublisher
  | listen
  | closeSubscriber
  | advance (millis : Nat)

/-- A step of a scenario. -/
inductive Step where
  | call (command : Command) (background : Bool)
  /-- The latest connection that is alive fails. -/
  | breakConnection (reason : String)
  /-- The failure signal of the latest connection that is alive ends. -/
  | endSignal
  | fail (point : Point) (outcomes : List Bool) (otherwise : Bool)
  | delay (point : Point) (millis : Nat)
  /-- The send-handles of a destination report closed. -/
  | killHandles (destination : String)
  | deliver (delivery : Delivery)
  | endStream
  | readError (reason : String)

/-! ## §4 Encodings and numbers of envelopes -/

/-- Bodies as JSON documents, where an object with the field `refuse` is refused for the reason that
the field gives. -/
def pickyEncoding : Encoding where
  contentType := "application/x-picky"
  encode := fun body =>
    match body.field? "refuse" with
    | some reason => .error (.encoding ((reason.text?).getD ""))
    | none => Encoding.json.encode body

/-- The text of a number of an envelope: a random one of its form would be as good. -/
def envelopeId (number : Nat) : String :=
  "00000000-0000-4000-8000-" ++ Numeral.hex 12 number

/-- Whether characters have the form of the number of an envelope: hexadecimal digits in five groups,
the third of which begins with the version and the fourth with the variant. -/
def isEnvelopeId (cs : List Char) : Bool :=
  let groups := Text.splitChars '-' cs
  decide (groups.map List.length = [8, 4, 4, 4, 12])
    && groups.all (·.all fun c => (Numeral.digitValue? 16 c).isSome && !c.isUpper)
    && cs[14]? == some '4'
    && (cs[19]?.map fun c => ['8', '9', 'a', 'b'].contains c) == some true

end Courier.Simulation
