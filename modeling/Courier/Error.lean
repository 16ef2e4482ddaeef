/-!
# Errors

What can go wrong between an application and a broker, and what a handler reports about a delivery.
Errors are causes; `message` is their wording.
-/

namespace Courier

universe u v

instance instDecidableEqExcept {ε : Type u} {α : Type v} [DecidableEq ε] [DecidableEq α] :
    DecidableEq (Except ε α)
  | .ok a, .ok b => if h : a = b then isTrue (h ▸ rfl) else isFalse fun e => h (Except.ok.inj e)
  | .error a, .error b =>
    if h : a = b then isTrue (h ▸ rfl) else isFalse fun e => h (Except.error.inj e)
  | .ok _, .error _ => isFalse nofun
  | .error _, .ok _ => isFalse nofun

/-! ## §1 Broker errors -/

/-- A failure of the connection, of publishing or of consuming. -/
inductive BrokerError where
  /-- A connection could not be established, or not be closed. -/
  | connecting (reason : String)
  | notConnected
  /-- An established connection failed. -/
  | connectionLost (reason : String)
  /-- A channel could not be opened or closed. -/
  | channel (reason : String)
  | publishing (reason : String)
  | consuming (reason : String)
  | acknowledging
  | rejecting
  | requeuing
  /-- The number of deliveries in flight could not be limited. -/
  | limiting (reason : String)
  | declaring (reason : String)
  | encoding (reason : String)
  | decoding (reason : String)
  | settings (reason : String)
  | closed
  /-- The transport has no such operation. -/
  | unsupported (operation : String)
deriving DecidableEq, Repr

def BrokerError.message : BrokerError → String
  | .connecting reason => "failure to connect `" ++ reason ++ "`"
  | .notConnected => "not connected"
  | .connectionLost reason => "connection lost `" ++ reason ++ "`"
  | .channel reason => "failure to create a channel `" ++ reason ++ "`"
  | .publishing reason => "failure to publish `" ++ reason ++ "`"
  | .consuming reason => "failure to consume message `" ++ reason ++ "`"
  | .acknowledging => "failure to ack message"
  | .rejecting => "failure to nack message"
  | .requeuing => "failure to requeuing message"
  | .limiting reason => "failure to configure qos `" ++ reason ++ "`"
  | .declaring reason => "failure to declare a queue `" ++ reason ++ "`"
  | .encoding reason => "failure to encode payload `" ++ reason ++ "`"
  | .decoding reason => "failure to decode payload `" ++ reason ++ "`"
  | .settings reason => "invalid configuration `" ++ reason ++ "`"
  | .closed => "closed"
  | .unsupported operation => "unsupported operation `" ++ operation ++ "`"

/-! ## §2 Handler errors -/

/-- Why a handler failed: for a reason of its own, for a broker error, or for the error of another
handler with its own classification. -/
inductive Cause where
  | text (reason : String)
  | broker (error : BrokerError)
  | handler (retryable : Bool) (cause : Cause)
deriving DecidableEq, Repr

/-- What a handler reports about a delivery that it did not process: the cause, and whether trying
again may help. -/
structure HandlerError where
  retryable : Bool
  cause : Cause
deriving DecidableEq, Repr

def handlerFailure : String := "handler failure: "

def Cause.message : Cause → String
  | .text reason => reason
  | .broker error => error.message
  | .handler _ cause => handlerFailure ++ cause.message

/-- The wordings of a cause and of the causes behind it, the nearest first. -/
def Cause.chain : Cause → List String
  | .text reason => [reason]
  | .broker error => [error.message]
  | .handler retryable cause => (Cause.handler retryable cause).message :: cause.chain

namespace HandlerError

def retry (cause : Cause) : HandlerError := ⟨true, cause⟩

def terminal (cause : Cause) : HandlerError := ⟨false, cause⟩

def message (e : HandlerError) : String := handlerFailure ++ e.cause.message

def chain (e : HandlerError) : List String := e.cause.chain

/-- An error of another handler that has this error as its cause. -/
def wrap (e : HandlerError) (retryable : Bool) : HandlerError :=
  ⟨retryable, .handler e.retryable e.cause⟩

end HandlerError

end Courier
