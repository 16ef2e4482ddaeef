import Courier.Duration
import Courier.Settings.Value

/-!
# Settings of the brokers

Where an AMQP broker is and who connects to it, and where a Kafka cluster is and how its clients are
set up. Fields that no variable sets keep their defaults.
-/

namespace Courier.Settings

/-! ## §1 AMQP -/

/-- How to connect to an AMQP broker. -/
structure Amqp where
  host : String
  port : Nat
  user : String
  password : String
  vhost : String
  connectionName : String
deriving DecidableEq, Repr

namespace Amqp

/-- A broker on this machine, as its guest. -/
def standard : Amqp where
  host := "localhost"
  port := 5672
  user := "guest"
  password := "guest"
  vhost := ""
  connectionName := "brokers"

def ofVariables (environment : List (String × String)) : Except BrokerError Amqp :=
  let values := load "amqp" [] environment
  match unsignedField values "port" 16 standard.port with
  | .error e => .error e.toBrokerError
  | .ok port => .ok {
      host := textField values "host" standard.host
      port := port
      user := textField values "user" standard.user
      password := textField values "password" standard.password
      vhost := textField values "vhost" standard.vhost
      connectionName := textField values "connection_name" standard.connectionName }

def uri (s : Amqp) : String :=
  "amqp://" ++ s.user ++ ":" ++ s.password ++ "@" ++ s.host ++ ":" ++ Numeral.ofNat s.port ++ "/"
    ++ s.vhost

end Amqp

/-! ## §2 Kafka -/

/-- How to connect to a Kafka cluster. -/
structure Kafka where
  brokers : List String
  groupId : String
  clientId : String
  sessionTimeoutMs : Nat
  messageTimeoutMs : Nat
deriving DecidableEq, Repr

namespace Kafka

/-- One broker on this machine. -/
def standard : Kafka where
  brokers := ["localhost:9092"]
  groupId := "brokers"
  clientId := "brokers"
  sessionTimeoutMs := 30000
  messageTimeoutMs := 30000

def ofVariables (environment : List (String × String)) : Except BrokerError Kafka :=
  let values := load "kafka" ["brokers"] environment
  let fields : Except Refusal Kafka := do
    let brokers ← listField values "brokers" standard.brokers
    let session ← unsignedField values "session_timeout_ms" 64 standard.sessionTimeoutMs
    let message ← unsignedField values "message_timeout_ms" 64 standard.messageTimeoutMs
    return {
      brokers := brokers
      groupId := textField values "group_id" standard.groupId
      clientId := textField values "client_id" standard.clientId
      sessionTimeoutMs := session
      messageTimeoutMs := message }
  fields.mapError Refusal.toBrokerError

def bootstrapServers (s : Kafka) : String :=
  Text.joinWith "," s.brokers

def messageTimeout (s : Kafka) : Duration :=
  Duration.ofMillis s.messageTimeoutMs

end Kafka

end Courier.Settings
