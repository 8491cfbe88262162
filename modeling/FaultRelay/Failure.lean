/-!
# What can go wrong

One type of error for each part of the relay and one that joins them.  A `detail` is
what some other party said about the cause; it is written after a colon when there is
one.
-/

namespace FaultRelay

/-- A message cannot be converted. -/
inductive ConversionError where
  | invalidFormat (reason : String)
  | missingHeader (name : String)
  deriving DecidableEq, Repr

/-- A broker cannot do what it was asked for. -/
inductive TransportError where
  | connection (reason : String)
  | dispatch (destination reason : String)
  | receive (reason : String)
  | queueNotFound (queue : String)
  | setup (reason : String)
  | unsupported (broker : String)
  deriving DecidableEq, Repr

/-- Queues cannot be listed. -/
inductive DiscoveryError where
  | request (reason : String)
  | response (reason : String)
  | file (path : String) (detail : Option String)
  | config (reason : String)
  deriving DecidableEq, Repr

/-- Settings cannot be used. -/
inductive SettingsError where
  | load (detail : Option String)
  | missing (name : String)
  | invalid (name : String) (reason : Option String)
  deriving DecidableEq, Repr

inductive RelayError where
  | conversion (e : ConversionError)
  | transport (e : TransportError)
  | discovery (e : DiscoveryError)
  | provisioning (queue : String)
  | settings (e : SettingsError)
  | encoding (detail : Option String)
  deriving DecidableEq, Repr

/-- A text and, after a colon, what is known of the cause. -/
def withDetail (text : String) : Option String → String
  | some detail => text ++ ": " ++ detail
  | none => text

/-- The text of an error. -/
def ConversionError.message : ConversionError → String
  | .invalidFormat reason => "Invalid message format: " ++ reason
  | .missingHeader name => "Missing required header '" ++ name ++ "'"

/-- The text of an error. -/
def TransportError.message : TransportError → String
  | .connection reason => "Connection failed: " ++ reason
  | .dispatch destination reason => "Dispatch to '" ++ destination ++ "' failed: " ++ reason
  | .receive reason => "Receive failed: " ++ reason
  | .queueNotFound queue => "Queue '" ++ queue ++ "' does not exist"
  | .setup reason => "Queue setup failed: " ++ reason
  | .unsupported broker => "Broker '" ++ broker ++ "' is not compiled into this build"

/-- The text of an error. -/
def DiscoveryError.message : DiscoveryError → String
  | .request reason => "Queue listing request failed: " ++ reason
  | .response reason => "Unexpected queue listing response: " ++ reason
  | .file path detail => withDetail ("Failed to read queue file '" ++ path ++ "'") detail
  | .config reason => "Queue discovery is not configured: " ++ reason

/-- The text of an error. -/
def SettingsError.message : SettingsError → String
  | .load detail => withDetail "Failed to load configuration" detail
  | .missing name => "Missing required setting '" ++ name ++ "'"
  | .invalid name reason => withDetail ("Invalid setting '" ++ name ++ "'") reason

/-- The text of an error. -/
def RelayError.message : RelayError → String
  | .conversion e => "Conversion failed: " ++ e.message
  | .transport e => "Transport error: " ++ e.message
  | .discovery e => "Queue discovery failed: " ++ e.message
  | .provisioning queue => "Provisioning of queue '" ++ queue ++ "' failed"
  | .settings e => "Configuration error: " ++ e.message
  | .encoding detail => withDetail "Failed to encode control message" detail

/-- A message that cannot be converted now cannot be converted later either. -/
def RelayError.isConversion : RelayError → Bool
  | .conversion _ => true
  | _ => false

end FaultRelay
