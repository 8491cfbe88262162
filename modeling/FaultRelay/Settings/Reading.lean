import FaultRelay.Settings.Basic
import FaultRelay.Settings.Tree

/-!
# Settings from written values

A written value is taken for what the setting needs: a number for a text, a text for a
number, a truth value for either.  Values of no known name are left alone.
-/

namespace FaultRelay
namespace Settings
namespace Tree

/-- A value as text. -/
def text? : Tree → Option String
  | .text s => some s
  | .bool b => some (if b then "true" else "false")
  | .int n => some (toString n)
  | .real x => some (Decimal.floatText x)
  | _ => none

/-- A value as text, or the absence of one. -/
def optionalText? : Tree → Option (Option String)
  | .nil => some none
  | v => v.text?.map some

/-- The number of a truth value as it may be written. -/
def spokenTruth? (s : String) : Option Int :=
  match s.toLower with
  | "true" | "on" | "yes" => some 1
  | "false" | "off" | "no" => some 0
  | _ => none

/-- A whole number that can be read within a wide range, if it lies within a narrow one. -/
def whole? (narrow wide : Int × Int) (v : Tree) : Option Int := do
  let n ← match v with
    | .int n => some n
    | .bool b => some (if b then 1 else 0)
    | .real x => some (Decimal.roundToInt wide.1 wide.2 x)
    | .text s => (spokenTruth? s).or (Decimal.int? wide.1 wide.2 s)
    | _ => none
  if narrow.1 ≤ n ∧ n ≤ narrow.2 then some n else none

/-- A whole number from zero up to a bound. -/
def natural? (high : Nat) (v : Tree) : Option Nat :=
  (whole? (0, Int.ofNat high) (0, Int.ofNat (Decimal.greatest 64)) v).map Int.toNat

/-- A whole number with a sign, within 32 bits. -/
def int32? (v : Tree) : Option Int :=
  whole? (Decimal.signedRange 32) (Decimal.signedRange 64) v

/-- A floating point number. -/
def float? : Tree → Option Float
  | .real x => some x
  | .int n => some (Float.ofInt n)
  | .bool b => some (if b then 1 else 0)
  | .text s =>
      match spokenTruth? s with
      | some n => some (Float.ofInt n)
      | none => Decimal.float? s
  | _ => none

/-- The kind of a broker, as a text or as the one name of a table. -/
def brokerType? : Tree → Option BrokerType
  | .text s => named? s
  | .table [(s, _)] => named? s
  | _ => none
where
  /-- The kind of a broker by its name, which has no case. -/
  named? (s : String) : Option BrokerType :=
    match s.toLower with
    | "channel" => some .channel
    | "amqp" => some .amqp
    | "sqs" => some .sqs
    | _ => none

/-- The fields of a table by name, or of a list by place. -/
def field? (names : List String) (v : Tree) : Option (String → Option Tree) :=
  match v with
  | .table entries => some (List.lookup · entries)
  | .list items => some (List.lookup · (names.zip items))
  | _ => none

/-- A field read in some way, or its default when it is not written. -/
def get? (field : String → Option Tree) (name : String) (read : Tree → Option α) (default : α) :
    Option α :=
  match field name with
  | some v => read v
  | none => some default

/-- How to reach a broker over AMQP. -/
def amqp? (v : Tree) : Option AmqpSettings := do
  let f ← v.field? ["url", "management_url", "username", "password", "prefetch_count"]
  let d : AmqpSettings := {}
  return {
    url := ← get? f "url" text? d.url
    managementUrl := ← get? f "management_url" text? d.managementUrl
    username := ← get? f "username" optionalText? d.username
    password := ← get? f "password" optionalText? d.password
    prefetchCount := ← get? f "prefetch_count" (natural? 65535) d.prefetchCount }

/-- How to reach queues of SQS. -/
def sqs? (v : Tree) : Option SqsSettings := do
  let f ← v.field? ["region", "endpoint_url", "queue_name_prefix", "wait_time_secs", "max_messages"]
  let d : SqsSettings := {}
  return {
    region := ← get? f "region" optionalText? d.region
    endpointUrl := ← get? f "endpoint_url" optionalText? d.endpointUrl
    queueNameStart := ← get? f "queue_name_prefix" optionalText? d.queueNameStart
    waitSeconds := ← get? f "wait_time_secs" int32? d.waitSeconds
    maxMessages := ← get? f "max_messages" int32? d.maxMessages }

def broker? (v : Tree) : Option BrokerSettings := do
  let f ← v.field? ["type", "amqp", "sqs", "queues_file"]
  return {
    type := ← get? f "type" brokerType? .channel
    amqp := ← get? f "amqp" amqp? {}
    sqs := ← get? f "sqs" sqs? {}
    queuesFile := ← get? f "queues_file" optionalText? none }

def settings? (entries : List (String × Tree)) : Option Settings := do
  let f := (List.lookup · entries)
  let d : Settings := {}
  let word := natural? (Decimal.greatest 64)
  return {
    errorQueue := ← get? f "error_queue" text? d.errorQueue
    returnQueue := ← get? f "return_queue" text? d.returnQueue
    controlQueue := ← get? f "control_queue" text? d.controlQueue
    scanInterval := ← get? f "queue_scan_interval_secs" float? d.scanInterval
    heartbeatInterval := ← get? f "heartbeat_interval_secs" float? d.heartbeatInterval
    checksInterval := ← get? f "custom_checks_interval_secs" float? d.checksInterval
    maxRetries := ← get? f "max_retries" (natural? (Decimal.greatest 32)) d.maxRetries
    retryBaseDelay := ← get? f "retry_base_delay_ms" word d.retryBaseDelay
    retryMaxDelay := ← get? f "retry_max_delay_ms" word d.retryMaxDelay
    queueFilter := ← get? f "queue_filter" optionalText? d.queueFilter
    broker := ← get? f "broker" broker? d.broker }

end Tree

/-- The files of a directory, by name. -/
abbrev Files := List (String × String)

/-- The name of the file that is read when it is there. -/
def defaultFile : String := "fault-bridge.yaml"

/-- The variable that names a further file. -/
def fileVariable : String := "FAULT_BRIDGE_CONFIG"

/-- The endings that the name of a file may be given without. -/
def fileEndings : List String := ["", ".yaml", ".yml"]

/-- The name of a file without the mark of the current directory. -/
def bareName (name : String) : String :=
  match name.toList with
  | '.' :: '/' :: rest => String.ofList rest
  | _ => name

/-- The names under which a file of settings is looked for; one without a name is not. -/
def fileNames (name : String) : List String :=
  if (bareName name).isEmpty then [] else fileEndings.map (bareName name ++ ·)

/-- The text of a file; the ending of its name may be left out. -/
def findFile? (files : Files) (name : String) : Option String :=
  (fileNames name).findSome? fun n => files.lookup n

/-- The files that settings may stand in. -/
def sourceNames (environment : List (String × String)) (path : Option String) : List String :=
  defaultFile :: path.toList ++ (environment.lookup fileVariable).toList

/-- The source in a file that has to be there. -/
def fileSource? (files : Files) (name : String) : Option (List (String × Tree)) := do
  Tree.ofText? (← findFile? files name)

/-- The sources, the later ones laid over the earlier ones. -/
def sources? (files : Files) (environment : List (String × String)) (path : Option String) :
    Option (List (List (String × Tree))) := do
  let first ← match findFile? files defaultFile with
    | some text => Tree.ofText? text
    | none => some []
  let named ← (sourceNames environment path).tail.mapM (fileSource? files)
  return first :: named ++ [Tree.ofVariables environment]

/-- The settings that files and variables give; they keep all rules. -/
def load (files : Files) (environment : List (String × String)) (path : Option String) :
    Except SettingsError Settings :=
  match (sources? files environment path).bind fun sources =>
      Tree.settings? (sources.foldl Tree.overlay []) with
  | some s => do
      s.validate
      return s
  | none => .error (.load none)

end Settings
end FaultRelay
