import FaultRelay.Json.Value
import FaultRelay.Time.Instant

/-!
# Log events and the lines they are kept as

An event names the part of the program that reports, and carries a text and fields in
the order in which they were given.  Warnings and errors are kept as lines of the form
`[<source>]: <text> <field>=<value>...`.
-/

namespace FaultRelay

/-- How grave an event is. -/
inductive Level where
  | error
  | warning
  | information
  | debug
  | trace
  deriving DecidableEq, Repr

/-- The written name of a level. -/
def Level.name : Level → String
  | .error => "Error"
  | .warning => "Warning"
  | .information => "Information"
  | .debug => "Debug"
  | .trace => "Trace"

/-- Something that the program reports. -/
structure LogEvent where
  level : Level
  source : String
  text : String
  fields : List (String × String)
  deriving DecidableEq, Repr

namespace LogEvent

/-- Only warnings and errors are kept, and of these only those that say something. -/
def kept (e : LogEvent) : Bool :=
  (e.level == .error || e.level == .warning) && !(e.text.isEmpty && e.fields.isEmpty)

/-- The fields, each after a blank. -/
def fieldText (fields : List (String × String)) : String :=
  String.join (fields.map fun (name, value) => " " ++ name ++ "=" ++ value)

/-- The line that is kept of an event. -/
def line (e : LogEvent) : String :=
  "[" ++ e.source ++ "]: " ++ e.text ++ fieldText e.fields

end LogEvent

/-- A kept line. -/
structure LogEntry where
  message : String
  date : Time.Instant
  level : String
  deriving DecidableEq, Repr

namespace LogEntry

/-- The line of an event, kept at an instant. -/
def ofEvent (date : Time.Instant) (e : LogEvent) : LogEntry :=
  ⟨e.line, date, e.level.name⟩

/-- The entry as a JSON record. -/
def toJson (e : LogEntry) : Json.Value :=
  .record [("Message", .text e.message), ("Date", .text e.date.toDocument),
    ("Level", .text e.level)]

end LogEntry
end FaultRelay
