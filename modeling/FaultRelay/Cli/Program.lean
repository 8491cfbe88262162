import FaultRelay.Broker.Choice
import FaultRelay.Cli.Usage
import FaultRelay.Service.World
import FaultRelay.Settings.Reading

/-!
# What the program does

The program reads its settings, chooses a broker and carries out a command.  Listing
queues, making them and checking them end at once.  Running ends when the relay ends;
until then it is a world that goes on by itself.
-/

namespace FaultRelay
namespace Cli

/-- Where the program runs. -/
structure Surroundings where
  files : Settings.Files
  environment : List (String × String)
  now : Time.Instant
  /-- The identities of control messages. -/
  messageId : Nat → String

/-- What running the program comes to. -/
inductive Course where
  | ended (code : Nat) (lines : List String)
  /-- The program runs until it is told to end. -/
  | running (w : World Unit)

/-- The program did what it was to do. -/
def Course.done (lines : List String) : Course := .ended 0 lines

def Course.failed : Course := .ended 1 []

/-- The program was not used as it should be. -/
def Course.misused : Course := .ended 2 []

/-- The file that names queues, if settings tell of one. -/
def Surroundings.queueFile? (k : Surroundings) (s : Settings) : Option QueueFile :=
  s.broker.queuesFile.map fun path =>
    ⟨path, k.files.lookup (Settings.bareName path)⟩

/-- The names in a listing that a pattern chooses. -/
def listQueues (listing : Listing) (pattern : String) : Course :=
  match QueueFilter.ofPattern? pattern with
  | none => .failed
  | some filter =>
      match filter.discover listing with
      | .ok found => .done found.toList
      | .error _ => .failed

/-- Checks that messages that come back can be received. -/
def checkHealth (s : Settings) (b : Broker Unit) : Course :=
  match Provision.healthCheck Broker.prepare s b with
  | (.ok (), _) => .done ["Health check passed"]
  | (.error _, _) => .failed

/-- Makes the queues of the relay. -/
def provision (s : Settings) (b : Broker Unit) : Course :=
  if (Provision.run Broker.prepare s b).succeeded then .done [] else .failed

/-- The world of a relay on a broker in memory. -/
def world (k : Surroundings) (file : Option QueueFile) (relay : Relay) (m : Memory) :
    World Unit where
  relay := relay
  station := { site := ⟨m, [], k.now⟩, rest := () }
  directory := {
    list := fun m state => ((Broker.listWith (σ := Unit) file (.memory m)).1, state)
    exists? := fun m _ queue => m.exists? queue }
  listings := ()
  machine := machineName k.environment
  messageId := k.messageId

/-- Whether the relay has ended. -/
def hasEnded (w : World Unit) : Bool :=
  (w.result? .relay).isSome

/-- A world in which nothing is left to be done now. -/
def Course.ofWorld (w : World Unit) : Course :=
  match w.result? .relay with
  | some (.ok ()) => .done []
  | some (.error _) => .failed
  | none => .running w

/-- Starts the relay and what reports about it. -/
def startAll (w : World Unit) (setup : Bool) : World Unit :=
  ((w.startReporter .heartbeat).startReporter .check).startRelay setup

/-- Runs the relay; only a broker in memory can be received from here. -/
def runRelay (k : Surroundings) (s : Settings) (setup : Bool) (b : Broker Unit) : Course :=
  match Relay.make s {}, b.memory? with
  | .ok relay, some m =>
      let w := startAll (world k (k.queueFile? s) relay m) setup
      Course.ofWorld (Schedule.runUntil hasEnded w.clock Schedule.maxSteps w)
  | _, _ => .failed

def carryOut (k : Surroundings) (s : Settings) (b : Broker Unit) : Command → Course
  | .run .setup => provision s b
  | .run .run => runRelay k s false b
  | .run .setupAndRun => runRelay k s true b
  | .listQueues filter => listQueues (b.listWith (k.queueFile? s)).1 filter
  | .checkHealth => checkHealth s b

/-- Carries out what was asked for, with the settings that are found. -/
def invoke (k : Surroundings) (i : Invocation) : Course :=
  match Settings.load k.files k.environment i.config with
  | .error _ => .failed
  | .ok s =>
      match Broker.ofSettings Network.unreachable () s.broker with
      | .error _ => .failed
      | .ok b => carryOut k s b i.command

/-- What the program does with its arguments. -/
def Course.ofArguments (k : Surroundings) (arguments : List String) : Course :=
  match Meaning.ofArguments arguments with
  | .invoke i => invoke k i
  | .display n => .done n.lines
  | .misuse => .misused

/-- The files that the program reads its settings from. -/
def settingsFiles (environment : List (String × String)) (arguments : List String) : List String :=
  match Meaning.ofArguments arguments with
  | .invoke i => (Settings.sourceNames environment i.config).flatMap Settings.fileNames
  | .display _ | .misuse => []

/-- The file of queues that settings name. -/
def queuesFile? (files : Settings.Files) (environment : List (String × String))
    (arguments : List String) : Option String :=
  match Meaning.ofArguments arguments with
  | .invoke i =>
      match Settings.load files environment i.config with
      | .ok s => s.broker.queuesFile.map Settings.bareName
      | .error _ => none
  | .display _ | .misuse => none

end Cli
end FaultRelay
