import FaultRelay.Cli.Program
import FaultRelay.Cli.Variables
import Std.Time.DateTime

/-!
# The program

Gathers what the program depends on, which is files, variables, the time and chance, and
hands it to `Cli.Course.ofArguments`.  Nothing is decided here.
-/

namespace FaultRelay
namespace Cli

/-- A file with its text, if there is one and it is text. -/
def readFile? (name : String) : IO (Option (String × String)) := do
  try
    return some (name, ← IO.FS.readFile name)
  catch _ =>
    return none

/-- The variables of this process. -/
def readVariables : IO (List (String × String)) := do
  try
    return variablesOf (← IO.FS.readBinFile "/proc/self/environ").toList
  catch _ =>
    return []

def readClock : IO Time.Instant := do
  let now ← Std.Time.Timestamp.now
  let nanos := now.toNanosecondsSinceUnixEpoch.toInt
  return ⟨nanos / 1000000000, (nanos % 1000000000).toNat⟩

/-- What the program depends on. -/
def readSurroundings (arguments : List String) : IO Surroundings := do
  let environment ← readVariables
  let files ← (settingsFiles environment arguments).filterMapM readFile?
  let queues ← (queuesFile? files environment arguments).toList.filterMapM readFile?
  let seed := Text.Hex.encode (← IO.getRandomBytes 16).toList
  return {
    files := files ++ queues
    environment
    now := ← readClock
    messageId := fun n => Digest.nameId (seed ++ "/" ++ toString n) }

/-- Lets a world go on, second by second, until the relay has ended. -/
partial def follow (w : World Unit) : IO UInt32 := do
  IO.sleep 1000
  let second := 1000000000
  match Course.ofWorld (Schedule.runUntil hasEnded (w.clock + second) Schedule.maxSteps w) with
  | .ended code _ => return code.toUInt32
  | .running w => follow w

end Cli
end FaultRelay

/-- Carries out what the arguments ask for. -/
def main (arguments : List String) : IO UInt32 := do
  let surroundings ← FaultRelay.Cli.readSurroundings arguments
  match FaultRelay.Cli.Course.ofArguments surroundings arguments with
  | .ended code lines =>
      lines.forM IO.println
      return code.toUInt32
  | .running w => FaultRelay.Cli.follow w
