import FaultRelay.Cli.Arguments
import FaultRelay.Report.Heartbeat

/-!
# What is shown about the program

The version, and how to use the program and each of its commands.
-/

namespace FaultRelay
namespace Cli

def programName : String := "fault-bridge"

/-- The version of the program. -/
def versionLine : String :=
  programName ++ " " ++ Heartbeat.relayVersion

/-- What a part of the command line is for. -/
def Scope.about : Scope → String
  | program => "Bridges MassTransit error queues to ServiceControl and routes retries back"
  | run => "Provision the bridge's queues and/or run the bridge"
  | listQueues => "List broker queues matching a regular expression"
  | checkHealth => "Check that the broker is reachable and the bridge's queues exist"

/-- How a part of the command line is written. -/
def Scope.form : Scope → String
  | program => programName ++ " [OPTIONS] [COMMAND]"
  | run => programName ++ " run [OPTIONS]"
  | listQueues => programName ++ " queues-list [OPTIONS]"
  | checkHealth => programName ++ " health-check [OPTIONS]"

def commandLines : List String :=
  ["Commands:",
    "  run           " ++ Scope.about .run,
    "  queues-list   " ++ Scope.about .listQueues,
    "  health-check  " ++ Scope.about .checkHealth,
    "  help          Print this message or the help of the given subcommand(s)",
    ""]

/-- The options of a part of the command line, in brief. -/
def briefOptions : Scope → List String
  | .program =>
      ["  -c, --config <CONFIG>  Configuration file (YAML)",
        "  -h, --help             Print help",
        "  -V, --version          Print version"]
  | .run =>
      ["      --mode <MODE>      [default: setup-and-run] "
          ++ "[possible values: setup, run, setup-and-run]",
        "  -c, --config <CONFIG>  Configuration file (YAML)",
        "  -h, --help             Print help (see more with '--help')"]
  | .listQueues =>
      ["      --filter <FILTER>  [default: " ++ defaultFilter ++ "]",
        "  -c, --config <CONFIG>  Configuration file (YAML)",
        "  -h, --help             Print help"]
  | .checkHealth =>
      ["  -c, --config <CONFIG>  Configuration file (YAML)",
        "  -h, --help             Print help"]

/-- The options of running, at length. -/
def longRunOptions : List String :=
  ["      --mode <MODE>",
    "          [default: setup-and-run]",
    "",
    "          Possible values:",
    "          - setup:         Create the return and poison queues, then exit",
    "          - run:           Bridge without creating queues",
    "          - setup-and-run: Create the queues, then bridge",
    "",
    "  -c, --config <CONFIG>",
    "          Configuration file (YAML)",
    "",
    "  -h, --help",
    "          Print help (see a summary with '-h')"]

/-- How to use a part of the command line. -/
def usageLines (scope : Scope) (long : Bool) : List String :=
  [scope.about, "", "Usage: " ++ scope.form, ""]
    ++ (if scope = .program then commandLines else [])
    ++ "Options:" :: if scope = .run && long then longRunOptions else briefOptions scope

/-- The lines of a text that is shown. -/
def Notice.lines : Notice → List String
  | version => [versionLine]
  | usage scope long => usageLines scope long

end Cli
end FaultRelay
