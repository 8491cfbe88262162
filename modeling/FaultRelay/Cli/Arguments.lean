/-!
# Arguments of the command line

The program takes options and a command, and the command takes options of its own.  An
option is written with two dashes and its name, or with one dash and its letter; its
value follows it, or is joined to it.  An option may be given once to the program and
once to the command, and then the latter counts.
-/

namespace FaultRelay
namespace Cli

/-- What the program does with its queues when it runs. -/
inductive RunMode where
  | setup
  | run
  | setupAndRun
  deriving DecidableEq, Repr

/-- The mode with a written name. -/
def RunMode.ofName? : String → Option RunMode
  | "setup" => some setup
  | "run" => some run
  | "setup-and-run" => some setupAndRun
  | _ => none

/-- What the program is to do. -/
inductive Command where
  | run (mode : RunMode)
  | listQueues (filter : String)
  | checkHealth
  deriving DecidableEq, Repr

/-- The filter of a listing for which none is given. -/
def defaultFilter : String := ".*_error$"

/-- A command and the file of its settings. -/
structure Invocation where
  config : Option String
  command : Command
  deriving DecidableEq, Repr

/-- The part of the command line that is read. -/
inductive Scope where
  | program
  | run
  | listQueues
  | checkHealth
  deriving DecidableEq, Repr

/-- The command with a written name. -/
def Scope.ofName? : String → Option Scope
  | "run" => some run
  | "queues-list" => some listQueues
  | "health-check" => some checkHealth
  | _ => none

/-- A text that is shown instead of doing anything. -/
inductive Notice where
  | version
  /-- How to use a part of the command line, in brief or at length. -/
  | usage (scope : Scope) (long : Bool)
  deriving DecidableEq, Repr

inductive Meaning where
  | invoke (i : Invocation)
  | display (n : Notice)
  | misuse
  deriving DecidableEq, Repr

inductive ValuedOption where
  | config
  | mode
  | filter
  deriving DecidableEq, Repr

/-- The option with a name, in a part of the command line. -/
def ValuedOption.ofName? : Scope → String → Option ValuedOption
  | _, "config" => some config
  | .run, "mode" => some mode
  | .listQueues, "filter" => some filter
  | _, _ => none

inductive Argument where
  | option (o : ValuedOption) (joined : Option String)
  | notice (n : Notice)
  /-- What follows is no option. -/
  | divider
  | word (text : String)
  | unknown
  deriving DecidableEq, Repr

/-- What stands before an equals sign, and what after it if there is one. -/
def splitEquals (cs : List Char) : String × Option String :=
  let name := cs.takeWhile (· != '=')
  match cs.drop name.length with
  | _ :: value => (String.ofList name, some (String.ofList value))
  | [] => (String.ofList name, none)

/-- An argument with two dashes. -/
def Argument.ofLong (scope : Scope) (cs : List Char) : Argument :=
  match splitEquals cs with
  | ("help", none) => .notice (.usage scope true)
  | ("version", none) => if scope = .program then .notice .version else .unknown
  | (name, value) =>
      match ValuedOption.ofName? scope name with
      | some o => .option o value
      | none => .unknown

/-- An argument with one dash. -/
def Argument.ofShort (scope : Scope) : List Char → Argument
  | 'h' :: _ => .notice (.usage scope false)
  | 'V' :: _ => if scope = .program then .notice .version else .unknown
  | ['c'] => .option .config none
  | 'c' :: '=' :: value => .option .config (some (String.ofList value))
  | 'c' :: value => .option .config (some (String.ofList value))
  | _ => .unknown

/-- What an argument is in a part of the command line. -/
def Argument.ofText (scope : Scope) (text : String) : Argument :=
  match text.toList with
  | ['-', '-'] => .divider
  | '-' :: '-' :: cs => ofLong scope cs
  | '-' :: c :: cs => ofShort scope (c :: cs)
  | _ => .word text

/-- Whether an argument may be the value of the option before it. -/
def isValue (text : String) : Bool :=
  match text.toList with
  | '-' :: _ :: _ => false
  | _ => true

/-- What was read so far. -/
structure Progress where
  scope : Scope := .program
  /-- The file of settings that was given to the program. -/
  outer : Option String := none
  /-- The file of settings that was given in the part that is read. -/
  config : Option String := none
  mode : Option RunMode := none
  filter : Option String := none

namespace Progress

/-- Takes the value of an option; an option has one value at most. -/
def take? (p : Progress) (o : ValuedOption) (value : String) : Option Progress :=
  match o with
  | .config => if p.config.isSome then none else some { p with config := some value }
  | .filter => if p.filter.isSome then none else some { p with filter := some value }
  | .mode =>
      match RunMode.ofName? value, p.mode with
      | some mode, none => some { p with mode := some mode }
      | _, _ => none

/-- Goes on to the options of a command. -/
def enter? (p : Progress) (text : String) : Option Progress :=
  match p.scope, Scope.ofName? text with
  | .program, some scope => some { p with scope, outer := p.config, config := none }
  | _, _ => none

/-- What is to be done when there is no further argument. -/
def invocation (p : Progress) : Invocation where
  config := p.config.or p.outer
  command := match p.scope with
    | .program | .run => .run (p.mode.getD .setupAndRun)
    | .listQueues => .listQueues (p.filter.getD defaultFilter)
    | .checkHealth => .checkHealth

end Progress

/-- The part of the command line that help is asked for. -/
def helpFor : List String → Meaning
  | [] => .display (.usage .program true)
  | [name] =>
      match Scope.ofName? name with
      | some scope => .display (.usage scope true)
      | none => .misuse
  | _ => .misuse

/-- The meaning of the arguments that follow those that were read. -/
def read (p : Progress) : List String → Meaning
  | [] => .invoke p.invocation
  | text :: rest =>
      match Argument.ofText p.scope text with
      | .option o (some value) =>
          match p.take? o value with
          | some p => read p rest
          | none => .misuse
      | .option o none =>
          match rest with
          | value :: rest =>
              if isValue value then
                match p.take? o value with
                | some p => read p rest
                | none => .misuse
              else .misuse
          | [] => .misuse
      | .notice n => .display n
      | .divider => if rest.isEmpty then .invoke p.invocation else .misuse
      | .word text =>
          match p.enter? text with
          | some p => read p rest
          | none => if text = "help" && p.scope = .program then helpFor rest else .misuse
      | .unknown => .misuse

def Meaning.ofArguments (arguments : List String) : Meaning :=
  read {} arguments

end Cli
end FaultRelay
