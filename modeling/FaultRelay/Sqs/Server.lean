import FaultRelay.Message
import FaultRelay.Failure

/-!
# What an SQS server is asked

A request has an answer of its own type.  A server answers a request or refuses it, and
may change by it; nothing more is known of a server.  An `Account` is a server as the
relay sees it: the addresses of queues that it was told, and the requests so far.
-/

namespace FaultRelay
namespace Sqs

inductive Request where
  /-- The queues whose names start in some way, from a token on. -/
  | listQueues (start token : Option String) (most : Nat)
  | queueAddress (queue : String)
  | createQueue (queue : String)
  | sendMessage (address text : String) (attributes : Headers)
  | receiveMessages (address : String) (most waitSeconds : Int)
  | deleteMessage (address receipt : String)
  /-- Lets others receive a message again after some seconds. -/
  | releaseMessage (address receipt : String) (seconds : Nat)
  | countMessages (address : String)
  deriving DecidableEq

/-- A message as a server hands it out; one without a receipt cannot be settled. -/
structure Parcel where
  receipt : Option String
  nativeId : String
  text : String
  attributes : Headers
  deriving DecidableEq

/-- The addresses of some queues, and the token for those after them. -/
structure Listed where
  addresses : List String
  next : Option String
  deriving DecidableEq, Repr

/-- The type of the answer to a request. -/
@[reducible] def Request.Answer : Request → Type
  | .listQueues .. => Listed
  | .queueAddress _ | .createQueue _ => Option String
  | .receiveMessages .. => List Parcel
  | .countMessages _ => Option String
  | .sendMessage .. | .deleteMessage .. | .releaseMessage .. => Unit

/-- Why a request has no answer. -/
inductive Refusal where
  | queueMissing
  | failed (reason : String)
  deriving DecidableEq, Repr

/-- What is said of a refusal. -/
def Refusal.text : Refusal → String
  | queueMissing => "service error"
  | failed reason => reason

/-- A server: its answers, and what becomes of it. -/
abbrev Server (σ : Type) := (r : Request) → σ → Except Refusal r.Answer × σ

/-- A server that no request reaches. -/
def Server.unreachable (reason : String) (σ : Type) : Server σ :=
  fun _ state => (.error (.failed reason), state)

/-- A server as the relay sees it. -/
structure Account (σ : Type) where
  state : σ
  /-- The addresses of queues, by name. -/
  addresses : Std.ExtTreeMap String String := ∅
  /-- The requests so far. -/
  asked : List Request := []

namespace Account

variable {σ : Type}

def ask (server : Server σ) (r : Request) (a : Account σ) : Except Refusal r.Answer × Account σ :=
  let (answer, state) := server r a.state
  (answer, { a with state, asked := a.asked ++ [r] })

/-- Keeps the address of a queue. -/
def learn (a : Account σ) (queue address : String) : Account σ :=
  { a with addresses := a.addresses.insert queue address }

end Account
end Sqs
end FaultRelay
