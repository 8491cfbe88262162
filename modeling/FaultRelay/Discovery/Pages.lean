import FaultRelay.Discovery.Filter

/-!
# Listings that come in pages

A server may list its queues page by page.  Every page tells the key of the page after
it, if there is one.  Pages are asked for in that order, until a page has no successor,
until one cannot be got, or until as many names were read as are wanted; a page that is
not needed is not asked for.
-/

namespace FaultRelay

/-- One page: its names and the key of the page after it. -/
structure Page (κ : Type) where
  names : List String
  next : Option κ
  deriving DecidableEq, Repr

/-- Getting the page with a key from a server. -/
abbrev Fetch (κ σ : Type) := κ → σ → Except DiscoveryError (Page κ) × σ

/-- How reading pages ended. -/
inductive PagesEnd (κ : Type) where
  /-- The last page that was read has no successor. -/
  | complete
  | failed (e : DiscoveryError)
  /-- There is a further page that was not asked for. -/
  | cut (key : κ)
  deriving DecidableEq, Repr

/-- The pages that were read, with their keys. -/
structure Pages (κ σ : Type) where
  read : List (κ × Page κ)
  ending : PagesEnd κ
  /-- The server, as the requests left it. -/
  server : σ

namespace Pages

variable {κ σ : Type}

def names (p : Pages κ σ) : List String :=
  p.read.flatMap fun (_, page) => page.names

/-- The names, and after them the failure that ended them. -/
def listing (p : Pages κ σ) : Listing :=
  p.names.map .ok ++
    match p.ending with
    | .failed e => [.error e]
    | .complete | .cut _ => []

/--
Reads at most a number of pages, from a key on.  If a number of names is wanted, no page
is asked for once there are as many.
-/
def readFrom (fetch : Fetch κ σ) : (most : Nat) → (wanted : Option Nat) → κ → σ → Pages κ σ
  | 0, _, key, server => ⟨[], .cut key, server⟩
  | _ + 1, some 0, key, server => ⟨[], .cut key, server⟩
  | most + 1, wanted, key, server =>
      match fetch key server with
      | (.error e, server) => ⟨[], .failed e, server⟩
      | (.ok page, server) =>
          match page.next with
          | none => ⟨[(key, page)], .complete, server⟩
          | some next =>
              let rest := readFrom fetch most (wanted.map (· - page.names.length)) next server
              { rest with read := (key, page) :: rest.read }

/-- The first names, where only those were wanted. -/
def first (count : Nat) (p : Pages κ σ) : Listing :=
  p.listing.take count

end Pages
end FaultRelay
