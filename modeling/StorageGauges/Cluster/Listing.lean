/-!
# Listings in Pages

A listing of all pods can be too long for one answer. It is asked for in
pages, each with a token for the next one, until a page has none. A walk
collects the names; what it has is of use only when it has come to the end.

## Main definitions

* `ListError`: Why a listing failed.
* `PageRequest`: A page that is asked for.
* `Page`: A page.
* `Walk`: A listing that is being collected.
* `Walk.request`: The next page to ask for.
* `Walk.turn`: A page has come.
-/

namespace StorageGauges

/-- Why a listing failed. -/
structure ListError where
  message : String
deriving DecidableEq, Repr, Inhabited

/-- A page that is asked for: at most so many items, from a token on. -/
structure PageRequest where
  limit : Option Nat
  token : Option String
deriving DecidableEq, Repr, Inhabited

/-- A page, and the token of the next one unless it is the last. -/
structure Page (α : Type) where
  items : List α
  next : Option String
deriving DecidableEq, Repr, Inhabited

/-- A listing that is being collected. -/
structure Walk where
  names : List String
  token : Option String
deriving DecidableEq, Repr, Inhabited

namespace Walk

/-- Nothing has been collected. -/
def start : Walk :=
  { names := [], token := none }

/-- The next page to ask for. A page has at least one item. -/
def request (batch : Nat) (w : Walk) : PageRequest :=
  { limit := some (max batch 1), token := w.token }

/-- What comes after a page. -/
inductive Turn
  | next (w : Walk)
  | finished (names : List String)
deriving DecidableEq, Repr

/-- A page has come. -/
def turn (w : Walk) (page : Page String) : Turn :=
  let names := w.names ++ page.items
  match page.next with
  | some token => .next { names, token := some token }
  | none => .finished names

end Walk

end StorageGauges
