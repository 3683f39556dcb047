import StorageGauges.NameMap
import StorageGauges.Stats.Query

/-!
# Stats to Rehearse With

What nodes answer when they are asked for their stats: first some failures,
each to one attempt, and then always the same. How an attempt ends is settled
when it begins; it then takes the time that the node takes.

## Main definitions

* `Rehearsal.Supply`: What a node answers.
* `Rehearsal.Source`: What all nodes answer, and how often they were asked.
* `Rehearsal.Source.fetch`: An attempt begins.
-/

namespace StorageGauges

namespace Rehearsal

/-- What a node answers, and how long it takes. A node without a payload is
    not found. -/
structure Supply where
  payload : Option Payload
  delay : Nat
  failures : List Failure
deriving DecidableEq, Repr

namespace Supply

/-- A node that nothing is known of. -/
def nothing : Supply :=
  { payload := none, delay := 0, failures := [] }

instance : Inhabited Supply := ⟨nothing⟩

/-- The status of a node that is not found. -/
def notFound : Nat := 404

/-- The answer to the next attempt. -/
def answer (s : Supply) : Answer :=
  match s.failures, s.payload with
  | failure :: _, _ => .error failure
  | [], some payload => .ok payload
  | [], none => .error (.status notFound)

end Supply

/-- What the nodes answer, and how often each was asked. -/
structure Source where
  supplies : NameMap Supply
  fetched : NameMap Nat
deriving DecidableEq, Repr, Inhabited

/-- An attempt: what it will answer and when. -/
structure Attempt where
  answer : Answer
  delay : Nat

namespace Source

/-- Nothing is known of any node. -/
def empty : Source :=
  { supplies := [], fetched := [] }

/-- What a node answers. -/
def supplyOf (s : Source) (node : String) : Supply :=
  (s.supplies.find? node).getD .nothing

/-- The attempt that begins now. -/
def attempt (s : Source) (node : String) : Attempt :=
  { answer := (s.supplyOf node).answer, delay := (s.supplyOf node).delay }

/-- Counts an attempt, and uses up the failure that it meets. -/
def fetch (s : Source) (node : String) : Source :=
  let supply := s.supplyOf node
  { supplies :=
      if s.supplies.contains node then
        s.supplies.insert node { supply with failures := supply.failures.drop 1 }
      else s.supplies
    fetched := s.fetched.insert node ((s.fetched.find? node).getD 0 + 1) }

/-- The longest that a node takes. -/
def longestDelay (s : Source) : Nat :=
  s.supplies.foldl (fun d e => max d e.2.delay) 0

/-- The failures that are left. -/
def failuresLeft (s : Source) : Nat :=
  s.supplies.foldl (fun n e => n + e.2.failures.length) 0

end Source

end Rehearsal

end StorageGauges
