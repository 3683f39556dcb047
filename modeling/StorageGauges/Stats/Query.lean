import StorageGauges.Decimal.Basic
import StorageGauges.Duration

/-!
# Querying a Node

One attempt to fetch a node's payload fails for one of three reasons, or for
others where the payload comes from elsewhere: a query does not look at them. It
makes attempts until one succeeds or until its budget is used up, and every
failure is worth another attempt. A query that gives up says how often it
tried and what the last failure was. It counts its attempts beside them, in a
word of 32 bits.

Outcomes are a sequence without end, so that a query is a function of what
its attempts would answer. A budget need not have an end either: what grants
the waits between attempts may grant all of them. So a query is followed from
one attempt to the next (`course`), and its result is given where there is
one for sure, when the number of retries is limited (`query`).

## Main definitions

* `Failure`: Why an attempt failed.
* `FetchError`: A failure with the node it is about.
* `GaveUp`, `QueryError`: A query that gave up.
* `RetryPolicy`: How long a query keeps trying.
* `course`: Where a query is after some turns.
* `query`: The result of a query.
-/

namespace StorageGauges

/-- Why an attempt failed. -/
inductive Failure
  | transport (detail : String)
  | status (code : Nat)
  | noEndpoint
deriving DecidableEq, Repr, Inhabited

/-- A failure with the node it is about. -/
structure FetchError where
  node : String
  failure : Failure
deriving DecidableEq, Repr, Inhabited

/-- A query that gave up, with what its counter showed then and the last failure. -/
structure GaveUp (ε : Type) where
  node : String
  count : UInt32
  last : ε
deriving DecidableEq, Repr, Inhabited

/-- A query of a node that gave up. -/
abbrev QueryError := GaveUp Failure

/-- A number in decimal digits. -/
def digitText (n : Nat) : String :=
  String.ofList (Decimal.ofNatText n)

/-- A failure in words. -/
def FetchError.message (e : FetchError) : String :=
  match e.failure with
  | .transport detail => "transport error querying node " ++ e.node ++ ": " ++ detail
  | .status code => "node " ++ e.node ++ " answered with HTTP " ++ digitText code
  | .noEndpoint => "node " ++ e.node ++ " has no resolved kubelet endpoint"

namespace GaveUp

/-- The attempts that were counted. -/
def attempts {ε : Type} (e : GaveUp ε) : Nat :=
  e.count.toNat

/-- The last failure. -/
def lastError (e : QueryError) : FetchError :=
  { node := e.node, failure := e.last }

/-- A query that gave up, in words. -/
def message (e : QueryError) : String :=
  "stats query for node " ++ e.node ++ " gave up after " ++ digitText e.attempts
    ++ " attempts: " ++ e.lastError.message

end GaveUp

/-- How long a query waits between attempts, and how long it keeps trying. -/
structure RetryPolicy where
  initialInterval : Duration
  maxInterval : Duration
  maxElapsed : Duration
deriving DecidableEq, Repr

/-- A query may take as long as one sample interval. -/
def RetryPolicy.forInterval (interval : Duration) : RetryPolicy :=
  { initialInterval := .ofMilliseconds 100
    maxInterval := .ofSeconds 1
    maxElapsed := interval }

/-- The bytes of a payload. -/
abbrev Payload := List UInt8

/-- What an attempt answers. -/
abbrev Answer := Except Failure Payload

/-- What a query answers: the payload with the number of attempts it took, or
    an error. -/
structure Fetched where
  payload : Payload
  attempts : Nat
deriving DecidableEq, Repr

section Attempts

variable {ε : Type}

/-- Where a query is: it goes on, or it is over. Either way it has made some
    attempts; while it goes on it counts them. -/
inductive Course (ε : Type)
  | trying (made : Nat) (count : UInt32)
  | over (made : Nat) (result : Except (GaveUp ε) Payload)

/-- A query that goes on makes an attempt. If it fails, the query goes on as
    long as another wait is granted after so many failures. -/
def Course.next (node : String) (grants : Nat → Bool) (answers : Nat → Except ε Payload) :
    Course ε → Course ε
  | .trying made count =>
    match answers made with
    | .ok payload => .over (made + 1) (.ok payload)
    | .error failure =>
      if grants (made + 1) then .trying (made + 1) (count + 1)
      else .over (made + 1) (.error { node, count := count + 1, last := failure })
  | .over made result => .over made result

/-- Where a query is after some turns. -/
def course (node : String) (grants : Nat → Bool) (answers : Nat → Except ε Payload) :
    Nat → Course ε
  | 0 => .trying 0 0
  | n + 1 => (course node grants answers n).next node grants answers

/-- The result of a query that has made `made` attempts, which it has counted
    as `count`, and may make `left + 1` more. -/
def queryFrom (node : String) (answers : Nat → Except ε Payload) (made : Nat)
    (count : UInt32) : Nat → Except (GaveUp ε) Fetched
  | 0 =>
    match answers made with
    | .ok payload => .ok { payload, attempts := made + 1 }
    | .error failure => .error { node, count := count + 1, last := failure }
  | left + 1 =>
    match answers made with
    | .ok payload => .ok { payload, attempts := made + 1 }
    | .error _ => queryFrom node answers (made + 1) (count + 1) left

/-- The result of a query that gives up at its failure number `retries + 1`. -/
def query (node : String) (answers : Nat → Except ε Payload) (retries : Nat) :
    Except (GaveUp ε) Fetched :=
  queryFrom node answers 0 0 retries

end Attempts

end StorageGauges
