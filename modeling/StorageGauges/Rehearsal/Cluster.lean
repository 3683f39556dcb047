import StorageGauges.Cluster.Listing
import StorageGauges.Cluster.Node
import StorageGauges.Cluster.Pod
import StorageGauges.Decimal.Reader

/-!
# A Cluster to Rehearse With

A cluster that is held in memory. It answers the requests of an exporter from
what it has been given, keeps account of them, and can be told to fail some of
them or to take its time.

A request is answered from what the cluster holds when its time is over, not
from what it held when the request came.

## Main definitions

* `Rehearsal.Call`: A request.
* `Rehearsal.Cluster`: What the cluster holds.
* `Rehearsal.Cluster.called`: A request comes.
* `Rehearsal.Cluster.answer`: A request is answered or fails.
* `Rehearsal.Cluster.page`: A page of pods.
-/

namespace StorageGauges

namespace Rehearsal

/-- A request. -/
inductive Call
  | nodes
  | node (name : String)
  | pods (page : PageRequest)
  | namespaces (selector : String)
deriving DecidableEq, Repr

/-- What the cluster holds, how many of the next requests are spared and how
    many fail after those, how long a request takes, and which have come. -/
structure Cluster where
  nodes : List Node
  pods : List Pod
  namespaces : List String
  spared : Nat
  doomed : Nat
  delay : Nat
  calls : List Call
deriving Repr

namespace Cluster

/-- A cluster that holds nothing and answers at once. -/
def empty : Cluster :=
  { nodes := [], pods := [], namespaces := [], spared := 0, doomed := 0, delay := 0, calls := [] }

instance : Inhabited Cluster := ⟨empty⟩

/-- A request comes. -/
def called (c : Cluster) (call : Call) : Cluster :=
  { c with calls := c.calls ++ [call] }

/-- What is said when a request fails. -/
def failure : ListError :=
  { message := "injected listing failure" }

/-- A request is answered or fails. -/
def answer {α : Type} (c : Cluster) (read : Cluster → Except ListError α) :
    Except ListError α × Cluster :=
  if 0 < c.spared then (read c, { c with spared := c.spared - 1 })
  else if 0 < c.doomed then (.error failure, { c with doomed := c.doomed - 1 })
  else (read c, c)

/-- All nodes. -/
def allNodes (c : Cluster) : Except ListError (List Node) :=
  .ok c.nodes

/-- All namespaces, whatever the selector. -/
def allNamespaces (c : Cluster) : Except ListError (List String) :=
  .ok c.namespaces

/-- The node of some name. -/
def node (name : String) (c : Cluster) : Except ListError Node :=
  match c.nodes.find? fun n => n.name = name with
  | some n => .ok n
  | none => .error { message := "node " ++ name ++ " not found" }

/-- The token of the page that comes after so many pods. -/
def token (before : Nat) : String :=
  String.ofList (Decimal.ofNatText before)

/-- How many pods come before the page of a token. -/
def position (token : Option String) : Nat :=
  match token with
  | some t => Decimal.ofDigits (Decimal.takeDigits t.toList).1
  | none => 0

/-- A page of pods. There is a next one when pods are left. -/
def page (request : PageRequest) (c : Cluster) : Except ListError (Page Pod) :=
  let rest := c.pods.drop (position request.token)
  match request.limit with
  | some limit =>
    let next := if limit < rest.length then some (token (position request.token + limit)) else none
    .ok { items := rest.take limit, next }
  | none => .ok { items := rest, next := none }

end Cluster

end Rehearsal

end StorageGauges
