import StorageGauges.Cluster.Listing
import StorageGauges.Cluster.Node
import StorageGauges.Cluster.Pod
import StorageGauges.Json.Reader
import StorageGauges.Json.Record
import StorageGauges.Text.Percent

/-!
# The API Server

The requests by which the cluster is listed, and what their responses hold.
Names of nodes stand in paths as they are: one with a question mark begins the
query, and one with a character that no path can have makes no request at all.

A list has metadata and items besides its kind and version, and one item of a
wrong shape makes the whole list unreadable.

## Main definitions

* `Api.Request`: A path with the pairs of its query.
* `Api.Response`: A status with a body.
* `Api.nodes`, `Api.node?`, `Api.pods`, `Api.namespaces`, `Api.proxy?`: The
  requests.
* `Api.nodesOf?`, `Api.nodeOf?`, `Api.podsOf?`, `Api.namespacesOf?`: What
  responses hold.
* `Api.statusCode?`: The code of a status.
* `Api.Refusal`: How a request was refused.
-/

namespace StorageGauges

namespace Api

/-- A request that reads: a path, and the pairs of its query in order. -/
structure Request where
  path : String
  query : List (String × String)
deriving DecidableEq, Repr, Inhabited

/-- A status with a body. -/
structure Response where
  status : Nat
  body : List UInt8
deriving DecidableEq, Repr, Inhabited

/-- Pairs in order. -/
def sorted (pairs : List (String × String)) : List (String × String) :=
  pairs.mergeSort fun a b => a.1 < b.1 || (a.1 = b.1 && a.2 ≤ b.2)

/-- A character that a path can have. Quotation marks and braces should be
    encoded but are let through. -/
def isPathChar (c : Char) : Bool :=
  let n := c.toNat
  n = 0x21 || n = 0x22 || (0x24 ≤ n && n ≤ 0x3B) || n = 0x3D || (0x40 ≤ n && n ≤ 0x5F)
    || (0x61 ≤ n && n ≤ 0x7E)

/-- A character that a query can have. -/
def isQueryChar (c : Char) : Bool :=
  let n := c.toNat
  n = 0x21 || (0x24 ≤ n && n ≤ 0x3B) || n = 0x3D || (0x3F ≤ n && n ≤ 0x7E)

/-- The longest text that is a path with a query. -/
def longestTarget : Nat := 65534

/-- The request for a text that is a path with a query, if it is one. What
    follows a number sign is left out. -/
def request? (target : String) : Option Request :=
  let s := target.toList
  let path := s.takeWhile fun c => c ≠ '?' && c ≠ '#'
  let rest := s.dropWhile fun c => c ≠ '?' && c ≠ '#'
  let query :=
    match rest with
    | '?' :: q => q.takeWhile (· ≠ '#')
    | _ => []
  let fits := decide ((Utf8.encode target).length ≤ longestTarget)
  if path.all isPathChar && query.all isQueryChar && fits then
    some { path := String.ofList path, query := sorted (Percent.pairs query) }
  else none

/-- All nodes. -/
def nodes : Request :=
  { path := "/api/v1/nodes", query := [] }

/-- A node. -/
def node? (name : String) : Option Request :=
  request? ("/api/v1/nodes/" ++ name)

/-- A page of all pods. -/
def pods (page : PageRequest) : Request :=
  let limit :=
    match page.limit with
    | some n => [("limit", String.ofList (Decimal.ofNatText n))]
    | none => []
  let token :=
    match page.token with
    | some t => [("continue", t)]
    | none => []
  { path := "/api/v1/pods", query := sorted (token ++ limit) }

/-- The namespaces that match a selector. -/
def namespaces (selector : String) : Request :=
  { path := "/api/v1/namespaces", query := [("labelSelector", selector)] }

/-- The stats summary of a node, which the API server passes on. -/
def proxy? (name : String) : Option Request :=
  request? ("/api/v1/nodes/" ++ name ++ "/proxy/stats/summary")

/-- How a request was refused: with which code. -/
structure Refusal where
  code : Nat
deriving DecidableEq, Repr, Inhabited

/-- The code of a status, if a document is one. -/
def statusCode? (v : Json) : Option Nat := do
  let fs ← Json.fields? ["status", "message", "reason", "code"] v
  let _ ← fs.need? "status" Json.text?
  let _ ← fs.getOr "message" Json.text? ""
  let _ ← fs.getOr "reason" Json.text? ""
  let code ← fs.need? "code" (Json.integer? 0 65535)
  some code.toNat

/-- The status says that the request failed. -/
def isError (status : Nat) : Bool :=
  400 ≤ status && status < 600

/-- The text of a response, or the refusal that it is. A body that is no text
    is neither. -/
def text? (r : Response) : Option (Except Refusal String) :=
  (Utf8.decode? r.body).map fun text =>
    if isError r.status then
      .error { code := ((Json.ofString? text).bind statusCode?).getD r.status }
    else .ok text

/-- The document that a response holds. -/
def document? (r : Response) : Option Json :=
  match text? r with
  | some (.ok text) => Json.ofString? text
  | _ => none

/-- The metadata of a list. -/
def listMetadata : Shape :=
  .record
    [("continue", .text), ("remainingItemCount", .int64), ("resourceVersion", .text),
      ("selfLink", .text)]

/-- The items of a list, and the token of the next page. An empty token is
    none. -/
def page? {α : Type} (read : Json → Option α) (v : Json) : Option (Page α) := do
  let fs ←
    match v with
    | .object _ => Json.fields? ["apiVersion", "kind", "metadata", "items"] v
    | _ => none
  let _ ← fs.need? "apiVersion" Json.text?
  let _ ← fs.need? "kind" Json.text?
  let data ← fs.need? "metadata" fun d => if listMetadata d then some d else none
  let items ← fs.need? "items" (Json.list? read)
  some { items, next := ((data.field "continue").text?).filter fun t => !t.isEmpty }

/-- The nodes of a response. -/
def nodesOf? (r : Response) : Option (List Node) :=
  ((document? r).bind (page? Node.ofJson?)).map (·.items)

/-- The node of a response. -/
def nodeOf? (r : Response) : Option Node :=
  (document? r).bind Node.ofJson?

/-- The page of pods in a response. -/
def podsOf? (r : Response) : Option (Page Pod) :=
  (document? r).bind (page? Pod.ofJson?)

/-- The namespaces of a response. -/
def namespacesOf? (r : Response) : Option (List Namespace) :=
  ((document? r).bind (page? Namespace.ofJson?)).map (·.items)

/-- What is said when nodes cannot be listed. -/
def nodesFailure : ListError :=
  { message := "Failed to list nodes" }

/-- What is said when a node cannot be read. -/
def nodeFailure (name : String) : ListError :=
  { message := "Failed to get node " ++ name }

/-- What is said when pods cannot be listed. -/
def podsFailure : ListError :=
  { message := "Failed to list pods" }

/-- What is said when namespaces cannot be listed. -/
def namespacesFailure (selector : String) : ListError :=
  { message := "Failed to list namespaces matching " ++ selector }

end Api

end StorageGauges
