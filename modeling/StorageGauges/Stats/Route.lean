import StorageGauges.Cluster.Api
import StorageGauges.Kubelet.Client

/-!
# Routes to a Node's Stats

A target with an endpoint is asked directly when there is a client for
kubelets. All others are asked through the API server, which passes the
request on. Either way the body of a success is the payload, as it is.

## Main definitions

* `Route`: How a target is asked.
* `Route.of`: The route to a target.
* `kubeletAnswer`, `proxyAnswer`: What a response answers.
-/

namespace StorageGauges

/-- How a target is asked. -/
inductive Route
  | kubelet (endpoint : String)
  | proxy
deriving DecidableEq, Repr

/-- The route to a target. -/
def Route.of (hasClient : Bool) (t : Target) : Route :=
  match t.endpoint with
  | some endpoint => if hasClient then .kubelet endpoint else .proxy
  | none => .proxy

/-- What a kubelet's response answers; there is none when the connection
    failed. -/
def kubeletAnswer : Option Api.Response → Answer
  | none => .error (.transport "connection failed")
  | some r =>
    if 200 ≤ r.status && r.status < 300 then .ok r.body else .error (.status r.status)

/-- What the API server's response answers. -/
def proxyAnswer (r : Api.Response) : Answer :=
  match Api.text? r with
  | none => .error (.transport "the body is no text")
  | some (.error refusal) => .error (.status refusal.code)
  | some (.ok text) => .ok (Utf8.encode text)

end StorageGauges
