import StorageGauges.Gauge.Exposition
import StorageGauges.Health.Registry
import StorageGauges.Json.Printer

/-!
# Probes

Three paths can be read over HTTP: the gauges, the health of the components,
and whether the exporter is ready. A degraded exporter still counts as alive;
an unhealthy one does not.

Paths are compared as they are written. What follows a question mark is left
out.

## Main definitions

* `Probe`: A path that can be read.
* `Probe.ofTarget?`: The path that a request asks for.
* `Probe.Response`: A status with a body.
* `Probe.response`: What a request gets.
-/

namespace StorageGauges

/-- A path that can be read. -/
inductive Probe
  | health
  | readiness
  | gauges
deriving DecidableEq, Repr

namespace Probe

/-- Every path that can be read. -/
def all : List Probe :=
  [health, readiness, gauges]

/-- The text of a path. -/
def path : Probe → String
  | health => "/healthz"
  | readiness => "/readyz"
  | gauges => "/metrics"

/-- The path that a request asks for. -/
def ofTarget? (target : String) : Option Probe :=
  let asked := String.ofList (target.toList.takeWhile fun c => c ≠ '?' && c ≠ '#')
  all.find? fun p => p.path = asked

/-- A status with a body. A refusal has no content type. -/
structure Response where
  status : Nat
  contentType : Option String
  body : String
deriving DecidableEq, Repr, Inhabited

namespace Response

/-- A refusal. -/
def refusal (status : Nat) : Response :=
  { status, contentType := none, body := "" }

/-- A document, with a status that says whether all is well. -/
def document (well : Bool) (v : Json) : Response :=
  { status := if well then 200 else 503
    contentType := some "application/json"
    body := v.toText }

/-- Lines of text. -/
def text (lines : List String) : Response :=
  { status := 200
    contentType := some "text/plain; version=0.0.4"
    body := String.join (lines.map fun l => l ++ "\n") }

/-- A response without its body. -/
def head (r : Response) : Response :=
  { r with body := "" }

end Response

/-- What is read on a path. -/
def read (health : Health.Registry) (store : Store) : Probe → Response
  | .health =>
    let report := health.report
    .document (report.status != .unhealthy) report.toJson
  | .readiness => .document health.readiness.ready health.readiness.toJson
  | .gauges => .text (exposition store)

/-- What a request gets. -/
def response (health : Health.Registry) (store : Store) (method target : String) : Response :=
  match ofTarget? target with
  | none => .refusal 404
  | some p =>
    if method = "GET" then p.read health store
    else if method = "HEAD" then (p.read health store).head
    else .refusal 405

end Probe

end StorageGauges
