import StorageGauges.Rehearsal.Reply

/-!
# Steps About Health

## Main definitions

* `Rehearsal.HealthAct`: The steps.
* `Rehearsal.actOnHealth`: A step is taken.
-/

namespace StorageGauges

namespace Rehearsal

/-- Something happens to the health of components: something is reported, the
    state of all components or the readiness is asked for, or a request comes
    over HTTP. -/
inductive HealthAct
  | say (statement : Health.Statement)
  | report
  | readiness
  | request (method target : String)

/-- Something happens to the health of components. -/
def actOnHealth (r : Rehearsal) : HealthAct → Reply × Rehearsal
  | .say statement => (.done, r.change fun e => e.report fun h => h.hear r.clock statement)
  | .report => (.health r.exporter.health.report, r)
  | .readiness => (.readiness r.exporter.health.readiness, r)
  | .request method target =>
    (.response (Probe.response r.exporter.health r.exporter.store method target), r)

end Rehearsal

end StorageGauges
