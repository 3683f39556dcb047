import StorageGauges.Event
import StorageGauges.Json.Basic

/-!
# Records as Documents

A record is written as one document: the name of its event, the component,
what happened in words and how serious it is, and the figures of the event.
Members stand in the order of their names.

## Main definitions

* `Event.figures`: The figures of an event.
* `Record.toJson`: A record as a document.
-/

namespace StorageGauges

/-- The figures of an event under their names. -/
def Event.figures : Event → List (String × Json)
  | .started version mode features =>
    [("version", .ofText version), ("mode", .ofText mode), ("features", .ofText features.describe)]
  | .stopped reason => [("reason", .ofText reason)]
  | .nodeEvicted node series cause =>
    [("node_name", .ofText node), ("series", .ofNat series), ("cause", .ofText cause)]
  | .podEvicted pod series cause =>
    [("pod_name", .ofText pod), ("series", .ofNat series), ("cause", .ofText cause)]
  | .swept domain listed removed elapsed =>
    [("domain", .ofText domain), ("listed", .ofNat listed), ("removed", .ofNat removed),
      ("elapsed_ms", .ofNat elapsed)]
  | .pollingLag node remaining interval =>
    [("node_name", .ofText node), ("remaining_ms", .ofInt remaining),
      ("interval_secs", .ofNat interval)]

namespace Record

/-- How serious a record is. -/
def level (r : Record) : String :=
  if r.event.isWarning then "WARN" else "INFO"

/-- A record as a document. -/
def toJson (r : Record) : Json :=
  let frame :=
    [("event", .ofText r.event.name), ("component", .ofText r.component),
      ("message", .ofText r.event.message), ("level", .ofText r.level)]
  Json.ofMembers ((frame ++ r.event.figures).mergeSort fun a b => a.1 ≤ b.1)

end Record

end StorageGauges
