import StorageGauges.Json.Record

/-!
# Scrape Targets

A node that is scraped: its name, and where its kubelet answers when that is
known. A target without an endpoint is reached through the API server.

## Main definitions

* `Target`: A node that is scraped.
* `Target.toJson`, `Target.ofJson?`: A target as a document.
-/

namespace StorageGauges

/-- A node that is scraped. -/
structure Target where
  name : String
  endpoint : Option String
deriving DecidableEq, Repr, Inhabited

namespace Target

/-- A target as a document. -/
def toJson (t : Target) : Json :=
  Json.ofMembers [("name", Json.ofText t.name), ("endpoint", Json.ofOption Json.ofText t.endpoint)]

/-- The target that a document holds. -/
def ofJson? (v : Json) : Option Target := do
  let fs ← Json.allFields? ["name", "endpoint"] v
  some
    { name := ← fs.need? "name" Json.text?
      endpoint := ← fs.optional? "endpoint" Json.text? }

end Target

end StorageGauges
