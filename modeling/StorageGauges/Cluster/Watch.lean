import StorageGauges.Cluster.Api

/-!
# Watches

A watch begins with a list of all objects and goes on with a stream of notices
about single ones. When a stream ends the next one goes on where it stopped,
and when the server no longer knows where that was, all objects are listed
again. Lists and streams that cannot be had are asked for again, so what comes
of a watch is a sequence of events, whatever went wrong in between.

Deletions that fall between two lists are in neither of them, and no event
tells of them.

## Main definitions

* `WatchEvent`: What a watch reports.
* `Notice`: What a stream says.
* `Notice.ofJson`: The notice that a document holds.
* `Feed`: What a server answers to a watch.
* `Feed.events`: What comes of it.
-/

namespace StorageGauges

/-- What a watch reports about an object: it was added or changed, it was
    deleted, or the watch began anew with all objects that there are. -/
inductive WatchEvent (α : Type)
  | applied (object : α)
  | deleted (object : α)
  | restarted (objects : List α)
deriving DecidableEq, Repr

/-- What a stream says: that an object was added or changed, that it was
    deleted, that the stream cannot go on from where it is, or nothing that
    matters. -/
inductive Notice (α : Type)
  | applied (object : α)
  | deleted (object : α)
  | expired
  | other
deriving DecidableEq, Repr

namespace Notice

variable {α : Type}

/-- The code by which a server says that a stream cannot go on. -/
def gone : Nat := 410

/-- A notice about an object. One without a version cannot be gone on from,
    and one of a wrong shape does not matter. -/
def about (read : Json → Option α) (say : α → Notice α) (object : Json) : Notice α :=
  match read object with
  | some a => if (Object.version object).isEmpty then expired else say a
  | none => other

/-- The notice that a document holds. -/
def ofJson (read : Json → Option α) (v : Json) : Notice α :=
  let object := v.field "object"
  match (v.field "type").text? with
  | some "ADDED" => about read applied object
  | some "MODIFIED" => about read applied object
  | some "DELETED" => about read deleted object
  | some "ERROR" => if Api.statusCode? object = some gone then expired else other
  | _ => other

end Notice

/-- What a server answers to a watch. A list is absent when it cannot be read;
    the last list is answered again and again. The last stream stays open. -/
structure Feed (α : Type) where
  lists : List (Option (List α))
  streams : List (List (Notice α))
deriving DecidableEq, Repr

namespace Feed

variable {α : Type}

/-- The next list that can be read, and those that are answered afterwards.
    There are no objects where there are no lists. -/
def relist? : List (Option (List α)) → Option (List α × List (Option (List α)))
  | [] => some ([], [])
  | [last] => last.map fun objects => (objects, [last])
  | some objects :: rest => some (objects, rest)
  | none :: rest => relist? rest

/-- What comes of a stream until it ends, and whether it has to begin anew. -/
def heard : List (Notice α) → List (WatchEvent α) × Bool
  | [] => ([], false)
  | .applied a :: rest => (.applied a :: (heard rest).1, (heard rest).2)
  | .deleted a :: rest => (.deleted a :: (heard rest).1, (heard rest).2)
  | .other :: rest => heard rest
  | .expired :: _ => ([], true)

/-- What comes of streams, given the lists with which to begin anew. -/
def follow (lists : List (Option (List α))) :
    List (List (Notice α)) → List (WatchEvent α)
  | [] => []
  | stream :: rest =>
    let (events, anew) := heard stream
    if anew then
      match relist? lists with
      | some (objects, lists) => events ++ .restarted objects :: follow lists rest
      | none => events
    else events ++ follow lists rest

/-- What comes of a watch. -/
def events (f : Feed α) : List (WatchEvent α) :=
  match relist? f.lists with
  | some (objects, lists) => .restarted objects :: follow lists f.streams
  | none => []

end Feed

end StorageGauges
