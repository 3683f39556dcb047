import StorageGauges.Exporter.Scrape
import StorageGauges.Proofs.Stats.Rendering

/-!
# One Unreadable Pod Makes a Payload Unreadable

A payload may have the form of a summary and still hold something among its
pods that is none: a `null`, or a pod with a text where a figure belongs. The
payload is read as a whole, so it makes no difference where the pod stands,
what is wrong with it or how many others are fine. There is no summary then,
the scrape is over, and all that the exporter has stays as it is. In particular
nothing is written for the other pods, and nothing of the node is evicted, so
its series keep the values of earlier scrapes.

If every pod can be read, the payload is the summary of these pods, one for
each element, in their order.

## Main definitions

* `Summary.Lists`: Bytes in the form of a summary, with any elements for pods.

## Theorems

* `Summary.parse?_of_lists`: Such bytes are read if all elements are.
* `Exporter.finishScrape_of_lists`: All pods of a payload are written, or the
  scrape changes nothing.
* `Exporter.finishScrape_drops_readable`: So pods are not written that would be
  written without the unreadable ones.
-/

namespace StorageGauges

open Json (Field)

namespace Summary

/-- The fields of a summary whose pods may be anything. -/
def listFields (node : String) (elements : List Json) : List Field :=
  [.of "node" RendersNode "" node, .of "pods" (fun vs v => v = .array vs) [] elements]

/-- Bytes stand for a summary of a node, with these elements for pods. -/
def Lists (node : String) (elements : List Json) (bytes : List UInt8) : Prop :=
  ∃ v, Json.Renders (listFields node elements) v ∧ v.IsText bytes

/-- Such bytes are read if all elements are. -/
theorem parse?_of_lists {node : String} {elements : List Json} {bytes : List UInt8}
    (h : Lists node elements bytes) :
    parse? bytes = (Json.list? PodSample.ofJson? (.array elements)).map fun pods =>
      { nodeName := node, pods } := by
  rcases h with ⟨v, hrenders, htext⟩
  rcases Json.fields?_of_renders fieldNames rfl (by decide) hrenders with ⟨fs, hfs, hfound⟩
  simp only [listFields, List.forall_mem_cons] at hfound
  rcases hfound with ⟨hnode, hpods, -⟩
  have hnode := Json.getOr_of_foundIn hnode fun _ => nodeName?_of_renders
  have hpods : fs.getOr "pods" (Json.list? PodSample.ofJson?) [] =
      Json.list? PodSample.ofJson? (.array elements) := by
    -- Without pods the field may be left out, which is no other list than an empty one.
    rcases hpods with ⟨w, hw, rfl⟩ | ⟨hnone, rfl⟩
    · have hlookup : fs.lookup "pods" = some (.array elements) := hw
      rw [Json.Fields.getOr, hlookup]
    · have hlookup : fs.lookup "pods" = none := hnone
      rw [Json.Fields.getOr, hlookup]
      rfl
  rw [fieldNames] at hfs
  rw [parse?, Json.read?_of_isText htext, Option.bind_some]
  simp only [ofJson?, hfs, hnode, hpods, Option.bind_eq_bind, Option.bind_some]
  cases Json.list? PodSample.ofJson? (.array elements) <;> rfl

end Summary

namespace Exporter

/-- All pods of a payload are written, one for each element, or the scrape
    changes nothing. One element that is no pod is enough for that. -/
theorem finishScrape_of_lists (o : Options) (interval : Duration) (e : Exporter)
    (name node : String) (elements : List Json) (payload : Payload) (allowed : AllowList)
    (elapsed : Nat) (h : Summary.Lists node elements payload) :
    (∀ pods, List.Forall₂ (fun s w => PodSample.ofJson? w = some s) pods elements →
      scrapeOutcome interval (some payload) allowed elapsed =
        .recorded (processed { nodeName := node, pods } allowed).written
          (remainingTime interval elapsed) ∧
      e.finishScrape o interval name (some payload) allowed elapsed =
        ((e.process o name { nodeName := node, pods } allowed).noteLag interval name
          (remainingTime interval elapsed)).writeRemaining o name
          (remainingTime interval elapsed)) ∧
    ((∃ w ∈ elements, PodSample.ofJson? w = none) →
      scrapeOutcome interval (some payload) allowed elapsed = .parseFailed ∧
      e.finishScrape o interval name (some payload) allowed elapsed = e) := by
  have hparse := Summary.parse?_of_lists h
  constructor
  · -- All elements are pods, so the list of them is read and the payload is written.
    intro pods hpods
    have hread := Json.list?_of_renders ⟨elements, rfl, hpods⟩ fun _ _ hread => hread
    rw [hread, Option.map_some] at hparse
    constructor
    · rw [scrapeOutcome, hparse]
    · rw [finishScrape, hparse]
  · -- One element that cannot be read is enough for the list not to be.
    rintro ⟨w, hw, hread⟩
    rw [Json.list?_eq_none hw hread, Option.map_none] at hparse
    constructor
    · rw [scrapeOutcome, hparse]
    · rw [finishScrape, hparse]

/-- A pod that has nothing but its name. -/
def webPod : PodSample :=
  { name := "web", ns := "blue", storage := .zero, volumes := [] }

/-- The pod in a document. -/
def webDocument : Json :=
  .ofMembers [("podRef", .ofMembers [("name", .ofText "web"), ("namespace", .ofText "blue")])]

/-- The document of a payload with these pods. -/
def podsDocument (elements : List Json) : Json :=
  .ofMembers [("pods", .array elements)]

/-- The document stands for the pod, with what it does not have left out. -/
theorem renders_webDocument : webPod.Renders webDocument := by
  have hreference : PodSample.RendersReference ("web", "blue")
      (.ofMembers [("name", .ofText "web"), ("namespace", .ofText "blue")]) := by
    refine Json.renders_ofMembers (by decide) ?_
    simp [PodSample.referenceFields, Field.of, Json.rendersText_ofText]
  refine Json.renders_ofMembers (by decide) ?_
  simp [PodSample.fields, Field.of, webPod, hreference]

/-- The payload has no field for a node, which stands for an empty name. -/
theorem renders_podsDocument (elements : List Json) :
    Json.Renders (Summary.listFields "" elements) (podsDocument elements) := by
  refine Json.renders_ofMembers (List.nodup_singleton "pods") ?_
  simp [Summary.listFields, Field.of]

/-- The pod in a payload. -/
def webText : Payload :=
  Utf8.encode "\x7b\"podRef\":\x7b\"name\":\"web\",\"namespace\":\"blue\"\x7d\x7d"

/-- Its bytes are read token by token. -/
theorem isText_web : webDocument.IsText webText :=
  .next .beginObject <| .next (.raw "podRef" (by decide)) <| .next .colon <|
    .next .beginObject <| .next (.raw "name" (by decide)) <| .next .colon <|
    .next (.raw "web" (by decide)) <| .next .comma <| .next (.raw "namespace" (by decide)) <|
    .next .colon <| .next (.raw "blue" (by decide)) <| .next .endObject <|
    .next .endObject (.nil List.all_nil)

/-- A payload with the pod alone. -/
def webPayload : Payload :=
  Utf8.encode "\x7b\"pods\":[" ++ (webText ++ Utf8.encode "]\x7d")

/-- A payload with a `null` before the pod. -/
def nullPayload : Payload :=
  Utf8.encode "\x7b\"pods\":[null," ++ (webText ++ Utf8.encode "]\x7d")

theorem spaced_podsEnd : Json.Spaced [.endArray, .endObject] (Utf8.encode "]\x7d") :=
  .next .endArray <| .next .endObject (.nil List.all_nil)

/-- The payload with the pod alone has one element. -/
theorem lists_webPayload : Summary.Lists "" [webDocument] webPayload :=
  ⟨podsDocument [webDocument], renders_podsDocument _,
    .next .beginObject <| .next (.raw "pods" (by decide)) <| .next .colon <|
      .next .beginArray <| isText_web.append spaced_podsEnd⟩

theorem lists_nullPayload : Summary.Lists "" [.null, webDocument] nullPayload :=
  ⟨podsDocument [.null, webDocument], renders_podsDocument _,
    .next .beginObject <| .next (.raw "pods" (by decide)) <| .next .colon <|
      .next .beginArray <| .next .nullWord <| .next .comma <| isText_web.append spaced_podsEnd⟩

theorem parse?_webPayload :
    Summary.parse? webPayload = some { nodeName := "", pods := [webPod] } := by
  rw [Summary.parse?_of_lists lists_webPayload, Json.list?_of_renders ⟨[webDocument], rfl,
    .cons (PodSample.ofJson?_of_renders renders_webDocument) .nil⟩ fun _ _ hread => hread]
  rfl

/-- A pod is written, and it is not when a `null` stands before it. -/
theorem finishScrape_webPod :
    scrapeOutcome (.ofSeconds 15) (some webPayload) none 0 = .recorded 1 15000 ∧
    scrapeOutcome (.ofSeconds 15) (some nullPayload) none 0 = .parseFailed ∧
    (Exporter.initial .empty).finishScrape .standard (.ofSeconds 15) "node" (some nullPayload)
      none 0 = .initial .empty := by
  have hweb := finishScrape_of_lists .standard (.ofSeconds 15) (.initial .empty) "node" ""
    [webDocument] webPayload none 0 lists_webPayload
  have hnull := finishScrape_of_lists .standard (.ofSeconds 15) (.initial .empty) "node" ""
    [.null, webDocument] nullPayload none 0 lists_nullPayload
  have hread : List.Forall₂ (fun s w => PodSample.ofJson? w = some s) [webPod] [webDocument] :=
    .cons (PodSample.ofJson?_of_renders renders_webDocument) .nil
  exact ⟨(hweb.1 [webPod] hread).1.trans (by decide),
    hnull.2 ⟨.null, List.mem_cons_self, rfl⟩⟩

/-- Pods are not written that would be written if the payload did not hold the
    unreadable ones. -/
theorem finishScrape_drops_readable :
    ¬ ∀ (o : Options) (interval : Duration) (e : Exporter) (name node : String)
      (elements : List Json) (payload cleared : Payload) (allowed : AllowList) (elapsed : Nat),
      Summary.Lists node elements payload →
      Summary.Lists node (elements.filter fun w => (PodSample.ofJson? w).isSome) cleared →
      ∀ t, (e.finishScrape o interval name (some payload) allowed elapsed).store.get? t =
        (e.finishScrape o interval name (some cleared) allowed elapsed).store.get? t := by
  intro h
  have hread := PodSample.ofJson?_of_renders renders_webDocument
  have hkept : [Json.null, webDocument].filter (fun w => (PodSample.ofJson? w).isSome) =
      [webDocument] := by
    rw [List.filter_cons_of_neg (by decide), List.filter_cons_of_pos (by rw [hread]; rfl),
      List.filter_nil]
  -- The first payload leaves no series, the second one the usage of the pod.
  have hsame := h .standard (.ofSeconds 15) (.initial .empty) "node" "" [.null, webDocument]
    nullPayload webPayload none 0 lists_nullPayload (by rw [hkept]; exact lists_webPayload)
    (.ofPod .podUsage "web" "blue" "node")
  have hnull : Summary.parse? nullPayload = none := by
    rw [Summary.parse?_of_lists lists_nullPayload, Json.list?_eq_none List.mem_cons_self rfl,
      Option.map_none]
  rw [finishScrape, finishScrape, hnull, parse?_webPayload] at hsame
  -- Nothing is live in the initial store, and the usage is live after the second payload.
  exact absurd hsame (by decide)

end Exporter

end StorageGauges
