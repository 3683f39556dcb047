import StorageGauges.Cluster.Object
import StorageGauges.Decimal.Basic
import StorageGauges.Target

/-!
# Nodes

What the exporter reads of a node: whether it is ready, and where its kubelet
answers. The read-only port, when one is configured, answers without a secure
connection; otherwise the port that the node reports is used.

An endpoint is the address as the node reports it with a port behind it, so
the address is not checked here.

## Main definitions

* `Node`: What is read of a node.
* `Node.ofJson?`: The node that a document holds.
* `Node.isReady`: The node says that it is ready.
* `Node.endpoint?`: Where its kubelet answers.
* `Node.target`: The node as a scrape target.
-/

namespace StorageGauges

/-- A statement of a node about itself. -/
structure Condition where
  kind : String
  status : String
deriving DecidableEq, Repr, Inhabited

/-- An address of a node. -/
structure Address where
  kind : String
  text : String
deriving DecidableEq, Repr, Inhabited

/-- What is read of a node. A port that is not reported is 0. -/
structure Node where
  name : String
  conditions : List Condition
  addresses : List Address
  kubeletPort : Int
deriving DecidableEq, Repr, Inhabited

namespace Node

/-- A condition of a node. -/
def condition : Shape :=
  .record
    [("lastHeartbeatTime", .text), ("lastTransitionTime", .text), ("message", .text),
      ("reason", .text), ("status", .text), ("type", .text)]

/-- A configuration source of a node. -/
def configSource : Shape :=
  .record
    [("configMap",
      .record
        [("kubeletConfigKey", .text), ("name", .text), ("namespace", .text),
          ("resourceVersion", .text), ("uid", .text)])]

/-- What a node is to be. -/
def spec : Shape :=
  .record
    [("configSource", configSource), ("externalID", .text), ("podCIDR", .text),
      ("podCIDRs", .list .text), ("providerID", .text),
      ("taints",
        .list (.record
          [("effect", .text), ("key", .text), ("timeAdded", .text), ("value", .text)])),
      ("unschedulable", .truth)]

/-- What a node is. -/
def status : Shape :=
  .record
    [("addresses", .list (.record [("address", .text), ("type", .text)])),
      ("allocatable", .map .text), ("capacity", .map .text), ("conditions", .list condition),
      ("config",
        .record
          [("active", configSource), ("assigned", configSource), ("error", .text),
            ("lastKnownGood", configSource)]),
      ("daemonEndpoints", .record [("kubeletEndpoint", .record [("Port", .int32)])]),
      ("images", .list (.record [("names", .list .text), ("sizeBytes", .int64)])),
      ("nodeInfo",
        .record
          [("architecture", .text), ("bootID", .text), ("containerRuntimeVersion", .text),
            ("kernelVersion", .text), ("kubeProxyVersion", .text), ("kubeletVersion", .text),
            ("machineID", .text), ("operatingSystem", .text), ("osImage", .text),
            ("systemUUID", .text)]),
      ("phase", .text),
      ("volumesAttached", .list (.record [("devicePath", .text), ("name", .text)])),
      ("volumesInUse", .list .text)]

/-- A node as the API server has it. -/
def shape : Shape :=
  Object.ofKind "Node" [("spec", spec), ("status", status)]

/-- The port of a kubelet, 0 when it is missing. -/
def portOf (status : Json) : Int :=
  let port := ((status.field "daemonEndpoints").field "kubeletEndpoint").field "Port"
  (Json.integer? (-2147483648) 2147483647 port).getD 0

/-- The node that a document holds. -/
def ofJson? (v : Json) : Option Node :=
  if shape v then
    let status := v.field "status"
    some
      { name := Object.name v
        conditions := (status.field "conditions").elements.map fun c =>
          { kind := Object.textField c "type", status := Object.textField c "status" }
        addresses := (status.field "addresses").elements.map fun a =>
          { kind := Object.textField a "type", text := Object.textField a "address" }
        kubeletPort := portOf status }
  else none

/-- The node says that it is ready. -/
def isReady (n : Node) : Bool :=
  n.conditions.any fun c => c.kind = "Ready" && c.status = "True"

/-- The first internal address. -/
def internalAddress? (n : Node) : Option String :=
  (n.addresses.find? fun a => a.kind = "InternalIP").map (·.text)

/-- A port in decimal digits. -/
def portText (n : Nat) : String :=
  String.ofList (Decimal.ofNatText n)

/-- Where the node's kubelet answers. A read-only port of 0 is none. -/
def endpoint? (n : Node) (readOnlyPort : Nat) : Option String :=
  n.internalAddress?.bind fun address =>
    if readOnlyPort ≠ 0 then some ("http://" ++ address ++ ":" ++ portText readOnlyPort)
    else if 0 < n.kubeletPort then
      some ("https://" ++ address ++ ":" ++ portText n.kubeletPort.toNat)
    else none

/-- The node as a scrape target, with its endpoint when kubelets are scraped
    directly. -/
def target (n : Node) (direct : Bool) (readOnlyPort : Nat) : Target :=
  { name := n.name, endpoint := if direct then n.endpoint? readOnlyPort else none }

end Node

end StorageGauges
