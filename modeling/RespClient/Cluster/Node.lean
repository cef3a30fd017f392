import RespClient.Decode.Scalar

/-!
# Nodes of a cluster

A cluster describes its nodes in text, one node per line:
`id address flags master ping pong epoch link slot slot …`, where a dash stands for no
master and the slots may be missing. The address is `ip:number@bus,hostname`: clients
connect under the number and other nodes under the bus number, and both what follows
the at sign and what follows the comma may be missing.
-/

namespace RespClient

/-- One node of a cluster. -/
structure ClusterNode where
  id : String := ""
  ip : String := ""
  clientPort : Nat16Value := .zero _
  busPort : Option Nat16Value := none
  hostname : Option String := none
  flags : List String := []
  master : Option String := none
  pingSent : Nat64Value := .zero _
  pongReceived : Nat64Value := .zero _
  epoch : Nat64Value := .zero _
  linkState : String := ""
  slots : List String := []
  deriving DecidableEq

/-- Where a node can be reached. -/
structure ClusterAddress where
  ip : List Char
  clientPort : Nat16Value
  busPort : Option Nat16Value
  hostname : Option (List Char)
  deriving DecidableEq

namespace ClusterAddress

/-- Takes the bus number off an address. -/
def takeBusPort? (text : List Char) : Option (List Char × Option Nat16Value) :=
  match Text.splitFirst '@' text with
  | none => some (text, none)
  | some (front, bus) => (Decimal.read? .nat16 bus).map fun bus => (front, some bus)

/-- The address that a text spells. An empty hostname is none; the ip may hold
colons. -/
def ofText? (text : List Char) : Option ClusterAddress := do
  let (front, hostname) :=
    match Text.splitFirst ',' text with
    | none => (text, none)
    | some (front, hostname) => (front, if hostname.isEmpty then none else some hostname)
  let (front, busPort) ← takeBusPort? front
  let (ip, number) ← Text.splitLast ':' front
  let clientPort ← Decimal.read? .nat16 number
  some ⟨ip, clientPort, busPort, hostname⟩

end ClusterAddress

namespace ClusterNode

/-- The node that a line describes. -/
def ofLine? (line : List Char) : Option ClusterNode :=
  match Text.words line with
  | id :: address :: flags :: master :: ping :: pong :: epoch :: link :: slots => do
    let address ← ClusterAddress.ofText? address
    let ping ← Decimal.read? .nat64 ping
    let pong ← Decimal.read? .nat64 pong
    let epoch ← Decimal.read? .nat64 epoch
    some {
      id := String.ofList id
      ip := String.ofList address.ip
      clientPort := address.clientPort
      busPort := address.busPort
      hostname := address.hostname.map String.ofList
      flags := (Text.fields (· == ',') flags).map String.ofList
      master := if master = ['-'] then none else some (String.ofList master)
      pingSent := ping
      pongReceived := pong
      epoch := epoch
      linkState := String.ofList link
      slots := slots.map String.ofList }
  | _ => none

/-- The node that a line describes, or the error that shows the line. -/
def ofLine (line : List Char) : Except Error ClusterNode :=
  match ofLine? line with
  | some node => .ok node
  | none => .error (.malformed (.clusterLine (String.ofList line)))

/-- Has the node a flag? -/
def hasFlag (node : ClusterNode) (flag : String) : Bool := node.flags.any (· == flag)

/-- Is the node a master? -/
def isMaster (node : ClusterNode) : Bool := node.hasFlag "master"

/-- Is the node the one that answered? -/
def isMyself (node : ClusterNode) : Bool := node.hasFlag "myself"

end ClusterNode

namespace Decoder

/-- The lines of a text reply that hold more than blanks. -/
def clusterLines (revision : Revision) (reply : Reply) : Except Error (List (List Char)) := do
  let text ← readString revision reply
  .ok (Text.trimmedLines text.toList)

/-- The node of the first line. -/
def clusterNode (revision : Revision) : Decoder ClusterNode := ofReply fun reply => do
  match ← clusterLines revision reply with
  | [] => .error (.malformed .emptyCluster)
  | line :: _ => ClusterNode.ofLine line

/-- The nodes of all lines. -/
def clusterNodes (revision : Revision) : Decoder (List ClusterNode) := ofReply fun reply => do
  (← clusterLines revision reply).mapM ClusterNode.ofLine

end Decoder

end RespClient
