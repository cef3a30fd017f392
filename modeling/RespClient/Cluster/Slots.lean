import RespClient.Cluster.Node

/-!
# Slots of a cluster

The slots of a node are listed as tokens: a number, two numbers with a dash between,
or a bracketed note about a slot on the move, which counts for nothing. A slot is
served by the first master whose tokens cover it.
-/

namespace RespClient

/-- The slots from `first` to `last`, both included. -/
structure SlotRange where
  first : Nat16Value
  last : Nat16Value
  deriving DecidableEq

namespace SlotRange

/-- Is the slot in the range? -/
def contains (range : SlotRange) (slot : Nat16Value) : Bool :=
  range.first.val ≤ slot.val && slot.val ≤ range.last.val

/-- The range that a token stands for. -/
def ofToken? (token : List Char) : Option SlotRange :=
  if token.head? = some '[' then none
  else
    match Text.splitFirst '-' token with
    | some (first, last) => do
      let first ← Decimal.read? .nat16 first
      let last ← Decimal.read? .nat16 last
      some ⟨first, last⟩
    | none => (Decimal.read? .nat16 token).map fun slot => ⟨slot, slot⟩

end SlotRange

namespace ClusterNode

/-- The slot ranges of a node, in the order of its tokens. -/
def slotRanges (node : ClusterNode) : List SlotRange :=
  node.slots.filterMap fun token => SlotRange.ofToken? token.toList

/-- Does the node serve the slot? -/
def ownsSlot (node : ClusterNode) (slot : Nat16Value) : Bool :=
  node.slotRanges.any (·.contains slot)

/-- The node that answered. -/
def myself? (nodes : List ClusterNode) : Option ClusterNode := nodes.find? isMyself

/-- The first master that serves the slot. -/
def masterForSlot? (nodes : List ClusterNode) (slot : Nat16Value) : Option ClusterNode :=
  nodes.find? fun node => node.isMaster && node.ownsSlot slot

end ClusterNode

end RespClient
