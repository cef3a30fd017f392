import RespClient.Proofs.Reply.Encoding
import RespClient.Reply.Limits

/-!
# What a reply announces

A reply on the wire announces the depth of its collections, the number of their items and the
lengths of its texts. `Reply.Within` compares these with the limits of a reader, and
`Reply.Framable` says that the wire form can express them and that lines end where they should. Both
speak of the nodes of a reply, which are the reply and all replies inside it.
-/

set_option autoImplicit false

namespace RespClient

namespace Reply

/-! ## One node -/

/-- The number in the header of a collection: its items, or its entries. -/
def count : Reply → Nat
  | .array items => items.length
  | .map entries => entries.length
  | .set items => items.length
  | .push items => items.length
  | .attribute attributes _ => attributes.length
  | _ => 0

/-- The items that a collection books, an entry counting as two. -/
def booked : Reply → Nat
  | .array items => items.length
  | .map entries => entries.length * 2
  | .set items => items.length
  | .push items => items.length
  | .attribute attributes _ => attributes.length * 2
  | _ => 0

/-- The length before a text. The format of a verbatim string and its colon count. -/
def blobLength : Reply → Nat
  | .bulk text => text.length
  | .bulkError message => message.length
  | .verbatim _ text => text.length + 4
  | _ => 0

/-- The text that fills a line as it is. -/
def lineText : Reply → Bytes
  | .simple text => text
  | .error message => message
  | .bigNumber digits => digits
  | _ => []

/-! ## All nodes -/

mutual

/-- A reply and the replies inside it. -/
def nodes : Reply → List Reply
  | .array items => .array items :: nodesOfItems items
  | .map entries => .map entries :: nodesOfEntries entries
  | .set items => .set items :: nodesOfItems items
  | .push items => .push items :: nodesOfItems items
  | .attribute attributes value =>
    .attribute attributes value :: (nodesOfEntries attributes ++ nodes value)
  | reply => [reply]

/-- The items of a collection and the replies inside them. -/
def nodesOfItems : List Reply → List Reply
  | [] => []
  | item :: items => nodes item ++ nodesOfItems items

/-- The keys and values of a map and the replies inside them. -/
def nodesOfEntries : List (Reply × Reply) → List Reply
  | [] => []
  | (key, value) :: entries => nodes key ++ (nodes value ++ nodesOfEntries entries)

end

mutual

/-- The number of collections inside one another. Attributes are one around their value, too. -/
def depth : Reply → Nat
  | .array items => depthOfItems items + 1
  | .map entries => depthOfEntries entries + 1
  | .set items => depthOfItems items + 1
  | .push items => depthOfItems items + 1
  | .attribute attributes value => max (depthOfEntries attributes) (depth value) + 1
  | _ => 0

/-- The depth of the deepest item. -/
def depthOfItems : List Reply → Nat
  | [] => 0
  | item :: items => max (depth item) (depthOfItems items)

/-- The depth of the deepest key or value. -/
def depthOfEntries : List (Reply × Reply) → Nat
  | [] => 0
  | (key, value) :: entries => max (max (depth key) (depth value)) (depthOfEntries entries)

end

/-- The items booked by all collections among some nodes. -/
def bookedBy (nodes : List Reply) : Nat := (nodes.map booked).sum

theorem bookedBy_cons (node : Reply) (nodes : List Reply) :
    bookedBy (node :: nodes) = node.booked + bookedBy nodes := by
  rw [bookedBy, List.map_cons, List.sum_cons, bookedBy]

theorem bookedBy_append (nodes nodes' : List Reply) :
    bookedBy (nodes ++ nodes') = bookedBy nodes + bookedBy nodes' := by
  rw [bookedBy, List.map_append, List.sum_append, bookedBy, bookedBy]

/-- The wire form can express the reply: no text that fills a line holds a return octet, and counts
and lengths are signed 64-bit integers. -/
structure Framable (r : Reply) : Prop where
  line : ∀ node ∈ r.nodes, 13 ∉ node.lineText
  count_lt : ∀ node ∈ r.nodes, node.count < 2 ^ 63
  length_lt : ∀ node ∈ r.nodes, node.blobLength < 2 ^ 63

/-- The reply announces no more than the limits allow. -/
structure Within (limits : Limits) (r : Reply) : Prop where
  depth_le : r.depth ≤ limits.maxDepth.toNat
  count_le : ∀ node ∈ r.nodes, node.count ≤ limits.maxCollection.toNat
  booked_le : bookedBy r.nodes ≤ limits.maxTotal.toNat
  length_le : ∀ node ∈ r.nodes, node.blobLength ≤ limits.maxBulk.toNat

instance (r : Reply) : Decidable r.Framable :=
  decidable_of_iff
    ((∀ node ∈ r.nodes, 13 ∉ node.lineText) ∧ (∀ node ∈ r.nodes, node.count < 2 ^ 63) ∧
      ∀ node ∈ r.nodes, node.blobLength < 2 ^ 63)
    ⟨fun h => ⟨h.1, h.2.1, h.2.2⟩, fun h => ⟨h.line, h.count_lt, h.length_lt⟩⟩

instance (limits : Limits) (r : Reply) : Decidable (r.Within limits) :=
  decidable_of_iff
    (r.depth ≤ limits.maxDepth.toNat ∧ (∀ node ∈ r.nodes, node.count ≤ limits.maxCollection.toNat) ∧
      bookedBy r.nodes ≤ limits.maxTotal.toNat ∧
      ∀ node ∈ r.nodes, node.blobLength ≤ limits.maxBulk.toNat)
    ⟨fun h => ⟨h.1, h.2.1, h.2.2.1, h.2.2.2⟩,
      fun h => ⟨h.depth_le, h.count_le, h.booked_le, h.length_le⟩⟩

/-! ## Nodes and what is inside -/

theorem self_mem_nodes (r : Reply) : r ∈ r.nodes := by
  cases r <;> exact List.mem_cons_self

theorem nodes_subset_items {r : Reply} {items : List Reply} (h : r ∈ items) :
    r.nodes ⊆ nodesOfItems items := by
  induction items with
  | nil => cases h
  | cons item items ih =>
      intro node hnode
      rcases List.mem_cons.1 h with rfl | h
      · exact List.mem_append_left _ hnode
      · exact List.mem_append_right _ (ih h hnode)

theorem nodes_subset_entries {e : Reply × Reply} {entries : List (Reply × Reply)}
    (h : e ∈ entries) : e.1.nodes ++ e.2.nodes ⊆ nodesOfEntries entries := by
  induction entries with
  | nil => cases h
  | cons entry entries ih =>
      intro node hnode
      rw [nodesOfEntries, ← List.append_assoc]
      rcases List.mem_cons.1 h with rfl | h
      · exact List.mem_append_left _ hnode
      · exact List.mem_append_right _ (ih h hnode)

/-- Replies inside a framable reply are framable. -/
theorem Framable.of_subset {r s : Reply} (h : r.Framable) (hsubset : s.nodes ⊆ r.nodes) :
    s.Framable :=
  ⟨fun node hnode => h.line node (hsubset hnode), fun node hnode => h.count_lt node (hsubset hnode),
    fun node hnode => h.length_lt node (hsubset hnode)⟩

theorem Framable.of_mem_items {r : Reply} {items : List Reply} (h : r.Framable)
    (hitems : nodesOfItems items ⊆ r.nodes) : ∀ s ∈ items, s.Framable := fun _ hs =>
  h.of_subset fun _ hnode => hitems (nodes_subset_items hs hnode)

theorem Framable.of_mem_entries {r : Reply} {entries : List (Reply × Reply)} (h : r.Framable)
    (hentries : nodesOfEntries entries ⊆ r.nodes) : ∀ e ∈ entries, e.1.Framable ∧ e.2.Framable := by
  intro e he
  have hsubset : e.1.nodes ++ e.2.nodes ⊆ r.nodes := fun _ hnode =>
    hentries (nodes_subset_entries he hnode)
  obtain ⟨hkey, hvalue⟩ := List.append_subset.1 hsubset
  exact ⟨h.of_subset hkey, h.of_subset hvalue⟩

end Reply

end RespClient
