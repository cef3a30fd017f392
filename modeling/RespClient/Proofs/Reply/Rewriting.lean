import RespClient.Proofs.Decode.Causes
import RespClient.Proofs.Reply.Measure

/-!
# Rewriting replies

A function on replies is applied at every node of a reply, inner nodes first (`Reply.rewrite`). Two
rewritings are of use: `Reply.flatForm`, the form that a reply has without maps, push messages and
strings of other kinds than bulk strings, and `Reply.stripped`, which leaves no attributes.
-/

set_option autoImplicit false

namespace RespClient

namespace Reply

/-! ## From the children to the reply -/

/-- Induction on a reply and the replies inside it, none of them in attributes. -/
@[elab_as_elim]
theorem childInduction {motive : Reply → Prop}
    (h : ∀ r, (∀ c ∈ r.children, motive c) → motive r) : ∀ r, motive r := by
  intro r
  induction r using Reply.induction with
  | array items ih => exact h _ ih
  | set items ih => exact h _ ih
  | push items ih => exact h _ ih
  | withAttributes attributes value _ ih => exact h _ (List.forall_mem_singleton.2 ih)
  | map entries ih =>
      -- the children of a map are its keys and values, one after the other
      refine h _ fun c hc => ?_
      obtain ⟨entry, hentry, rfl | rfl⟩ := mem_flattened_iff.1 hc
      · exact (ih entry hentry).1
      · exact (ih entry hentry).2
  | _ => exact h _ nofun

theorem nodes_subset_of_mem_children {r c : Reply} (h : c ∈ r.children) : c.nodes ⊆ r.nodes := by
  induction r using Reply.induction with
  | array items => exact List.subset_cons_of_subset _ (nodes_subset_items h)
  | set items => exact List.subset_cons_of_subset _ (nodes_subset_items h)
  | push items => exact List.subset_cons_of_subset _ (nodes_subset_items h)
  | map entries =>
      obtain ⟨entry, hentry, hc⟩ := mem_flattened_iff.1 h
      obtain ⟨hkey, hvalue⟩ := List.append_subset.1 (nodes_subset_entries hentry)
      rcases hc with rfl | rfl
      · exact List.subset_cons_of_subset _ hkey
      · exact List.subset_cons_of_subset _ hvalue
  | withAttributes attributes value =>
      obtain rfl := List.mem_singleton.1 h
      exact List.subset_cons_of_subset _ (List.subset_append_right _ _)
  | _ => cases h

theorem Inside.mem_nodes {node r : Reply} (h : Inside node r) : node ∈ r.nodes := by
  induction h with
  | self => exact self_mem_nodes node
  | child hchild _ ih => exact nodes_subset_of_mem_children hchild ih

/-! ## Rewriting -/

/-- The reply with `g` applied to the replies directly inside it, attributes included. -/
def mapParts (g : Reply → Reply) : Reply → Reply
  | .array items => .array (items.map g)
  | .map entries => .map (entries.map (Prod.map g g))
  | .set items => .set (items.map g)
  | .push items => .push (items.map g)
  | .attribute attributes value => .attribute (attributes.map (Prod.map g g)) (g value)
  | reply => reply

mutual

/-- The reply with `f` applied at every node, inner nodes first. -/
def rewrite (f : Reply → Reply) : Reply → Reply
  | .array items => f (.array (rewriteItems f items))
  | .map entries => f (.map (rewriteEntries f entries))
  | .set items => f (.set (rewriteItems f items))
  | .push items => f (.push (rewriteItems f items))
  | .attribute attributes value => f (.attribute (rewriteEntries f attributes) (rewrite f value))
  | reply => f reply

/-- The items of a collection, each rewritten. -/
def rewriteItems (f : Reply → Reply) : List Reply → List Reply
  | [] => []
  | item :: items => rewrite f item :: rewriteItems f items

/-- The entries of a map, keys and values rewritten. -/
def rewriteEntries (f : Reply → Reply) : List (Reply × Reply) → List (Reply × Reply)
  | [] => []
  | (key, value) :: entries => (rewrite f key, rewrite f value) :: rewriteEntries f entries

end

variable (f : Reply → Reply)

theorem rewriteItems_eq_map (items : List Reply) :
    rewriteItems f items = items.map (rewrite f) := by
  induction items with
  | nil => rfl
  | cons item items ih => rw [rewriteItems, ih, List.map_cons]

theorem rewriteEntries_eq_map (entries : List (Reply × Reply)) :
    rewriteEntries f entries = entries.map (Prod.map (rewrite f) (rewrite f)) := by
  induction entries with
  | nil => rfl
  | cons entry entries ih =>
      rw [rewriteEntries, ih, List.map_cons]
      rfl

/-- A reply is rewritten after its parts. -/
theorem rewrite_eq (r : Reply) : r.rewrite f = f (r.mapParts (rewrite f)) := by
  induction r using Reply.induction with
  | array items => rw [rewrite, rewriteItems_eq_map, mapParts]
  | map entries => rw [rewrite, rewriteEntries_eq_map, mapParts]
  | set items => rw [rewrite, rewriteItems_eq_map, mapParts]
  | push items => rw [rewrite, rewriteItems_eq_map, mapParts]
  | withAttributes attributes value => rw [rewrite, rewriteEntries_eq_map, mapParts]
  | _ => rfl

/-! ## Two rewritings -/

/-- A map as the flat array of its keys and values, a push message as an array, and any string as a
bulk string. -/
def flatNode : Reply → Reply
  | .simple text => .bulk text
  | .verbatim _ text => .bulk text
  | .map entries => .array (flattened entries)
  | .push items => .array items
  | reply => reply

/-- The reply with flat arrays for maps, arrays for push messages and bulk strings for strings of
other kinds, at every depth. -/
def flatForm (r : Reply) : Reply := r.rewrite flatNode

/-- The value that attributes annotate, without them. -/
def stripNode : Reply → Reply
  | .attribute _ value => value
  | reply => reply

/-- The reply with the annotated value in place of each attribute, at every depth. -/
def stripped (r : Reply) : Reply := r.rewrite stripNode

end Reply

end RespClient
