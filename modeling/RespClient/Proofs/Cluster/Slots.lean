import Mathlib.Data.List.Find
import Mathlib.Data.List.Pairwise
import RespClient.Cluster.Slots
import RespClient.Proofs.Number.Decimal
import RespClient.Proofs.Text.Lines

/-!
# Slots and the masters that serve them

The slot tokens of a node list ranges of slots, with notes about slots on the move between them.
The ranges are read back from the tokens in order, whatever the notes say, so the node that is found
for a slot is the first one flagged as a master that lists a range with the slot. If no two masters
list the same slot, the order of the nodes makes no difference
(`ClusterNode.masterForSlot?_of_listed`).
-/

set_option autoImplicit false

namespace RespClient

open Text

/-! ## Tokens -/

namespace SlotRange

variable {range : SlotRange} {slot : Nat16Value} {token : List Char}

instance : Membership Nat16Value SlotRange :=
  ⟨fun range slot => range.first.val ≤ slot.val ∧ slot.val ≤ range.last.val⟩

theorem mem_iff : slot ∈ range ↔ range.first.val ≤ slot.val ∧ slot.val ≤ range.last.val := Iff.rfl

theorem contains_iff : range.contains slot = true ↔ slot ∈ range := by
  rw [contains, Bool.and_eq_true, decide_eq_true_iff, decide_eq_true_iff, mem_iff]

/-- The token stands for the range: it is the number of its only slot, or the first and the last
slot with a dash between them. -/
def IsWrittenAs (range : SlotRange) (token : List Char) : Prop :=
  range.first = range.last ∧ token = Decimal.ofInt range.first.val ∨
    token = Decimal.ofInt range.first.val ++ '-' :: Decimal.ofInt range.last.val

instance (range : SlotRange) (token : List Char) : Decidable (range.IsWrittenAs token) :=
  inferInstanceAs (Decidable (_ ∨ _))

theorem minus_not_mem_slot (slot : Nat16Value) : '-' ∉ Decimal.ofInt slot.val := by
  have hlow : 0 ≤ slot.val := slot.below_le
  exact Decimal.minus_not_mem_ofInt hlow

theorem head?_slot_append (slot : Nat16Value) (rest : List Char) :
    (Decimal.ofInt slot.val ++ rest).head? ≠ some '[' := by
  rw [List.head?_append_of_ne_nil _ (Decimal.ofInt_ne_nil slot.val)]
  intro hhead
  exact Decimal.not_mem_ofInt (by decide) (by decide) (List.mem_of_head? hhead)

/-- A range is read back from each token that stands for it. -/
theorem IsWrittenAs.ofToken? (h : range.IsWrittenAs token) :
    SlotRange.ofToken? token = some range := by
  obtain ⟨first, last⟩ := range
  rcases h with ⟨heq, rfl⟩ | rfl
  · obtain rfl : first = last := heq
    have hhead := head?_slot_append first []
    rw [List.append_nil] at hhead
    rw [SlotRange.ofToken?, if_neg hhead, splitFirst_eq_none (minus_not_mem_slot first)]
    simp only [Decimal.read?_ofInt, Option.map_some]
  · rw [SlotRange.ofToken?, if_neg (head?_slot_append first _),
      splitFirst_append (minus_not_mem_slot first)]
    simp only [Decimal.read?_ofInt, Option.bind_eq_bind, Option.bind_some]

/-- Tokens that list ranges in order. Those that begin with a bracket are notes about slots on the
move, and list nothing. -/
inductive AreListedBy : List SlotRange → List String → Prop
  | nil : AreListedBy [] []
  | note {ranges : List SlotRange} {token : String} {tokens : List String}
    (h : token.toList.head? = some '[') (rest : AreListedBy ranges tokens) :
    AreListedBy ranges (token :: tokens)
  | range {range : SlotRange} {ranges : List SlotRange} {token : String} {tokens : List String}
    (h : range.IsWrittenAs token.toList) (rest : AreListedBy ranges tokens) :
    AreListedBy (range :: ranges) (token :: tokens)

end SlotRange

/-! ## Nodes -/

namespace ClusterNode

open SlotRange

variable {node : ClusterNode} {nodes : List ClusterNode} {ranges : List SlotRange}
  {slot : Nat16Value}

theorem slotRanges_of_listed (h : AreListedBy ranges node.slots) : node.slotRanges = ranges := by
  rw [slotRanges]
  generalize node.slots = tokens at h
  induction h with
  | nil => rfl
  | note h _ ih =>
      have hnone : SlotRange.ofToken? _ = none := if_pos h
      simp only [List.filterMap_cons, hnone, ih]
  | range h _ ih => simp only [List.filterMap_cons, h.ofToken?, ih]

theorem ownsSlot_iff_of_listed (h : AreListedBy ranges node.slots) :
    node.ownsSlot slot = true ↔ ∃ range ∈ ranges, slot ∈ range := by
  rw [ownsSlot, slotRanges_of_listed h, List.any_eq_true]
  simp only [contains_iff]

/-- The node is flagged as a master, and its tokens list a range with the slot. -/
def Serves (node : ClusterNode) (slot : Nat16Value) : Prop :=
  "master" ∈ node.flags ∧
    ∃ ranges, AreListedBy ranges node.slots ∧ ∃ range ∈ ranges, slot ∈ range

theorem isMaster_iff : node.isMaster = true ↔ "master" ∈ node.flags := by
  simp only [isMaster, hasFlag, List.any_eq_true, beq_iff_eq, exists_eq_right]

/-- Tokens list ranges in one way only. -/
theorem serves_iff_of_listed (h : AreListedBy ranges node.slots) :
    node.Serves slot ↔ "master" ∈ node.flags ∧ ∃ range ∈ ranges, slot ∈ range := by
  refine and_congr_right fun _ => ⟨?_, fun hslot => ⟨ranges, h, hslot⟩⟩
  rintro ⟨ranges', h', hslot⟩
  rwa [← slotRanges_of_listed h, slotRanges_of_listed h']

/-- The nodes that are looked for are those that serve the slot. -/
theorem serves_iff (h : ∃ ranges, AreListedBy ranges node.slots) :
    (node.isMaster && node.ownsSlot slot) = true ↔ node.Serves slot := by
  obtain ⟨ranges, hranges⟩ := h
  rw [Bool.and_eq_true, isMaster_iff, ownsSlot_iff_of_listed hranges,
    serves_iff_of_listed hranges]

section Lookup

variable (hlisted : ∀ node ∈ nodes, ∃ ranges, AreListedBy ranges node.slots)

include hlisted

theorem masterForSlot?_eq_some_iff :
    masterForSlot? nodes slot = some node ↔
      ∃ before after, nodes = before ++ node :: after ∧ node.Serves slot ∧
        ∀ earlier ∈ before, ¬ earlier.Serves slot := by
  rw [masterForSlot?, List.find?_eq_some_iff_append]
  constructor
  · rintro ⟨hnode, before, after, rfl, hbefore⟩
    obtain ⟨hearlier, hlater⟩ := List.forall_mem_append.1 hlisted
    refine ⟨before, after, rfl, (serves_iff (hlater node List.mem_cons_self)).1 hnode, ?_⟩
    intro earlier hmem hserves
    have hfalse := hbefore earlier hmem
    rw [(serves_iff (hearlier earlier hmem)).2 hserves] at hfalse
    cases hfalse
  · rintro ⟨before, after, rfl, hnode, hbefore⟩
    obtain ⟨hearlier, hlater⟩ := List.forall_mem_append.1 hlisted
    refine ⟨(serves_iff (hlater node List.mem_cons_self)).2 hnode, before, after, rfl, ?_⟩
    intro earlier hmem
    rw [Bool.not_eq_true', Bool.eq_false_iff, ne_eq, serves_iff (hearlier earlier hmem)]
    exact hbefore earlier hmem

theorem masterForSlot?_eq_none_iff :
    masterForSlot? nodes slot = none ↔ ∀ node ∈ nodes, ¬ node.Serves slot := by
  rw [masterForSlot?, List.find?_eq_none]
  exact forall₂_congr fun node hmem => not_congr (serves_iff (hlisted node hmem))

/-- If at most one node serves the slot, it is found in any order. -/
theorem masterForSlot?_of_perm {nodes' : List ClusterNode} (hperm : nodes'.Perm nodes)
    (hunique : {node ∈ nodes | Serves node slot}.Subsingleton) :
    masterForSlot? nodes' slot = masterForSlot? nodes slot := by
  refine (List.find?_eq_find?_of_perm hperm.symm ?_).symm
  rintro node ⟨hnode, hserves⟩ other ⟨hother, hserves'⟩
  exact hunique ⟨hnode, (serves_iff (hlisted node hnode)).1 hserves⟩
    ⟨hother, (serves_iff (hlisted other hother)).1 hserves'⟩

end Lookup

/-- No slot is served by both nodes. -/
def SharesNoSlot (node other : ClusterNode) : Prop :=
  ∀ slot, ¬ (node.Serves slot ∧ other.Serves slot)

instance : Std.Symm SharesNoSlot := ⟨fun _ _ h slot hboth => h slot hboth.symm⟩

theorem subsingleton_serves (h : nodes.Pairwise SharesNoSlot) :
    {node ∈ nodes | Serves node slot}.Subsingleton := by
  rintro node ⟨hnode, hserves⟩ other ⟨hother, hserves'⟩
  by_contra hne
  exact h.forall hnode hother hne slot ⟨hserves, hserves'⟩

/-- If the tokens of a node list ranges, these are the ranges of the node, and the node owns the
slots in them. Among nodes whose tokens list ranges, the master for a slot is the first node that
serves it, and there is none if no node does; if no two nodes serve the same slot, the nodes can be
in any order. -/
theorem masterForSlot?_of_listed :
    (∀ (node : ClusterNode) (ranges : List SlotRange), AreListedBy ranges node.slots →
      node.slotRanges = ranges ∧
        ∀ slot, node.ownsSlot slot = true ↔ ∃ range ∈ ranges, slot ∈ range) ∧
    ∀ nodes : List ClusterNode, (∀ node ∈ nodes, ∃ ranges, AreListedBy ranges node.slots) →
      (∀ (slot : Nat16Value) (node : ClusterNode), masterForSlot? nodes slot = some node ↔
        ∃ before after, nodes = before ++ node :: after ∧ node.Serves slot ∧
          ∀ earlier ∈ before, ¬ earlier.Serves slot) ∧
      (∀ slot, masterForSlot? nodes slot = none ↔ ∀ node ∈ nodes, ¬ node.Serves slot) ∧
      (nodes.Pairwise SharesNoSlot → ∀ nodes', nodes'.Perm nodes →
        ∀ slot, masterForSlot? nodes' slot = masterForSlot? nodes slot) := by
  constructor
  · intro node ranges h
    exact ⟨slotRanges_of_listed h, fun slot => ownsSlot_iff_of_listed h⟩
  · intro nodes hlisted
    refine ⟨fun slot node => masterForSlot?_eq_some_iff hlisted,
      fun slot => masterForSlot?_eq_none_iff hlisted, fun hdisjoint nodes' hperm slot => ?_⟩
    exact masterForSlot?_of_perm hlisted hperm (subsingleton_serves hdisjoint)

/-- A replica that lists all slots, and two masters whose notes name slots of the other one, in both
orders. -/
theorem masterForSlot?_of_listed_moving :
    let slot (n : Fin 65536) : Nat16Value := .ofNat n (Nat.le_of_lt_succ n.isLt)
    let replica : ClusterNode := { id := "c3", flags := ["slave"], slots := ["0-16383"] }
    let first : ClusterNode :=
      { id := "a1", flags := ["myself", "master"],
        slots := ["0-5460", "[5461-<-b2]", "7000", "6999-6999"] }
    let second : ClusterNode :=
      { id := "b2", flags := ["master"], slots := ["[0->-a1]", "5461-6998"] }
    let ranges : List SlotRange :=
      [⟨slot 0, slot 5460⟩, ⟨slot 7000, slot 7000⟩, ⟨slot 6999, slot 6999⟩]
    let nodes := [replica, first, second]
    AreListedBy ranges first.slots ∧ first.slotRanges = ranges ∧
      (∀ node ∈ nodes, ∃ ranges, AreListedBy ranges node.slots) ∧
      nodes.Pairwise SharesNoSlot ∧ second.Serves (slot 5461) ∧
      masterForSlot? nodes (slot 5461) = some second ∧
      masterForSlot? [second, replica, first] (slot 5461) = some second ∧
      masterForSlot? nodes (slot 7001) = none ∧ ∀ node ∈ nodes, ¬ node.Serves (slot 7001) := by
  intro slot replica first second ranges nodes
  have hfirst : AreListedBy ranges first.slots :=
    .range (by decide) (.note (by decide) (.range (by decide) (.range (by decide) .nil)))
  have hsecond : AreListedBy [⟨slot 5461, slot 6998⟩] second.slots :=
    .note (by decide) (.range (by decide) .nil)
  have hreplica : AreListedBy [⟨slot 0, slot 16383⟩] replica.slots := .range (by decide) .nil
  have hlisted : ∀ node ∈ nodes, ∃ ranges, AreListedBy ranges node.slots := by
    simp only [nodes, List.forall_mem_cons]
    exact ⟨⟨_, hreplica⟩, ⟨_, hfirst⟩, ⟨_, hsecond⟩, List.forall_mem_nil _⟩
  -- the replica serves nothing, whatever it lists, and the ranges of the masters do not meet
  have hreplicas : ∀ slot, ¬ replica.Serves slot := fun _ h => by simpa [replica] using h.1
  have hmasters : SharesNoSlot first second := by
    rintro n ⟨hserves, hserves'⟩
    obtain ⟨-, range, hrange, hn⟩ := (serves_iff_of_listed hfirst).1 hserves
    obtain ⟨-, range', hrange', hn'⟩ := (serves_iff_of_listed hsecond).1 hserves'
    obtain rfl := List.mem_singleton.1 hrange'
    rw [mem_iff] at hn hn'
    simp only [ranges, List.mem_cons, List.not_mem_nil, or_false] at hrange
    rcases hrange with rfl | rfl | rfl <;> simp only [slot, Sized.ofNat] at hn hn' <;> omega
  have hdisjoint : nodes.Pairwise SharesNoSlot := by
    have hreplica' : ∀ node, SharesNoSlot replica node := fun _ n h => hreplicas n h.1
    simp only [nodes, List.pairwise_cons, List.forall_mem_cons]
    exact ⟨⟨hreplica' _, hreplica' _, List.forall_mem_nil _⟩, ⟨hmasters, List.forall_mem_nil _⟩,
      List.forall_mem_nil _, .nil⟩
  obtain ⟨hnode, htopology⟩ := masterForSlot?_of_listed
  obtain ⟨hsome, hnone, horder⟩ := htopology nodes hlisted
  have hfound : masterForSlot? nodes (slot 5461) = some second := by decide
  have hmissing : masterForSlot? nodes (slot 7001) = none := by decide
  obtain ⟨-, -, -, hserves, -⟩ := (hsome _ second).1 hfound
  have hperm : [second, replica, first].Perm nodes :=
    @List.perm_append_comm _ [second] [replica, first]
  exact ⟨hfirst, (hnode first ranges hfirst).1, hlisted, hdisjoint, hserves, hfound,
    (horder hdisjoint _ hperm _).trans hfound, hmissing, (hnone _).1 hmissing⟩

end ClusterNode

end RespClient
