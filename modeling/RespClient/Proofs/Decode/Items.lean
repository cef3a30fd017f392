import RespClient.Json.Decoding
import RespClient.Proofs.Outcome

/-!
# Items, pairs and members

Decoders take the items of an array one by one or in pairs, and the entries of a map as they are or
flattened. This file says which replies they meet that way, and that the loosely typed values inside
an array or a map are read one after the other, each by one reader (`Json.ofMember` for a name with
its value).
-/

set_option autoImplicit false

namespace RespClient

/-- A flattened map has the keys and the values. -/
theorem mem_flattened_iff {r : Reply} {entries : List (Reply × Reply)} :
    r ∈ flattened entries ↔ ∃ entry ∈ entries, r = entry.1 ∨ r = entry.2 := by
  simp only [flattened, List.mem_flatMap, List.mem_cons, List.not_mem_nil, or_false]

theorem mem_of_mem_adjacentPairs {α : Type} {parts : α × α} :
    ∀ {list : List α}, parts ∈ adjacentPairs list → parts.1 ∈ list ∧ parts.2 ∈ list
  | [], h => nomatch h
  | [_], h => nomatch h
  | a :: b :: rest, h => by
      rcases List.mem_cons.1 h with rfl | h
      · exact ⟨List.mem_cons_self, List.mem_cons_of_mem _ List.mem_cons_self⟩
      · obtain ⟨hfirst, hsecond⟩ := mem_of_mem_adjacentPairs h
        exact ⟨List.mem_cons_of_mem _ (List.mem_cons_of_mem _ hfirst),
          List.mem_cons_of_mem _ (List.mem_cons_of_mem _ hsecond)⟩

theorem adjacentPairs_map {α β : Type} (f : α → β) :
    ∀ list : List α, adjacentPairs (list.map f) = (adjacentPairs list).map (Prod.map f f)
  | [] => rfl
  | [_] => rfl
  | a :: b :: rest => congrArg ((f a, f b) :: ·) (adjacentPairs_map f rest)

theorem flattened_map (f : Reply → Reply) (entries : List (Reply × Reply)) :
    flattened (entries.map (Prod.map f f)) = (flattened entries).map f := by
  induction entries with
  | nil => rfl
  | cons entry entries ih => exact congrArg (f entry.1 :: f entry.2 :: ·) ih

theorem length_flattened (entries : List (Reply × Reply)) :
    (flattened entries).length = 2 * entries.length := by
  induction entries with
  | nil => rfl
  | cons entry entries ih =>
      rw [flattened, List.flatMap_cons, ← flattened, List.length_append, ih]
      simp only [List.length_cons, List.length_nil]
      omega

/-- A last item left alone belongs to no pair. -/
theorem adjacentPairs_flattened_append {rest : List Reply} (h : rest.length ≤ 1) :
    ∀ entries : List (Reply × Reply), adjacentPairs (flattened entries ++ rest) = entries
  | [] =>
      match rest, h with
      | [], _ => rfl
      | [_], _ => rfl
  | entry :: entries => congrArg (entry :: ·) (adjacentPairs_flattened_append h entries)

/-- The pairs of a flattened map are its entries. -/
theorem adjacentPairs_flattened (entries : List (Reply × Reply)) :
    adjacentPairs (flattened entries) = entries := by
  have h := @adjacentPairs_flattened_append [] (by decide) entries
  rwa [List.append_nil] at h

/-- A list is made of the pairs of its items and at most one item more. -/
theorem exists_eq_flattened_append : ∀ items : List Reply,
    ∃ entries rest, rest.length ≤ 1 ∧ items = flattened entries ++ rest
  | [] => ⟨[], [], by decide, rfl⟩
  | [item] => ⟨[], [item], by simp, rfl⟩
  | a :: b :: items => by
      obtain ⟨entries, rest, hrest, rfl⟩ := exists_eq_flattened_append items
      exact ⟨(a, b) :: entries, rest, hrest, rfl⟩

/-- The two items of an array are those of an array that has just them. -/
theorem twoItems_eq_ok_iff {form : Form} {r : Reply} {parts : Reply × Reply} :
    twoItems form r = .ok parts ↔ r = .array [parts.1, parts.2] := by
  constructor
  · intro h
    unfold twoItems at h
    split at h
    · cases h
      rfl
    · cases h
    · cases h
  · rintro rfl
    rfl

namespace Json

theorem ofItems_eq_mapM (items : List Reply) : ofItems items = items.mapM ofReply := by
  induction items with
  | nil => rfl
  | cons item items ih =>
      rw [ofItems, List.mapM_cons, ih]
      rfl

/-- Reads a member from its name and its value. -/
def ofMember (parts : Reply × Reply) : Except Error (String × Json) := do
  let name ← readName parts.1
  let value ← ofReply parts.2
  .ok (name, value)

theorem ofEntries_eq_mapM (entries : List (Reply × Reply)) :
    ofEntries entries = entries.mapM ofMember := by
  induction entries with
  | nil => rfl
  | cons entry entries ih =>
      rw [ofEntries, List.mapM_cons, ih, ofMember]
      simp only [bind_assoc, ok_bind]
      rfl

theorem ofPairs_eq_mapM : ∀ items, ofPairs items = (adjacentPairs items).mapM ofMember
  | [] => rfl
  | [_] => rfl
  | name :: value :: items => by
      rw [ofPairs, adjacentPairs, List.mapM_cons, ofPairs_eq_mapM items, ofMember]
      simp only [bind_assoc, ok_bind]
      rfl

end Json

end RespClient
