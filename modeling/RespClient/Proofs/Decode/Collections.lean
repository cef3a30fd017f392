import RespClient.Proofs.Decode.Items
import RespClient.Proofs.Decode.Ordered
import RespClient.Shape.Decoding

/-!
# Elements of arrays, sets and maps

Lists and sets of results are read from arrays and, under the third revision, from sets and maps. A
set is read as the array of its items, whatever the results are. Results that are not made of two
parts are read one by one, so a map is read as the array of its keys and values: each element gives
one value, in order, and the first one that fails gives the error
(`Shape.decode_collections_alike`). Under the second revision sets and maps are refused.
-/

set_option autoImplicit false

namespace RespClient

namespace Shape

open Decoder Ordered

variable {s target : Shape} {revision : Revision} {r : Reply} {items : List Reply}
  {entries : List (Reply × Reply)}

/-- The results are made of two parts, and collections give the parts two by two. -/
def pairsUp : Shape → Bool
  | .pair _ _ => true
  | .scoredMember => true
  | _ => false

/-- The lists and the sets of results of a shape. -/
inductive IsCollectionOf (s : Shape) : Shape → Prop
  | list : IsCollectionOf s (.list s)
  | set : IsCollectionOf s (.set s)

/-! ## Reading collections -/

/-- Results that are not made of two parts are read one by one. -/
theorem decoder_eq_ofReply (h : s.pairsUp = false) :
    s.decoder revision = .ofReply (s.decoder revision).reply := by
  cases s with
  | pair a b => cases h
  | scoredMember => cases h
  | _ => rfl

/-- What a collection gives depends on the values of its elements only. -/
theorem IsCollectionOf.exists_map (h : s.IsCollectionOf target) :
    ∃ collect : List s.Carrier → target.Carrier, ∀ revision r, target.decode revision r =
      ((s.decoder revision).sequence revision r.withoutAttributes).map collect := by
  cases h with
  | list =>
      refine ⟨id, fun revision r => ?_⟩
      show (s.decoder revision).sequence revision r.withoutAttributes = _
      cases (s.decoder revision).sequence revision r.withoutAttributes <;> rfl
  | set => exact ⟨ofItems s.sortKey, fun _ _ => rfl⟩

theorem decode_set_eq_array (h : s.IsCollectionOf target) (items : List Reply) :
    target.decode .third (.set items) = target.decode .third (.array items) := by
  obtain ⟨collect, hcollect⟩ := h.exists_map
  rw [hcollect, hcollect]
  rfl

theorem decode_map_eq_array (h : s.IsCollectionOf target) (hs : s.pairsUp = false)
    (entries : List (Reply × Reply)) :
    target.decode .third (.map entries) = target.decode .third (.array (flattened entries)) := by
  obtain ⟨collect, hcollect⟩ := h.exists_map
  rw [hcollect, hcollect, decoder_eq_ofReply hs]
  rfl

/-- The keys and values of a map are not the parts of its flattened pairs when they are
collections. -/
example :
    let entries : List (Reply × Reply) :=
      [(.array [.bulk [97], .bulk [98]], .array [.bulk [99], .bulk [100]])]
    let pairs := Shape.list (.pair .string .string)
    pairs.decode .third (.map entries) = .error (.mismatch .string .array) ∧
      pairs.decode .third (.array (flattened entries)) = .ok [("a", "b"), ("c", "d")] :=
  ⟨rfl, rfl⟩

/-- Under the second revision collections are read from arrays only. -/
theorem decode_second_refused (h : s.IsCollectionOf target)
    (hr : r.kind = .map ∨ r.kind = .set) :
    target.decode .second r = .error (.mismatch .array r.kind) := by
  obtain ⟨collect, hcollect⟩ := h.exists_map
  rw [hcollect]
  cases r with
  | map entries => rfl
  | set items => rfl
  | _ => rcases hr with hr | hr <;> cases hr

/-! ## Elements one by one -/

theorem decode_list_array (hs : s.pairsUp = false) (revision : Revision) (items : List Reply) :
    (Shape.list s).decode revision (.array items) = items.mapM (s.decoder revision).reply := by
  show (s.decoder revision).items items = _
  rw [decoder_eq_ofReply hs]
  rfl

theorem decode_array_eq_error_iff (h : s.IsCollectionOf target) (hs : s.pairsUp = false)
    {e : Error} :
    target.decode revision (.array items) = .error e ↔ ∃ before item after,
      items = before ++ item :: after ∧
        (∀ earlier ∈ before, ∃ value, (s.decoder revision).reply earlier = .ok value) ∧
        (s.decoder revision).reply item = .error e := by
  obtain ⟨collect, hcollect⟩ := h.exists_map
  have hsequence : (s.decoder revision).sequence revision (Reply.array items).withoutAttributes =
      items.mapM (s.decoder revision).reply := decode_list_array hs revision items
  rw [hcollect, map_eq_error_iff, hsequence, mapM_eq_error_iff]

/-- A set of results that have an order holds what the list of them holds. -/
theorem exists_list_of_decode_set (hs : s.IsKey) {sorted : List s.Carrier}
    (h : (Shape.set s).decode revision r = .ok sorted) :
    ∃ values, (Shape.list s).decode revision r = .ok values ∧ HoldsItems values sorted := by
  obtain ⟨values, hvalues, rfl⟩ := map_eq_ok_iff.1 h
  exact ⟨values, hvalues, holdsItems_ofItems (sortKey_injective s hs) values⟩

/-- Under the third revision a list or a set of results is the same from a set and from the array of
its items and, if the results are not made of two parts, from a map and from the array of its keys
and values. These are then read one by one: a list has one value for each element, in order, and if
there is none, the error is that of the first element that fails. Sets of results that have an order
hold what the lists hold. Under the second revision sets and maps are refused by their kind. -/
theorem decode_collections_alike (s target : Shape) (h : s.IsCollectionOf target) :
    (∀ items, target.decode .third (.set items) = target.decode .third (.array items)) ∧
    (∀ items, target.decode .second (.set items) = .error (.mismatch .array .set)) ∧
    (∀ entries, target.decode .second (.map entries) = .error (.mismatch .array .map)) ∧
    (s.pairsUp = false → ∀ entries, target.decode .third (.map entries) =
      target.decode .third (.array (flattened entries))) ∧
    (s.pairsUp = false → ∀ revision items,
      (∀ values : List s.Carrier, (Shape.list s).decode revision (.array items) = .ok values ↔
        List.Forall₂ (fun item value => (s.decoder revision).reply item = .ok value) items values) ∧
      ∀ e, target.decode revision (.array items) = .error e ↔ ∃ before item after,
        items = before ++ item :: after ∧
          (∀ earlier ∈ before, ∃ value, (s.decoder revision).reply earlier = .ok value) ∧
          (s.decoder revision).reply item = .error e) ∧
    (s.IsKey → ∀ revision r sorted, (Shape.set s).decode revision r = .ok sorted →
      ∃ values, (Shape.list s).decode revision r = .ok values ∧ HoldsItems values sorted) := by
  refine ⟨decode_set_eq_array h, fun items => decode_second_refused h (Or.inr rfl),
    fun entries => decode_second_refused h (Or.inl rfl), decode_map_eq_array h,
    fun hs revision items => ⟨fun values => ?_, fun e => decode_array_eq_error_iff h hs⟩,
    fun hs revision r sorted => exists_list_of_decode_set hs⟩
  rw [decode_list_array hs]
  exact mapM_eq_ok_iff

/-- Optional pairs are not read two by two, although pairs are. A pair that comes twice and a null
make a set of two; behind them a string, which is no pair, is the first element that fails. -/
theorem decode_collections_alike_optional :
    let pair : Reply := .array [.bulk [97], .bulk [98]]
    let entries : List (Reply × Reply) := [(pair, .null), (.array [pair], .null)]
    let failing := entries ++ [(.bulk [99], .error [69])]
    let s : Shape := .optional (.pair .string .string)
    let sorted : List (Option (String × String)) := [none, some ("a", "b")]
    let refused : Error := .mismatch .array .string
    s.pairsUp = false ∧ s.IsKey ∧
      (Shape.set s).decode .third (.map entries) = .ok sorted ∧
      (Shape.set s).decode .third (.set (flattened entries)) = .ok sorted ∧
      (∃ values, (Shape.list s).decode .third (.map entries) = .ok values ∧
        HoldsItems values sorted) ∧
      (Shape.list s).decode .third (.map failing) = .error refused ∧
      (Shape.set s).decode .second (.map failing) = .error (.mismatch .array .map) := by
  intro pair entries failing s sorted refused
  obtain ⟨hset, -, hrefused, hmap, -, hlist⟩ := decode_collections_alike s (.set s) .set
  obtain ⟨-, -, -, hmap', hread, -⟩ := decode_collections_alike s (.list s) .list
  have hsorted : (Shape.set s).decode .third (.map entries) = .ok sorted := rfl
  -- the four elements before the string have values, so its error is the error of the list
  have hfailing := ((hread rfl .third (flattened failing)).2 refused).2
    ⟨flattened entries, .bulk [99], [.error [69]], rfl, by
      simp only [entries, flattened, List.flatMap_cons, List.flatMap_nil, List.append_nil,
        List.cons_append, List.nil_append, List.forall_mem_cons]
      exact ⟨⟨_, rfl⟩, ⟨_, rfl⟩, ⟨_, rfl⟩, ⟨_, rfl⟩, List.forall_mem_nil _⟩, rfl⟩
  refine ⟨rfl, ⟨trivial, trivial⟩, hsorted, ?_, hlist ⟨trivial, trivial⟩ .third _ _ hsorted,
    (hmap' rfl failing).trans hfailing, hrefused failing⟩
  rw [hset, ← hmap rfl, hsorted]

end Shape

end RespClient
