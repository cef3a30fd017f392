import RespClient.Proofs.Json.Text
import RespClient.Shape.Decoding

/-!
# Round trips of loosely typed values

A value whose names do not repeat comes back from its text as it was, up to the order of members and
the sign of zero (`Json.ofText_text_unique`). A name that repeats does not: looking it up finds the
first member of that name, but the text keeps the last (`Json.get?_ofText_text`).
-/

set_option autoImplicit false

namespace RespClient

namespace Json

/-- The value with the members of every object sorted by the octets of their names, and with zero
for the negative zero. -/
def inOctetOrder (v : Json) : Json := v.rebuild Binary.plainZero sortByOctets

theorem readBack_eq_inOctetOrder {v : Json} (hnames : ∀ node ∈ v.nodes, node.HasUniqueNames) :
    v.readBack = v.inOctetOrder := by
  induction v using Json.induction with
  | array items ih =>
      have hitems : items.map readBack = items.map inOctetOrder :=
        List.map_congr_left fun item hitem => ih item hitem fun node hnode =>
          hnames node (nodes_subset_of_mem_items hitem hnode)
      rw [readBack, rebuild_array, inOctetOrder, rebuild_array]
      exact congrArg array hitems
  | object members ih =>
      have hmembers : members.map (Prod.map id readBack) = members.map (Prod.map id inOctetOrder) :=
        List.map_congr_left fun member hmember => Prod.ext rfl (ih member hmember
          fun node hnode => hnames node (nodes_subset_of_mem_members hmember hnode))
      have hunique : ((members.map (Prod.map id inOctetOrder)).map Prod.fst).Nodup := by
        rw [List.map_map]
        exact hnames _ (self_mem_nodes _)
      rw [readBack, rebuild_object, inOctetOrder, rebuild_object]
      show object (sortMembers (members.map (Prod.map id readBack))) =
        object (sortByOctets (members.map (Prod.map id inOctetOrder)))
      rw [hmembers, sortMembers_eq_sortByOctets hunique]
  | _ => rfl

/-- A value of at most 127 arrays and objects inside one another, in which no object repeats a name
and all numbers are whole and below two to the power of 53, is read back from its text, with the
members of every object sorted by the octets of their names and with zero for the negative zero. -/
theorem ofText_text_unique {v : Json} (hdepth : v.depth ≤ 127)
    (hnames : ∀ node ∈ v.nodes, node.HasUniqueNames)
    (hwhole : ∀ node ∈ v.nodes, node.HasWholeNumber) : ofText v.text = .ok v.inOctetOrder := by
  rw [ofText_text hwhole hdepth, readBack_eq_inOctetOrder hnames]

/-- Names of three and of four octets, a negative zero, a negative number, and a text with a quote
and a control character. -/
theorem ofText_text_unique_nested :
    let v : Json := .object [("𝄞", .array [.number (.ofRank true 0), .string "\"\x01é"]),
      ("｡", .object [("b", .null), ("a", .number (.ofInt (-7)))])]
    v.inOctetOrder.write =
        "\x7b\"｡\":\x7b\"a\":-7,\"b\":null\x7d,\"𝄞\":[0,\"\\\"\\u0001é\"]\x7d".toList ∧
      ofText v.text = .ok v.inOctetOrder := by
  intro v
  have hwhole : ∀ node ∈ v.nodes, node.HasWholeNumber := by decide +kernel
  exact ⟨by decide +kernel, ofText_text_unique (by decide) (by decide) hwhole⟩

/-! ## Members after a round trip -/

/-- The value of the last member with the given name. -/
def getLast? (value : Json) (name : String) : Option Json :=
  match value with
  | .object members => lookupFirst name members.reverse
  | _ => none

/-- The names of the members, in order. -/
def memberNames : Json → List String
  | .object members => members.map Prod.fst
  | _ => []

variable {v : Json} {name : String}

theorem getLast?_eq_get? (h : v.memberNames.count name ≤ 1) : v.getLast? name = v.get? name := by
  cases v with
  | object members => exact lookupFirst_reverse h
  | _ => rfl

theorem get?_readBack (v : Json) (name : String) :
    v.readBack.get? name = (v.getLast? name).map readBack := by
  cases v with
  | object members =>
      rw [readBack, rebuild_object, sortMembers_map]
      show lookupFirst name ((sortMembers members).map (Prod.map id readBack)) =
        (lookupFirst name members.reverse).map readBack
      rw [lookupFirst_map, sortMembers, lookupFirst_ofEntries Shape.ofString_injective]
  | _ => rfl

theorem exists_members_of_getLast? {m : Json} (h : v.getLast? name = some m) :
    ∃ members, v = .object members ∧ (name, m) ∈ members := by
  cases v with
  | object members => exact ⟨members, rfl, List.mem_reverse.1 (mem_of_lookupFirst h)⟩
  | _ => cases h

/-- After a trip through its text a value has the members that it had last of each name, each after
a trip of its own. So looking up a name that does not repeat is not changed by the trip. -/
theorem get?_ofText_text (hdepth : v.depth ≤ 127)
    (hwhole : ∀ node ∈ v.nodes, node.HasWholeNumber) :
    ∃ v', ofText v.text = .ok v' ∧ ∀ name,
      (v'.get? name).map Except.ok = (v.getLast? name).map (fun m => ofText m.text) ∧
      (v.memberNames.count name ≤ 1 →
        (v'.get? name).map Except.ok = (v.get? name).map fun m => ofText m.text) := by
  refine ⟨v.readBack, ofText_text hwhole hdepth, fun name => ?_⟩
  have hlast : (v.readBack.get? name).map Except.ok =
      (v.getLast? name).map fun m => ofText m.text := by
    rw [get?_readBack, Option.map_map]
    refine Option.map_congr fun m hm => ?_
    obtain ⟨members, rfl, hmember⟩ := exists_members_of_getLast? hm
    have hlt := depth_lt_of_mem_members hmember
    exact (ofText_text
      (fun node hnode => hwhole node (nodes_subset_of_mem_members hmember hnode))
      (Nat.le_trans (Nat.le_of_lt hlt) hdepth)).symm
  exact ⟨hlast, fun hcount => by rw [hlast, getLast?_eq_get? hcount]⟩

/-- One name that repeats, with different values, and one that does not. -/
theorem get?_ofText_text_repeated :
    let v : Json := .object [("a", .string "x"), ("b", .number (.ofInt 2)), ("a", .null)]
    ∃ v', ofText v.text = .ok v' ∧ v'.get? "a" = some .null ∧
      (v'.get? "b").map Except.ok = some (ofText (Json.number (.ofInt 2)).text) := by
  intro v
  have hwhole : ∀ node ∈ v.nodes, node.HasWholeNumber := by decide +kernel
  obtain ⟨v', hv', hget⟩ := get?_ofText_text (v := v) (by decide) hwhole
  refine ⟨v', hv', ?_, (hget "b").2 (by decide)⟩
  have hnull : (v'.get? "a").map Except.ok = some (ofText Json.null.text) := (hget "a").1
  rw [ofText_text (v := .null) (by decide) (by decide)] at hnull
  obtain ⟨m, hm, hok⟩ := Option.map_eq_some_iff.1 hnull
  rw [hm, Except.ok.inj hok]
  rfl

end Json

namespace Shape

open Json

/-- A map gives an object that repeats a name, and its text keeps the other member of that name than
the one that is looked up. -/
theorem decode_json_repeated :
    let t : Reply := .map [(.bulk [97], .bulk [120]), (.bulk [97], .bulk [121])]
    let v : Json := .object [("a", .string "x"), ("a", .string "y")]
    Shape.json.decode .third t = .ok v ∧ v.get? "a" = some (.string "x") ∧
      ofText v.text = .ok (.object [("a", .string "y")]) ∧
      ¬ ∀ (t : Reply) (v : Json), Shape.json.decode .third t = .ok v → v.depth ≤ 127 →
        (∀ node ∈ v.nodes, node.HasWholeNumber) → ∀ name, ∃ v', ofText v.text = .ok v' ∧
          (v'.get? name).map Except.ok = (v.get? name).map fun m => ofText m.text := by
  intro t v
  have hdecode : Shape.json.decode .third t = .ok v := rfl
  have hfirst : v.get? "a" = some (.string "x") := rfl
  have htext : ofText v.text = .ok (.object [("a", .string "y")]) :=
    ofText_text (v := v) (by decide) (by decide)
  refine ⟨hdecode, hfirst, htext, fun h => ?_⟩
  obtain ⟨v', hv', hget⟩ := h t v hdecode (by decide) (by decide) "a"
  obtain rfl := Except.ok.inj (htext.symm.trans hv')
  rw [hfirst, Option.map_some, ofText_text (v := .string "x") (by decide) (by decide)] at hget
  have hequal : Json.string "y" = .string "x" := Except.ok.inj (Option.some.inj hget)
  exact absurd (Json.string.inj hequal) (by decide)

end Shape

end RespClient
