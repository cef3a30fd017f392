import RespClient.Proofs.Reply.Rewriting

/-!
# Loosely typed values in all forms of a reply

A rewriting of replies keeps the loosely typed value if it keeps the value of each node and what
stands for the names of its members (`Json.ofReply_rewrite`). So it makes no difference whether a
reply has maps or flat arrays, push messages or arrays, and which kind of strings
(`Shape.decode_flatForm`). Attributes make no difference, either, where they annotate no name
(`Shape.decode_stripped`). On a name they do (`Shape.decode_annotated_name`).
-/

set_option autoImplicit false

namespace RespClient

open Reply

namespace Json

/-! ## Collections with rewritten parts -/

variable {g : Reply → Reply} {items : List Reply} {entries : List (Reply × Reply)}

theorem isObject_eq_true_iff :
    isObject items = true ↔
      items.length % 2 = 0 ∧ ∀ parts ∈ adjacentPairs items, isName parts.1 := by
  rw [isObject, Bool.and_eq_true, decide_eq_true_iff, List.all_eq_true]

theorem isObject_map_iff :
    isObject (items.map g) = true ↔
      items.length % 2 = 0 ∧ ∀ parts ∈ adjacentPairs items, isName (g parts.1) := by
  rw [isObject_eq_true_iff, List.length_map, adjacentPairs_map, List.forall_mem_map]
  rfl

theorem isName_congr {name name' : Reply} (h : name'.text? = name.text?) :
    isName name' = isName name :=
  congrArg Option.isSome h

/-- A name is read from its text alone. -/
theorem readName_congr {name name' : Reply} (h : name'.text? = name.text?) (hname : isName name) :
    readName name' = readName name := by
  obtain ⟨text, htext⟩ := Option.isSome_iff_exists.1 hname
  rw [readName, readName, h, htext]

theorem ofMember_congr {parts : Reply × Reply} (hname : readName (g parts.1) = readName parts.1)
    (hvalue : ofReply (g parts.2) = ofReply parts.2) :
    ofMember (parts.map g g) = ofMember parts := by
  rw [ofMember, ofMember, Prod.map, hname, hvalue]

theorem ofItems_map (h : ∀ item ∈ items, ofReply (g item) = ofReply item) :
    ofItems (items.map g) = ofItems items := by
  rw [ofItems_eq_mapM, ofItems_eq_mapM, List.mapM_map]
  exact mapM_congr h

theorem ofPairs_map (h : ∀ item ∈ items, ofReply (g item) = ofReply item)
    (hnames : ∀ parts ∈ adjacentPairs items, readName (g parts.1) = readName parts.1) :
    ofPairs (items.map g) = ofPairs items := by
  rw [ofPairs_eq_mapM, ofPairs_eq_mapM, adjacentPairs_map, List.mapM_map]
  refine mapM_congr fun parts hparts => ?_
  exact ofMember_congr (hnames parts hparts) (h _ (mem_of_mem_adjacentPairs hparts).2)

theorem ofEntries_map (h : ∀ entry ∈ entries, ofReply (g entry.2) = ofReply entry.2)
    (hnames : ∀ entry ∈ entries, readName (g entry.1) = readName entry.1) :
    ofEntries (entries.map (Prod.map g g)) = ofEntries entries := by
  rw [ofEntries_eq_mapM, ofEntries_eq_mapM, List.mapM_map]
  exact mapM_congr fun entry hentry => ofMember_congr (hnames entry hentry) (h entry hentry)

/-- An array keeps its value when its items keep theirs, strings keep their text, and no list
becomes an object. -/
theorem ofReply_array_map (htext : ∀ r, isName r → (g r).text? = r.text?)
    (h : ∀ item ∈ items, ofReply (g item) = ofReply item)
    (hobject : isObject (items.map g) = true → isObject items = true) :
    ofReply (.array (items.map g)) = ofReply (.array items) := by
  rw [ofReply, ofReply, ofItems_map h]
  -- an object stays one because its names keep their text; that a list stays one is a hypothesis
  by_cases hitems : isObject items = true
  · obtain ⟨heven, hnames⟩ := isObject_eq_true_iff.1 hitems
    have hmap : isObject (items.map g) = true := by
      refine isObject_map_iff.2 ⟨heven, fun parts hparts => ?_⟩
      rw [isName_congr (htext _ (hnames parts hparts))]
      exact hnames parts hparts
    rw [if_pos hitems, if_pos hmap, ofPairs_map h]
    intro parts hparts
    exact readName_congr (htext _ (hnames parts hparts)) (hnames parts hparts)
  · rw [if_neg hitems, if_neg fun hmap => hitems (hobject hmap)]

/-- A collection keeps its value when its parts keep theirs, strings keep their text, no list
becomes an object, and the keys of a map are read as before. -/
theorem ofReply_mapParts (r : Reply) (htext : ∀ r, isName r → (g r).text? = r.text?)
    (h : ∀ c ∈ r.children, ofReply (g c) = ofReply c)
    (hobject : ∀ items, r = .array items ∨ r = .push items →
      isObject (items.map g) = true → isObject items = true)
    (hkeys : ∀ entries, r = .map entries →
      ∀ entry ∈ entries, readName (g entry.1) = readName entry.1) :
    ofReply (r.mapParts g) = ofReply r := by
  induction r using Reply.induction with
  | array items => exact ofReply_array_map htext h (hobject items (Or.inl rfl))
  | push items => exact ofReply_array_map htext h (hobject items (Or.inr rfl))
  | set items => exact congrArg (Except.map Json.array) (ofItems_map h)
  | map entries =>
      have hvalues : ∀ entry ∈ entries, ofReply (g entry.2) = ofReply entry.2 := fun entry hentry =>
        h _ (mem_flattened_iff.2 ⟨entry, hentry, Or.inr rfl⟩)
      rw [mapParts, ofReply, ofReply, ofEntries_map hvalues (hkeys entries rfl)]
  | withAttributes attributes value =>
      rw [mapParts, ofReply, ofReply]
      exact h value List.mem_cons_self
  | _ => rfl

/-- A rewriting keeps the value of a reply if it keeps that of every node with its parts rewritten,
the text of strings, what lists there are, and the keys of maps. -/
theorem ofReply_rewrite {f : Reply → Reply} (t : Reply)
    (htext : ∀ r, isName r → (r.rewrite f).text? = r.text?)
    (hnode : ∀ node, Inside node t →
      ofReply (f (node.mapParts (rewrite f))) = ofReply (node.mapParts (rewrite f)))
    (hobject : ∀ items, Inside (.array items) t ∨ Inside (.push items) t →
      isObject (items.map (rewrite f)) = true → isObject items = true)
    (hkeys : ∀ entries, Inside (.map entries) t →
      ∀ entry ∈ entries, readName (entry.1.rewrite f) = readName entry.1) :
    ofReply (t.rewrite f) = ofReply t := by
  -- what attributes hold is no child: it is rewritten, too, but it is not read
  induction t using Reply.childInduction with
  | h t ih =>
      have hparts : ∀ c ∈ t.children, ofReply (c.rewrite f) = ofReply c := fun c hc =>
        ih c hc (fun node h => hnode node (.child hc h))
          (fun items h => hobject items (h.imp (.child hc) (.child hc)))
          (fun entries h => hkeys entries (.child hc h))
      calc ofReply (t.rewrite f)
          = ofReply (f (t.mapParts (rewrite f))) := by rw [rewrite_eq]
        _ = ofReply (t.mapParts (rewrite f)) := hnode t .self
        _ = ofReply t := by
            refine ofReply_mapParts t htext hparts (fun items hitems => ?_) ?_
            · rcases hitems with rfl | rfl
              · exact hobject items (Or.inl .self)
              · exact hobject items (Or.inr .self)
            · rintro entries rfl
              exact hkeys entries .self

theorem ofReply_withoutAttributes (t : Reply) : ofReply t.withoutAttributes = ofReply t := by
  induction t using Reply.induction with
  | withAttributes attributes value _ ih => exact ih
  | _ => rfl

/-! ## Maps and flat arrays -/

theorem text?_flatForm (r : Reply) : r.flatForm.text? = r.text? := by
  rw [flatForm, rewrite_eq]
  cases r <;> rfl

/-- A map whose keys are strings and the flat array of its entries are one object. -/
theorem ofReply_array_flattened (h : ∀ entry ∈ entries, isName entry.1) :
    ofReply (.array (flattened entries)) = ofReply (.map entries) := by
  have heven : (flattened entries).length % 2 = 0 := by
    rw [length_flattened]
    omega
  have hobject : isObject (flattened entries) = true := by
    rw [isObject_eq_true_iff, adjacentPairs_flattened]
    exact ⟨heven, h⟩
  rw [ofReply, ofReply, if_pos hobject, ofPairs_eq_mapM, adjacentPairs_flattened,
    ofEntries_eq_mapM]

theorem ofReply_flatForm (t : Reply)
    (h : ∀ entries, Inside (.map entries) t → ∀ entry ∈ entries, isName entry.1) :
    ofReply t.flatForm = ofReply t := by
  refine ofReply_rewrite t (fun r _ => text?_flatForm r) (fun node hnode => ?_) ?_ ?_
  · induction node using Reply.induction with
    | map entries =>
        refine ofReply_array_flattened (List.forall_mem_map.2 fun entry hentry => ?_)
        exact (isName_congr (text?_flatForm entry.1)).trans (h entries hnode entry hentry)
    | _ => rfl
  · intro items _ hobject
    obtain ⟨heven, hnames⟩ := isObject_map_iff.1 hobject
    refine isObject_eq_true_iff.2 ⟨heven, fun parts hparts => ?_⟩
    exact (isName_congr (text?_flatForm parts.1)).symm.trans (hnames parts hparts)
  · intro entries hentries entry hentry
    exact readName_congr (text?_flatForm entry.1) (h entries hentries entry hentry)

/-! ## Attributes -/

/-- The names of the members of a reply that is an object without its attributes. -/
def names : Reply → List Reply
  | .array items =>
    if isObject (items.map stripped) then (adjacentPairs items).map Prod.fst else []
  | .push items =>
    if isObject (items.map stripped) then (adjacentPairs items).map Prod.fst else []
  | .map entries => entries.map Prod.fst
  | _ => []

theorem text?_stripped {r : Reply} (h : r.kind ≠ .attribute) : r.stripped.text? = r.text? := by
  rw [stripped, rewrite_eq]
  induction r using Reply.induction with
  | withAttributes attributes value => exact absurd rfl h
  | _ => rfl

theorem unexpected_stripped {r : Reply} (h : r.kind ≠ .attribute) (expected : Expected) :
    Error.unexpected expected r.stripped = .unexpected expected r := by
  rw [stripped, rewrite_eq]
  induction r using Reply.induction with
  | withAttributes attributes value => exact absurd rfl h
  | _ => rfl

theorem isName_of_stripped {r : Reply} (h : r.kind ≠ .attribute) (hname : isName r.stripped) :
    isName r :=
  (isName_congr (text?_stripped h)).symm.trans hname

theorem kind_ne_attribute_of_isName {r : Reply} (h : isName r) : r.kind ≠ .attribute := by
  induction r using Reply.induction with
  | withAttributes attributes value => cases h
  | _ => exact nofun

/-- The value does not depend on attributes that annotate no name. -/
theorem ofReply_stripped (t : Reply)
    (h : ∀ node, Inside node t → ∀ name ∈ names node, name.kind ≠ .attribute) :
    ofReply t.stripped = ofReply t := by
  have hobject (items : List Reply) (hitems : ∀ name ∈ names (.array items), name.kind ≠ .attribute)
      (hstripped : isObject (items.map stripped) = true) : isObject items = true := by
    obtain ⟨heven, hnames⟩ := isObject_map_iff.1 hstripped
    rw [names, if_pos hstripped, List.forall_mem_map] at hitems
    exact isObject_eq_true_iff.2 ⟨heven, fun parts hparts =>
      isName_of_stripped (hitems parts hparts) (hnames parts hparts)⟩
  -- under an attribute a name shows its text only once it is stripped, which `h` rules out
  refine ofReply_rewrite t (fun r hr => text?_stripped (kind_ne_attribute_of_isName hr))
    (fun node _ => ?_) ?_ ?_
  · cases node <;> rfl
  · rintro items (hitems | hitems)
    · exact hobject items (h (.array items) hitems)
    · exact hobject items (h (.push items) hitems)
  · intro entries hentries entry hentry
    have hkey : entry.1.kind ≠ .attribute := h _ hentries _ (List.mem_map_of_mem hentry)
    rw [readName, readName, ← stripped, text?_stripped hkey, unexpected_stripped hkey]

end Json

namespace Shape

open Json

theorem decode_json (revision : Revision) (t : Reply) :
    Shape.json.decode revision t = ofReply t :=
  ofReply_withoutAttributes t

/-- A reply in which the keys of all maps are strings gives the loosely typed value of its flat
form, members in the same order, or the same error. The revision makes no difference. -/
theorem decode_flatForm (t : Reply)
    (h : ∀ entries, Inside (.map entries) t → ∀ entry ∈ entries, isName entry.1)
    (revision revision' : Revision) :
    Shape.json.decode revision t = Shape.json.decode revision' t.flatForm := by
  rw [decode_json, decode_json, ofReply_flatForm t h]

/-- A map with a push message that is an object, too, and a set that is none. -/
theorem decode_flatForm_nested :
    let word : TextFormat := ⟨116, 120, 116⟩
    let t : Reply := .map [(.simple [97], .push [.verbatim word [98], .set [.map [], .null]])]
    let value : Json :=
      .object [("a", .object [("b", .array [.object [], .null])])]
    (∀ entries, Inside (.map entries) t → ∀ entry ∈ entries, isName entry.1) ∧
      t.flatForm = .array [.bulk [97], .array [.bulk [98], .set [.array [], .null]]] ∧
      Shape.json.decode .third t = .ok value ∧
      Shape.json.decode .second t.flatForm = .ok value := by
  intro word t value
  have hnames : ∀ entries, Inside (.map entries) t → ∀ entry ∈ entries, isName entry.1 := by
    have hkeys : ∀ node ∈ t.nodes, node.kind = .map → ∀ name ∈ names node, isName name := by
      decide
    intro entries h entry hentry
    exact hkeys _ h.mem_nodes rfl _ (List.mem_map_of_mem hentry)
  have hvalue : Shape.json.decode .third t = .ok value := by
    subst t word value
    rfl
  exact ⟨hnames, rfl, hvalue, (decode_flatForm t hnames .third .second).symm.trans hvalue⟩

/-- A reply gives the loosely typed value that it gives without attributes, or the same error, if no
attribute stands on the name of a member: on the key of a map, or on the name of a member of what is
an object without attributes. -/
theorem decode_stripped (t : Reply)
    (h : ∀ node, Inside node t → ∀ name ∈ names node, name.kind ≠ .attribute)
    (revision : Revision) :
    Shape.json.decode revision t = Shape.json.decode revision t.stripped := by
  rw [decode_json, decode_json, ofReply_stripped t h]

/-- Attributes on the object, and on the value of its member. -/
theorem decode_stripped_value :
    let attributes : List (Reply × Reply) := [(.bulk [107], .null)]
    let t : Reply := .attribute attributes (.array [.bulk [97], .attribute attributes (.bulk [98])])
    let value : Json := .object [("a", .string "b")]
    (∀ node, Inside node t → ∀ name ∈ names node, name.kind ≠ .attribute) ∧
      Shape.json.decode .second t = .ok value ∧
      Shape.json.decode .second t.stripped = .ok value := by
  intro attributes t value
  have hnames : ∀ node, Inside node t → ∀ name ∈ names node, name.kind ≠ .attribute := by
    have hnodes : ∀ node ∈ t.nodes, ∀ name ∈ names node, name.kind ≠ .attribute := by
      decide
    exact fun node h => hnodes node h.mem_nodes
  have hvalue : Shape.json.decode .second t = .ok value := by
    subst t attributes value
    rfl
  exact ⟨hnames, hvalue, (decode_stripped t hnames .second).symm.trans hvalue⟩

/-- An attribute on the name of a member makes a list of an object in an array, and is an error in a
map. -/
theorem decode_annotated_name :
    let attributes : List (Reply × Reply) := [(.bulk [107], .null)]
    let name : Reply := .attribute attributes (.bulk [97])
    let array : Reply := .array [name, .bulk [98]]
    let map : Reply := .map [(name, .bulk [98])]
    let value : Json := .object [("a", .string "b")]
    Shape.json.decode .third array = .ok (.array [.string "a", .string "b"]) ∧
      Shape.json.decode .third array.stripped = .ok value ∧
      Shape.json.decode .third map = .error (.mismatch .string .attribute) ∧
      Shape.json.decode .third map.stripped = .ok value ∧
      ¬ ∀ (t : Reply) (revision : Revision),
        Shape.json.decode revision t = Shape.json.decode revision t.stripped := by
  intro attributes name array map value
  have harray : Shape.json.decode .third array = .ok (.array [.string "a", .string "b"]) := by
    subst array name attributes
    rfl
  have hobject : Shape.json.decode .third array.stripped = .ok value := by
    subst array name attributes value
    rfl
  refine ⟨harray, hobject, rfl, rfl, fun h => ?_⟩
  have hequal : Except.ok (Json.array [.string "a", .string "b"]) = .ok value :=
    harray.symm.trans ((h array .third).trans hobject)
  exact nomatch Except.ok.inj hequal

end Shape

end RespClient
