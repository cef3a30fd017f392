import RespClient.Proofs.Json.Members
import RespClient.Proofs.Json.Scalars
import RespClient.Proofs.Json.Values

/-!
# JSON text read back

The text of a value is read as the value again, up to what the text does not keep: members come in
the order of their names, each name once with its last value, and the sign of zero is lost
(`ofText_text`). `Reads` says that one text is read as one value, and each array and object is read
when its parts are.
-/

set_option autoImplicit false

namespace RespClient.Json

/-- If the value is a number, it is whole and below two to the power of 53. -/
def HasWholeNumber : Json → Prop
  | .number x => IsWhole x
  | _ => True

/-- No two members of an object have one name. -/
def HasUniqueNames : Json → Prop
  | .object members => (members.map Prod.fst).Nodup
  | _ => True

instance : DecidablePred HasWholeNumber
  | .null => isTrue trivial
  | .bool _ => isTrue trivial
  | .number x => inferInstanceAs (Decidable (IsWhole x))
  | .string _ => isTrue trivial
  | .array _ => isTrue trivial
  | .object _ => isTrue trivial

instance : DecidablePred HasUniqueNames
  | .null => isTrue trivial
  | .bool _ => isTrue trivial
  | .number _ => isTrue trivial
  | .string _ => isTrue trivial
  | .array _ => isTrue trivial
  | .object members => inferInstanceAs (Decidable (members.map Prod.fst).Nodup)

/-- What the text of a value is read as. -/
def readBack (v : Json) : Json := v.rebuild Binary.plainZero sortMembers

variable {depth fuel : Nat} {rest : List Char}

/-! ## One value -/

/-- The text of `w`, inside `depth` arrays and objects, is read as `value` whatever follows it. -/
structure Reads (depth : Nat) (w value : Json) : Prop where
  starts : ∃ c text, w.write = c :: text ∧ isSpace c = false ∧ c ≠ ']'
  reads : ∀ {fuel rest}, w.write.length ≤ fuel → EndsNumber rest →
    takeValue? fuel depth (w.write ++ rest) = some (value, rest)

theorem endsNumber_nil : EndsNumber [] := nofun

theorem skipSpace_cons {c : Char} (h : isSpace c = false) (text : List Char) :
    skipSpace (c :: text) = c :: text := List.dropWhile_cons_of_neg (by simp [h])

theorem Reads.skipSpace_write {w value : Json} (h : Reads depth w value) (rest : List Char) :
    skipSpace (w.write ++ rest) = w.write ++ rest := by
  obtain ⟨c, text, hwrite, hc, -⟩ := h.starts
  rw [hwrite, List.cons_append, skipSpace_cons hc]

/-- No text is empty, so there is fuel for one call at least. -/
theorem Reads.of_succ {w value : Json}
    (starts : ∃ c text, w.write = c :: text ∧ isSpace c = false ∧ c ≠ ']')
    (reads : ∀ {fuel rest}, w.write.length ≤ fuel + 1 → EndsNumber rest →
      takeValue? (fuel + 1) depth (w.write ++ rest) = some (value, rest)) :
    Reads depth w value := by
  refine ⟨starts, fun {fuel rest} hfuel hrest => ?_⟩
  obtain ⟨c, text, hwrite, -⟩ := starts
  cases fuel with
  | zero =>
      rw [hwrite] at hfuel
      cases hfuel
  | succ fuel => exact reads hfuel hrest

theorem reads_null : Reads depth .null .null :=
  .of_succ ⟨_, _, rfl, rfl, by decide⟩ fun _ _ => rfl

theorem reads_bool (b : Bool) : Reads depth (.bool b) (.bool b) := by
  cases b with
  | false => exact .of_succ ⟨_, _, rfl, rfl, by decide⟩ fun _ _ => rfl
  | true => exact .of_succ ⟨_, _, rfl, rfl, by decide⟩ fun _ _ => rfl

theorem reads_string (text : String) : Reads depth (.string text) (.string text) := by
  refine .of_succ ⟨_, _, rfl, rfl, by decide⟩ fun {fuel rest} _ _ => ?_
  have hwrite : write (.string text) ++ rest =
      '"' :: (text.toList.flatMap writeChar ++ '"' :: rest) := by
    simp [write, writeString]
  rw [hwrite, takeValue?, skipSpace_cons rfl]
  simp only [takeString?_flatMap, Option.map_some, String.ofList_toList]

/-- A value that begins with none of the marks of other values is a number. -/
theorem takeValue?_number {c : Char} {text : List Char} (hspace : isSpace c = false)
    (hc : c ∉ ['"', '[', '\x7b', 'n', 't', 'f']) :
    takeValue? (fuel + 1) depth (c :: text) =
      (takeNumber? (c :: text)).map fun parts => (.number parts.1, parts.2) := by
  rw [takeValue?, skipSpace_cons hspace]
  split <;> simp_all

theorem reads_number {x : Double} (h : IsWhole x) :
    Reads depth (.number x) (.number x.plainZero) := by
  obtain ⟨n, -, -, hwrite⟩ := h.exists_writeNumber_eq
  obtain ⟨c, text, hcons⟩ := List.exists_cons_of_ne_nil (Decimal.ofInt_ne_nil n)
  have hc : c ∈ Decimal.ofInt n := by simp [hcons]
  -- the text begins with a minus sign or a digit, so not like any other value
  have hmark : ∀ {d : Char}, d ≠ '-' → d.isDigit = false → c ≠ d := by
    rintro d hminus hdigit rfl
    exact Decimal.not_mem_ofInt hminus hdigit hc
  have hspace : isSpace c = false := by simp [isSpace, hmark]
  rw [hcons] at hwrite
  refine .of_succ ⟨c, text, hwrite, hspace, hmark (by decide) rfl⟩ fun {fuel rest} _ hrest => ?_
  have htake := h.takeNumber?_writeNumber hrest
  rw [hwrite] at htake
  rw [write, hwrite, List.cons_append, takeValue?_number hspace (by simp [hmark]),
    ← List.cons_append, htake, Option.map_some]

/-! ## Items and members -/

theorem endsNumber_writeItems (items : List Json) (rest : List Char) :
    EndsNumber (writeItems items ++ rest) := by
  cases items with
  | nil =>
      rintro c ⟨⟩
      decide
  | cons item items =>
      rintro c ⟨⟩
      decide

theorem endsNumber_writeMembers (members : List (String × Json)) (rest : List Char) :
    EndsNumber (writeMembers members ++ rest) := by
  cases members with
  | nil =>
      rintro c ⟨⟩
      decide
  | cons member members =>
      rintro c ⟨⟩
      decide

theorem takeItems?_write {items values : List Json}
    (hitems : List.Forall₂ (Reads depth) items values) :
    ∀ {item value : Json} {fuel : Nat} {rest : List Char}, Reads depth item value →
      (item.write ++ writeItems items).length ≤ fuel →
        takeItems? fuel depth (item.write ++ (writeItems items ++ rest)) =
          some (value :: values, rest) := by
  induction hitems with
  | nil =>
      intro item value fuel rest hitem hfuel
      cases fuel with
      | zero => simp [writeItems] at hfuel
      | succ fuel =>
          have htake : takeValue? fuel depth (item.write ++ (writeItems [] ++ rest)) =
              some (value, writeItems [] ++ rest) :=
            hitem.reads (by simpa [writeItems] using hfuel) (endsNumber_writeItems [] rest)
          rw [takeItems?, htake]
          rfl
  | @cons next nextValue items values hnext _ ih =>
      intro item value fuel rest hitem hfuel
      rw [writeItems, List.length_append, List.length_cons] at hfuel
      cases fuel with
      | zero => omega
      | succ fuel =>
          have htake : takeValue? fuel depth (item.write ++ (writeItems (next :: items) ++ rest)) =
              some (value, writeItems (next :: items) ++ rest) :=
            hitem.reads (by omega) (endsNumber_writeItems (next :: items) rest)
          have hrest : takeItems? fuel depth (next.write ++ (writeItems items ++ rest)) =
              some (nextValue :: values, rest) := ih hnext (by omega)
          rw [takeItems?, htake, writeItems]
          simp only [List.cons_append, List.append_assoc, skipSpace_cons (c := ',') rfl, hrest,
            Option.map_some]

/-- The text of a member, with the text after it. -/
def memberThen (member : String × Json) (rest : List Char) : List Char :=
  writeString member.1 ++ ':' :: (member.2.write ++ rest)

variable {member member' : String × Json} {members members' : List (String × Json)}

theorem writeMembers_cons (member : String × Json) (members : List (String × Json)) :
    writeMembers (member :: members) = ',' :: memberThen member (writeMembers members) := rfl

theorem write_object_cons (member : String × Json) (members : List (String × Json)) :
    write (.object (member :: members)) = '\x7b' :: memberThen member (writeMembers members) := rfl

theorem memberThen_append (member : String × Json) (rest text : List Char) :
    memberThen member rest ++ text = memberThen member (rest ++ text) := by
  simp [memberThen]

theorem memberThen_eq_cons (member : String × Json) (rest : List Char) :
    memberThen member rest =
      '"' :: (member.1.toList.flatMap writeChar ++ '"' :: ':' :: (member.2.write ++ rest)) := by
  simp [memberThen, writeString]

/-- The texts of two members with one name are read like their values. -/
def MemberReads (depth : Nat) (member member' : String × Json) : Prop :=
  member.1 = member'.1 ∧ Reads depth member.2 member'.2

theorem takeMembers?_memberThen (h : MemberReads depth member member')
    (hfuel : member.2.write.length ≤ fuel) (hrest : EndsNumber rest) :
    (∀ text, skipSpace rest = '\x7d' :: text →
      takeMembers? (fuel + 1) depth (memberThen member rest) = some ([member'], text)) ∧
    (∀ text, skipSpace rest = ',' :: text →
      takeMembers? (fuel + 1) depth (memberThen member rest) =
        (takeMembers? fuel depth text).map fun parts => (member' :: parts.1, parts.2)) := by
  obtain ⟨name, value⟩ := member
  obtain ⟨name', value'⟩ := member'
  obtain ⟨rfl, hvalue⟩ := h
  rw [memberThen_eq_cons, takeMembers?, skipSpace_cons rfl]
  constructor
  · intro text hnext
    simp only [takeString?_flatMap, skipSpace_cons (c := ':') rfl, hvalue.reads hfuel hrest, hnext,
      String.ofList_toList]
  · intro text hnext
    simp only [takeString?_flatMap, skipSpace_cons (c := ':') rfl, hvalue.reads hfuel hrest, hnext,
      String.ofList_toList]

theorem takeMembers?_write (hmembers : List.Forall₂ (MemberReads depth) members members') :
    ∀ {member member' : String × Json} {fuel : Nat} {rest : List Char},
      MemberReads depth member member' →
      (memberThen member (writeMembers members)).length ≤ fuel →
        takeMembers? fuel depth (memberThen member (writeMembers members ++ rest)) =
          some (member' :: members', rest) := by
  induction hmembers with
  | nil =>
      intro member member' fuel rest hmember hfuel
      simp only [memberThen, List.length_append, List.length_cons] at hfuel
      cases fuel with
      | zero => omega
      | succ fuel =>
          have hend : skipSpace (writeMembers [] ++ rest) = '\x7d' :: rest := skipSpace_cons rfl _
          have hstep := takeMembers?_memberThen hmember (show _ ≤ fuel by omega)
            (endsNumber_writeMembers [] rest)
          exact hstep.1 rest hend
  | @cons next next' members members' hnext _ ih =>
      intro member member' fuel rest hmember hfuel
      rw [writeMembers_cons] at hfuel
      simp only [memberThen, List.length_append, List.length_cons] at hfuel
      cases fuel with
      | zero => omega
      | succ fuel =>
          have hfuel' : (memberThen next (writeMembers members)).length ≤ fuel := by
            simp only [memberThen, List.length_append, List.length_cons]
            omega
          have hcomma : skipSpace (writeMembers (next :: members) ++ rest) =
              ',' :: memberThen next (writeMembers members ++ rest) := by
            rw [writeMembers_cons, List.cons_append, skipSpace_cons rfl, memberThen_append]
          have hstep := takeMembers?_memberThen hmember (show _ ≤ fuel by omega)
            (endsNumber_writeMembers (next :: members) rest)
          rw [hstep.2 _ hcomma, ih hnext hfuel', Option.map_some]

/-! ## Arrays and objects -/

theorem reads_array {items values : List Json} (hdepth : depth + 1 < depthBound)
    (h : List.Forall₂ (Reads (depth + 1)) items values) :
    Reads depth (.array items) (.array values) := by
  refine .of_succ (by cases items <;> exact ⟨_, _, rfl, rfl, by decide⟩)
    fun {fuel rest} hfuel _ => ?_
  cases h with
  | nil =>
      rw [write, List.cons_append, takeValue?, skipSpace_cons rfl]
      simp only [if_neg (Nat.not_le.2 hdepth)]
      rfl
  | @cons item value items values hitem hitems =>
      obtain ⟨c, text, hwrite, -, hc⟩ := hitem.starts
      rw [write] at hfuel ⊢
      have htake : takeItems? fuel (depth + 1) (item.write ++ (writeItems items ++ rest)) =
          some (value :: values, rest) :=
        takeItems?_write hitems hitem (Nat.le_of_succ_le_succ hfuel)
      rw [List.cons_append, takeValue?, skipSpace_cons rfl, List.append_assoc]
      simp only [if_neg (Nat.not_le.2 hdepth), hitem.skipSpace_write]
      split
      -- the text of an item does not begin like the end of an array
      · next heq =>
        rw [hwrite, List.cons_append] at heq
        exact absurd (List.cons.inj heq).1 hc
      · rw [htake, Option.map_some]

theorem reads_object (hdepth : depth + 1 < depthBound)
    (h : List.Forall₂ (MemberReads (depth + 1)) members members') :
    Reads depth (.object members) (.object (sortMembers members')) := by
  refine .of_succ (by cases members <;> exact ⟨_, _, rfl, rfl, by decide⟩)
    fun {fuel rest} hfuel _ => ?_
  cases h with
  | nil =>
      rw [write, List.cons_append, takeValue?, skipSpace_cons rfl]
      simp only [if_neg (Nat.not_le.2 hdepth)]
      rfl
  | @cons member member' members members' hmember hmembers =>
      rw [write_object_cons] at hfuel ⊢
      have htake : takeMembers? fuel (depth + 1)
          (memberThen member (writeMembers members ++ rest)) = some (member' :: members', rest) :=
        takeMembers?_write hmembers hmember (Nat.le_of_succ_le_succ hfuel)
      rw [memberThen_eq_cons] at htake
      rw [List.cons_append, takeValue?, skipSpace_cons rfl, memberThen_append, memberThen_eq_cons]
      simp only [if_neg (Nat.not_le.2 hdepth), skipSpace_cons (c := '"') rfl]
      split
      -- the text of a member does not begin like the end of an object
      · next heq => exact absurd (List.cons.inj heq).1 (by decide)
      · rw [htake, Option.map_some]

/-! ## The text of a value -/

/-- The canonical form is read as what the text of the value is read as. -/
theorem reads_canonical (v : Json) (hwhole : ∀ node ∈ v.nodes, node.HasWholeNumber)
    (hdepth : depth + v.depth < depthBound) : Reads depth v.canonical v.readBack := by
  induction v using Json.induction generalizing depth with
  | null => exact reads_null
  | bool b => exact reads_bool b
  | number x => exact reads_number (hwhole _ (self_mem_nodes _))
  | string text => exact reads_string text
  | array items ih =>
      rw [canonical, canonicalItems_eq_map, readBack, rebuild_array]
      have hpos : depth + 1 ≤ depth + (array items).depth := by
        rw [Json.depth]
        omega
      refine reads_array (Nat.lt_of_le_of_lt hpos hdepth) ?_
      rw [List.forall₂_map_left_iff, List.forall₂_map_right_iff, List.forall₂_same]
      intro item hitem
      have hlt := depth_lt_of_mem_items hitem
      exact ih item hitem (fun node hnode => hwhole node (nodes_subset_of_mem_items hitem hnode))
        (by omega)
  | object members ih =>
      have hpos : depth + 1 ≤ depth + (object members).depth := by
        rw [Json.depth]
        omega
      -- the canonical form has its members in order already
      have hback : (object members).readBack =
          .object (sortMembers ((sortMembers members).map (Prod.map id readBack))) := by
        rw [readBack, rebuild_object, sortMembers_map, sortMembers_map, sortMembers_sortMembers]
        rfl
      rw [canonical, canonicalMembers_eq_map, sortMembers_map, hback]
      refine reads_object (Nat.lt_of_le_of_lt hpos hdepth) ?_
      rw [List.forall₂_map_left_iff, List.forall₂_map_right_iff, List.forall₂_same]
      intro member hmember
      have hmember := Ordered.mem_of_mem_ofEntries hmember
      have hlt := depth_lt_of_mem_members hmember
      exact ⟨rfl, ih member hmember
        (fun node hnode => hwhole node (nodes_subset_of_mem_members hmember hnode)) (by omega)⟩

/-- The text of a value is read as the value with the members of every object in the order of their
names, each name once with its last value, and with zero for the negative zero. -/
theorem ofText_text {v : Json} (hwhole : ∀ node ∈ v.nodes, node.HasWholeNumber)
    (hdepth : v.depth ≤ 127) : ofText v.text = .ok v.readBack := by
  have hreads : Reads 0 v.canonical v.readBack :=
    reads_canonical v hwhole (by unfold depthBound; omega)
  have htake : takeValue? (2 * v.text.length + 2) 0 (v.canonical.write ++ []) =
      some (v.readBack, []) := hreads.reads (by rw [text]; omega) endsNumber_nil
  rw [List.append_nil, ← text] at htake
  rw [ofText, ofText?, htake]
  rfl

end RespClient.Json
