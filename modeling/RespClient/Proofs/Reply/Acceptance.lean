import RespClient.Proofs.Reply.Frame

/-!
# Frames within limits are read

A reader with limits reads every frame of a reply that is within them, and refuses the frames of
every other one with a fault that names a limit, whatever octets follow (`Reply.gated_parse`). A
reader checks each limit when it meets what the limit is about, so the proof runs through the
replies inside the reply with two invariants: the depth is at most the greatest one allowed, and so
are the items booked so far.
-/

set_option autoImplicit false

namespace RespClient

/-- The faults of octets that announce more than the limits allow. -/
def ParseFault.isLimit : ParseFault → Bool
  | .nestingTooDeep _ => true
  | .collectionTooLarge _ => true
  | .bulkTooLong _ _ => true
  | _ => false

/-! ## Steps with a condition -/

section Gated

variable {α β : Type} {fits fits' : Prop} {step : Except ParseFault α} {a : α} {b : β}

/-- The step gives `a` if the condition holds, and otherwise a fault that names a limit. -/
structure Gated (fits : Prop) (step : Except ParseFault α) (a : α) : Prop where
  eq_ok : fits → step = .ok a
  eq_error : ¬ fits → ∃ fault, fault.isLimit = true ∧ step = .error fault

namespace Gated

theorem of_true (h : fits) : Gated fits (.ok a) a :=
  ⟨fun _ => rfl, fun hnot => absurd h hnot⟩

theorem congr (h : Gated fits step a) (hiff : fits ↔ fits') : Gated fits' step a :=
  ⟨fun hfits => h.eq_ok (hiff.2 hfits), fun hnot => h.eq_error (mt hiff.1 hnot)⟩

/-- Steps one after the other need both conditions, the second one only after the first. -/
theorem bind {next : α → Except ParseFault β} (h : Gated fits step a)
    (hnext : fits → Gated fits' (next a) b) : Gated (fits ∧ fits') (step >>= next) b := by
  by_cases hfits : fits
  · have hgated := hnext hfits
    rw [h.eq_ok hfits, ok_bind]
    exact hgated.congr ⟨fun hfits' => ⟨hfits, hfits'⟩, And.right⟩
  · obtain ⟨fault, hlimit, heq⟩ := h.eq_error hfits
    rw [heq, error_bind]
    exact ⟨fun hboth => absurd hboth.1 hfits, fun _ => ⟨fault, hlimit, rfl⟩⟩

/-- A last step that cannot fail. -/
theorem bind_ok {next : α → Except ParseFault β} (h : Gated fits step a)
    (hnext : next a = .ok b) : Gated fits (step >>= next) b := by
  refine (h.bind fun _ => ?_).congr (iff_of_eq (and_true fits))
  rw [hnext]
  exact of_true trivial

end Gated

end Gated

/-! ## Readers of frames -/

open Reply

variable {limits : Limits} {depth : Nat}

/-- The nodes of replies at some depth are within the limits, where the deepest of them has `deep`
collections around it and `announced` items are booked before them. -/
structure Fits (limits : Limits) (depth announced deep : Nat) (nodes : List Reply) : Prop where
  deep_le : depth + deep ≤ limits.maxDepth.toNat
  booked_le : announced + bookedBy nodes ≤ limits.maxTotal.toNat
  count_le : ∀ node ∈ nodes, node.count ≤ limits.maxCollection.toNat
  length_le : ∀ node ∈ nodes, node.blobLength ≤ limits.maxBulk.toNat

theorem fits_append_iff {announced deep deep' : Nat} {nodes nodes' : List Reply} :
    Fits limits depth announced (max deep deep') (nodes ++ nodes') ↔
      Fits limits depth announced deep nodes ∧
        Fits limits depth (announced + bookedBy nodes) deep' nodes' := by
  constructor
  · rintro ⟨hdeep, hbooked, hcount, hlength⟩
    rw [bookedBy_append] at hbooked
    obtain ⟨hcount, hcount'⟩ := List.forall_mem_append.1 hcount
    obtain ⟨hlength, hlength'⟩ := List.forall_mem_append.1 hlength
    exact ⟨⟨by omega, by omega, hcount, hlength⟩, ⟨by omega, by omega, hcount', hlength'⟩⟩
  · rintro ⟨⟨hdeep, hbooked, hcount, hlength⟩, ⟨hdeep', hbooked', hcount', hlength'⟩⟩
    refine ⟨by omega, ?_, List.forall_mem_append.2 ⟨hcount, hcount'⟩,
      List.forall_mem_append.2 ⟨hlength, hlength'⟩⟩
    rw [bookedBy_append]
    omega

/-- A collection is within the limits when its header is, and then what it holds. -/
theorem fits_cons_iff {announced deep n weight : Nat} {node : Reply} {nodes : List Reply}
    (hcount : node.count = n) (hbooked : node.booked = n * weight) (hlength : node.blobLength = 0) :
    Fits limits depth announced (deep + 1) (node :: nodes) ↔
      (depth + 1 ≤ limits.maxDepth.toNat ∧ n ≤ limits.maxCollection.toNat ∧
        announced + n * weight ≤ limits.maxTotal.toNat) ∧
      Fits limits (depth + 1) (announced + n * weight) deep nodes := by
  constructor
  · rintro ⟨hdeep, hsum, hcounts, hlengths⟩
    rw [bookedBy_cons, hbooked] at hsum
    obtain ⟨hnode, hnodes⟩ := List.forall_mem_cons.1 hcounts
    rw [hcount] at hnode
    exact ⟨⟨by omega, hnode, by omega⟩,
      ⟨by omega, by omega, hnodes, (List.forall_mem_cons.1 hlengths).2⟩⟩
  · rintro ⟨⟨_, hnode, _⟩, ⟨hdeep, hsum, hnodes, hlengths⟩⟩
    refine ⟨by omega, ?_, List.forall_mem_cons.2 ⟨by omega, hnodes⟩,
      List.forall_mem_cons.2 ⟨by omega, hlengths⟩⟩
    rw [bookedBy_cons, hbooked]
    omega

/-- A reader at some depth reads `a` off the front of octets that begin with `octets`, and books
the items of the nodes, if these are within the limits. -/
def ReadsBack {α : Type} (limits : Limits) (depth : Nat)
    (reader : Cursor → Except ParseFault (α × Cursor)) (a : α) (octets : Bytes) (deep : Nat)
    (nodes : List Reply) : Prop :=
  ∀ (rest : Bytes) (announced : Nat), announced ≤ limits.maxTotal.toNat →
    Gated (Fits limits depth announced deep nodes) (reader ⟨octets ++ rest, announced⟩)
      (a, ⟨rest, announced + bookedBy nodes⟩)

namespace ReadsBack

variable {α β γ : Type} {reader : Cursor → Except ParseFault (α × Cursor)}
  {second : Cursor → Except ParseFault (β × Cursor)} {a : α} {b : β} {octets octets' : Bytes}
  {deep deep' : Nat} {nodes nodes' : List Reply}

theorem map (f : α → β) (h : ReadsBack limits depth reader a octets deep nodes) :
    ReadsBack limits depth
      (fun cursor => do let (a, cursor) ← reader cursor; .ok (f a, cursor))
      (f a) octets deep nodes :=
  fun rest announced hannounced => (h rest announced hannounced).bind_ok rfl

/-- Two readers, one after the other. -/
theorem seq (join : α → β → γ) (h : ReadsBack limits depth reader a octets deep nodes)
    (h' : ReadsBack limits depth second b octets' deep' nodes') :
    ReadsBack limits depth
      (fun cursor => do
        let (a, cursor) ← reader cursor
        let (b, cursor) ← second cursor
        .ok (join a b, cursor))
      (join a b) (octets ++ octets') (max deep deep') (nodes ++ nodes') := by
  intro rest announced hannounced
  -- the first reader sees the octets of the second one as part of what follows
  have hfirst := h (octets' ++ rest) announced hannounced
  rw [List.append_assoc, bookedBy_append, ← Nat.add_assoc]
  refine Gated.congr (hfirst.bind fun hfits => ?_) fits_append_iff.symm
  exact (h' rest (announced + bookedBy nodes) hfits.booked_le).bind_ok rfl

/-- The reader of nothing. -/
theorem nil (hdepth : depth ≤ limits.maxDepth.toNat) :
    ReadsBack limits depth (repeatReader reader 0) [] [] 0 [] :=
  fun _ _ hannounced => Gated.of_true ⟨hdepth, hannounced, by simp, by simp⟩

theorem items {reader : Cursor → Except ParseFault (Reply × Cursor)} {bound : Nat}
    (hdepth : depth ≤ limits.maxDepth.toNat) {items : List Reply}
    (h : ∀ r ∈ items, ∀ frame, Derives frame r → frame.length ≤ bound →
      ReadsBack limits depth reader r frame r.depth r.nodes) :
    ∀ {octets : Bytes}, DerivesItems octets items → octets.length ≤ bound →
      ReadsBack limits depth (repeatReader reader items.length) items octets (depthOfItems items)
        (nodesOfItems items) := by
  induction items with
  | nil =>
      intro octets hitems _
      cases hitems
      exact nil hdepth
  | cons item items ih =>
      intro octets hitems hbound
      obtain ⟨hitem, hrest⟩ := List.forall_mem_cons.1 h
      cases hitems with
      | cons hframe hframes =>
          rw [List.length_append] at hbound
          exact seq List.cons (hitem _ hframe (by omega)) (ih hrest hframes (by omega))

theorem entries {reader : Cursor → Except ParseFault (Reply × Cursor)} {bound : Nat}
    (hdepth : depth ≤ limits.maxDepth.toNat) {entries : List (Reply × Reply)}
    (h : ∀ e ∈ entries,
      (∀ frame, Derives frame e.1 → frame.length ≤ bound →
        ReadsBack limits depth reader e.1 frame e.1.depth e.1.nodes) ∧
      (∀ frame, Derives frame e.2 → frame.length ≤ bound →
        ReadsBack limits depth reader e.2 frame e.2.depth e.2.nodes)) :
    ∀ {octets : Bytes}, DerivesEntries octets entries → octets.length ≤ bound →
      ReadsBack limits depth (repeatReader (readTwice reader) entries.length) entries octets
        (depthOfEntries entries) (nodesOfEntries entries) := by
  induction entries with
  | nil =>
      intro octets hentries _
      cases hentries
      exact nil hdepth
  | cons entry entries ih =>
      intro octets hentries hbound
      obtain ⟨⟨hkey, hvalue⟩, hrest⟩ := List.forall_mem_cons.1 h
      cases hentries with
      | cons hframe hframe' hframes =>
          simp only [List.length_append] at hbound
          have hentry := seq List.cons
            (seq Prod.mk (hkey _ hframe (by omega)) (hvalue _ hframe' (by omega)))
            (ih hrest hframes (by omega))
          rw [List.append_assoc, List.append_assoc] at hentry
          exact hentry

end ReadsBack

/-! ## Collections -/

variable {fuel : Nat}

/-- The count of a collection passes when it is within the limits. -/
theorem gated_takeCount {n : Nat} {body : Bytes} (weight announced : Nat) (rest : Bytes)
    (hspells : SpellsInteger body n) :
    Gated (depth + 1 ≤ limits.maxDepth.toNat ∧ n ≤ limits.maxCollection.toNat ∧
        announced + n * weight ≤ limits.maxTotal.toNat)
      (takeCount limits depth weight ⟨body ++ (crlf ++ rest), announced⟩)
      (n, ⟨rest, announced + n * weight⟩) := by
  have hnat : (n : Int).toNat = n := Int.toNat_natCast n
  have hpos : ¬ (n : Int) < 0 := by omega
  have hword : limits.maxTotal.toNat ≤ wordMax := Nat.le_of_lt_succ limits.maxTotal.toNat_lt
  simp only [takeCount, takeInteger_of_spells hspells, ok_bind, book, SpellsInteger.value,
    if_neg hpos, hnat]
  -- the four tests of `book`, in order; the overflow test is the stricter form of the last one
  by_cases hdepth : limits.maxDepth.toNat ≤ depth
  · rw [if_pos hdepth]
    exact ⟨fun h => absurd h.1 (by omega), fun _ => ⟨_, rfl, rfl⟩⟩
  rw [if_neg hdepth]
  by_cases hcount : limits.maxCollection.toNat < n
  · rw [if_pos hcount]
    exact ⟨fun h => absurd h.2.1 (by omega), fun _ => ⟨_, rfl, rfl⟩⟩
  rw [if_neg hcount]
  by_cases hwords : wordMax < announced + n * weight
  · rw [if_pos hwords]
    exact ⟨fun h => absurd h.2.2 (by omega), fun _ => ⟨_, rfl, rfl⟩⟩
  rw [if_neg hwords]
  by_cases htotal : limits.maxTotal.toNat < announced + n * weight
  · rw [if_pos htotal]
    exact ⟨fun h => absurd h.2.2 (by omega), fun _ => ⟨_, rfl, rfl⟩⟩
  rw [if_neg htotal]
  exact Gated.of_true ⟨by omega, by omega, by omega⟩

/-- The marker of a reply selects the reader of the rest. -/
theorem takeReply_marker (k : Kind) (octets : Bytes) (announced : Nat) :
    takeReply limits (fuel + 1) depth ⟨k.marker :: octets, announced⟩ =
      takeBody limits (takeReply limits fuel (depth + 1)) depth ⟨octets, announced⟩ k := by
  simp only [takeReply, Kind.ofMarker?_marker]

/-- A collection is read back when what it holds is, one level deeper. -/
theorem readsBack_collection {k : Kind} {node : Reply} {n : Nat} (weight : Nat)
    {next : Nat × Cursor → Except ParseFault (Reply × Cursor)} {body octets : Bytes} {deep : Nat}
    {nodes : List Reply} (hspells : SpellsInteger body n) (hcount : node.count = n)
    (hbooked : node.booked = n * weight) (hlength : node.blobLength = 0)
    (hread : ∀ rest announced,
      takeBody limits (takeReply limits fuel (depth + 1)) depth
          ⟨body ++ (crlf ++ rest), announced⟩ k =
        (takeCount limits depth weight ⟨body ++ (crlf ++ rest), announced⟩ >>= next))
    (hnext : depth + 1 ≤ limits.maxDepth.toNat →
      ReadsBack limits (depth + 1) (fun cursor => next (n, cursor)) node octets deep nodes) :
    ReadsBack limits depth (takeReply limits (fuel + 1) depth) node (Frame.line k body ++ octets)
      (deep + 1) (node :: nodes) := by
  intro rest announced hannounced
  have hline : Frame.line k body ++ octets ++ rest =
      k.marker :: (body ++ (crlf ++ (octets ++ rest))) := by
    simp only [Frame.line, List.cons_append, List.append_assoc]
  rw [hline, takeReply_marker, hread, bookedBy_cons, hbooked, ← Nat.add_assoc]
  -- the header passes its tests first, and so the depth and the sum are allowed below
  refine Gated.congr ?_ (fits_cons_iff hcount hbooked hlength).symm
  refine (gated_takeCount weight announced (octets ++ rest) hspells).bind fun hfits => ?_
  exact hnext hfits.1 rest (announced + n * weight) hfits.2.2

/-- The header of an array is that of any collection when its count is not negative. -/
theorem takeBody_array {n : Nat} {body : Bytes} (hspells : SpellsInteger body n)
    {inner : Cursor → Except ParseFault (Reply × Cursor)} (rest : Bytes) (announced : Nat) :
    takeBody limits inner depth ⟨body ++ (crlf ++ rest), announced⟩ .array =
      (do
        let (count, cursor) ← takeCount limits depth 1 ⟨body ++ (crlf ++ rest), announced⟩
        let (items, cursor) ← repeatReader inner count cursor
        .ok (.array items, cursor)) := by
  -- the test for null comes before the booking, and fails
  have hpos : ¬ hspells.value.val < 0 := Int.not_lt.2 (Int.natCast_nonneg n)
  simp only [takeBody, takeCount, takeInteger_of_spells hspells, ok_bind, if_neg hpos]
  cases book limits depth 1 announced hspells.value with
  | error fault => rfl
  | ok booking => rfl

/-! ## Replies with nothing inside -/

/-- A reply that books nothing is read back when its text is within the limit. -/
theorem readsBack_leaf {k : Kind} {node : Reply} {octets : Bytes}
    (hdepth : depth ≤ limits.maxDepth.toNat) (hcount : node.count = 0) (hbooked : node.booked = 0)
    (hread : ∀ rest announced,
      Gated (node.blobLength ≤ limits.maxBulk.toNat)
        (takeBody limits (takeReply limits fuel (depth + 1)) depth ⟨octets ++ rest, announced⟩ k)
        (node, ⟨rest, announced⟩)) :
    ReadsBack limits depth (takeReply limits (fuel + 1) depth) node (k.marker :: octets) 0
      [node] := by
  intro rest announced hannounced
  have hsum : bookedBy [node] = 0 := by rw [bookedBy_cons, hbooked]; rfl
  rw [List.cons_append, takeReply_marker, hsum, Nat.add_zero]
  refine (hread rest announced).congr ⟨fun hlength => ⟨hdepth, ?_, ?_, ?_⟩, fun hfits => ?_⟩
  · rw [hsum]
    exact hannounced
  · exact List.forall_mem_singleton.2 (by omega)
  · exact List.forall_mem_singleton.2 hlength
  · exact hfits.length_le node List.mem_cons_self

theorem readsBack_line {k : Kind} {node : Reply} {body : Bytes}
    (hdepth : depth ≤ limits.maxDepth.toNat) (hcount : node.count = 0) (hbooked : node.booked = 0)
    (hlength : node.blobLength = 0)
    (hread : ∀ rest announced,
      takeBody limits (takeReply limits fuel (depth + 1)) depth
        ⟨body ++ (crlf ++ rest), announced⟩ k = .ok (node, ⟨rest, announced⟩)) :
    ReadsBack limits depth (takeReply limits (fuel + 1) depth) node (Frame.line k body) 0
      [node] := by
  refine readsBack_leaf hdepth hcount hbooked fun rest announced => ?_
  rw [List.append_assoc, hread]
  exact Gated.of_true (by omega)

theorem gated_takeBlob {body text : Bytes} (rest : Bytes)
    (hspells : SpellsInteger body text.length) :
    Gated (text.length ≤ limits.maxBulk.toNat)
      (takeBlob limits (body ++ (crlf ++ (text ++ (crlf ++ rest))))) (some text, rest) := by
  refine ⟨fun hlimit => ?_, fun hlimit => ?_⟩
  · exact takeBlob_eq_some_iff.2 ⟨hlimit, body, hspells, rfl⟩
  · exact ⟨_, rfl, takeBlob_of_lt hspells (Nat.lt_of_not_le hlimit)⟩

theorem readsBack_blob {k : Kind} {node : Reply} {body text : Bytes}
    {next : Cursor → Option Bytes × Bytes → Except ParseFault (Reply × Cursor)}
    (hdepth : depth ≤ limits.maxDepth.toNat) (hcount : node.count = 0) (hbooked : node.booked = 0)
    (hlength : node.blobLength = text.length) (hspells : SpellsInteger body text.length)
    (hread : ∀ cursor, takeBody limits (takeReply limits fuel (depth + 1)) depth cursor k =
      (takeBlob limits cursor.rest >>= next cursor))
    (hnext : ∀ cursor rest, next cursor (some text, rest) =
      .ok (node, { cursor with rest := rest })) :
    ReadsBack limits depth (takeReply limits (fuel + 1) depth) node
      (Frame.line k body ++ (text ++ crlf)) 0 [node] := by
  have hframe : Frame.line k body ++ (text ++ crlf) =
      k.marker :: (body ++ (crlf ++ (text ++ crlf))) := by
    simp only [Frame.line, List.cons_append, List.append_assoc]
  rw [hframe]
  refine readsBack_leaf hdepth hcount hbooked fun rest announced => ?_
  simp only [List.append_assoc, hlength, hread]
  exact (gated_takeBlob rest hspells).bind_ok (hnext _ rest)

/-! ## All replies -/

/-- Every frame of the reply is read back at every depth that is allowed, with as much fuel as the
frame has octets. -/
def ReadBack (limits : Limits) (r : Reply) : Prop :=
  ∀ frame fuel depth, Derives frame r → frame.length ≤ fuel + 1 →
    depth ≤ limits.maxDepth.toNat →
      ReadsBack limits depth (takeReply limits (fuel + 1) depth) r frame r.depth r.nodes

/-- The frames behind a line are shorter than the whole, so that fuel is left for them. -/
theorem exists_fuel {k : Kind} {body octets : Bytes}
    (h : (Frame.line k body ++ octets).length ≤ fuel + 1) :
    ∃ less, fuel = less + 1 ∧ octets.length ≤ less + 1 := by
  rw [List.length_append, length_line] at h
  exact ⟨fuel - 1, by omega, by omega⟩

/-- The items of a collection are read back one level deeper. -/
theorem readsBack_items {items : List Reply} {octets : Bytes}
    (hdepth : depth + 1 ≤ limits.maxDepth.toNat) (ih : ∀ r ∈ items, ReadBack limits r)
    (hitems : DerivesItems octets items) (hfuel : octets.length ≤ fuel + 1) :
    ReadsBack limits (depth + 1)
      (repeatReader (takeReply limits (fuel + 1) (depth + 1)) items.length) items octets
      (depthOfItems items) (nodesOfItems items) :=
  ReadsBack.items hdepth
    (fun r hr frame hframe hlength => ih r hr frame fuel _ hframe hlength hdepth) hitems hfuel

/-- The keys and values of a map are read back one level deeper. -/
theorem readsBack_entries {entries : List (Reply × Reply)} {octets : Bytes}
    (hdepth : depth + 1 ≤ limits.maxDepth.toNat)
    (ih : ∀ e ∈ entries, ReadBack limits e.1 ∧ ReadBack limits e.2)
    (hentries : DerivesEntries octets entries) (hfuel : octets.length ≤ fuel + 1) :
    ReadsBack limits (depth + 1)
      (repeatReader (readTwice (takeReply limits (fuel + 1) (depth + 1))) entries.length) entries
      octets (depthOfEntries entries) (nodesOfEntries entries) :=
  ReadsBack.entries hdepth
    (fun e he =>
      ⟨fun frame hframe hlength => (ih e he).1 frame fuel _ hframe hlength hdepth,
        fun frame hframe hlength => (ih e he).2 frame fuel _ hframe hlength hdepth⟩)
    hentries hfuel

/-- Every reply is read back. -/
theorem readBack (r : Reply) : ReadBack limits r := by
  induction r using Reply.induction with
  | simple text =>
      intro frame fuel depth hframe _ hdepth
      cases hframe with
      | simple hline =>
          refine readsBack_line hdepth rfl rfl rfl fun rest announced => ?_
          simp only [takeBody, takeLine_append hline, ok_bind]
  | error message =>
      intro frame fuel depth hframe _ hdepth
      cases hframe with
      | error hline =>
          refine readsBack_line hdepth rfl rfl rfl fun rest announced => ?_
          simp only [takeBody, takeLine_append hline, ok_bind]
  | integer n =>
      intro frame fuel depth hframe _ hdepth
      cases hframe with
      | integer hspells =>
          refine readsBack_line hdepth rfl rfl rfl fun rest announced => ?_
          simp only [takeBody, takeInteger_eq_ok_iff.2 ⟨_, hspells, rfl⟩, ok_bind]
  | bulk text =>
      intro frame fuel depth hframe _ hdepth
      cases hframe with
      | bulk hspells =>
          refine readsBack_blob hdepth rfl rfl rfl hspells (fun _ => rfl) fun _ _ => ?_
          rfl
  | null =>
      intro frame fuel depth hframe _ hdepth
      cases hframe with
      | namedNull => exact readsBack_line hdepth rfl rfl rfl fun _ _ => rfl
      | nullText hspells hneg =>
          refine readsBack_line hdepth rfl rfl rfl fun rest announced => ?_
          simp only [takeBody, takeBlob_eq_none_iff.2 ⟨_, _, hspells, hneg, rfl⟩, ok_bind]
      | nullArray hspells hneg =>
          refine readsBack_line hdepth rfl rfl rfl fun rest announced => ?_
          simp only [takeBody, takeInteger_of_spells hspells, ok_bind]
          exact if_pos hneg
  | array items ih =>
      intro frame fuel depth hframe hfuel hdepth
      cases hframe with
      | array hspells hitems =>
          obtain ⟨less, rfl, hless⟩ := exists_fuel hfuel
          refine readsBack_collection 1 hspells rfl (Nat.mul_one _).symm rfl
            (takeBody_array hspells) fun hdeep => ?_
          exact (readsBack_items hdeep ih hitems hless).map Reply.array
  | boolean b =>
      intro frame fuel depth hframe _ hdepth
      cases hframe with
      | yes => exact readsBack_line hdepth rfl rfl rfl fun _ _ => rfl
      | no => exact readsBack_line hdepth rfl rfl rfl fun _ _ => rfl
  | double x =>
      intro frame fuel depth hframe _ hdepth
      cases hframe with
      | double hline hread =>
          refine readsBack_line hdepth rfl rfl rfl fun rest announced => ?_
          simp only [takeBody, takeDouble_eq_ok_iff.2 ⟨_, hline, hread, rfl⟩, ok_bind]
  | bigNumber digits =>
      intro frame fuel depth hframe _ hdepth
      cases hframe with
      | bigNumber hline =>
          refine readsBack_line hdepth rfl rfl rfl fun rest announced => ?_
          simp only [takeBody, takeLine_append hline, ok_bind]
  | bulkError message =>
      intro frame fuel depth hframe _ hdepth
      cases hframe with
      | bulkError hspells =>
          refine readsBack_blob hdepth rfl rfl rfl hspells (fun _ => rfl) fun _ _ => ?_
          rfl
  | verbatim format text =>
      intro frame fuel depth hframe _ hdepth
      cases hframe with
      | verbatim hspells =>
          refine readsBack_blob hdepth rfl rfl rfl hspells (fun _ => rfl) fun _ _ => ?_
          rfl
  | map entries ih =>
      intro frame fuel depth hframe hfuel hdepth
      cases hframe with
      | map hspells hentries =>
          obtain ⟨less, rfl, hless⟩ := exists_fuel hfuel
          refine readsBack_collection 2 hspells rfl rfl rfl (fun _ _ => rfl) fun hdeep => ?_
          exact (readsBack_entries hdeep ih hentries hless).map Reply.map
  | set items ih =>
      intro frame fuel depth hframe hfuel hdepth
      cases hframe with
      | set hspells hitems =>
          obtain ⟨less, rfl, hless⟩ := exists_fuel hfuel
          refine readsBack_collection 1 hspells rfl (Nat.mul_one _).symm rfl (fun _ _ => rfl)
            fun hdeep => ?_
          exact (readsBack_items hdeep ih hitems hless).map Reply.set
  | push items ih =>
      intro frame fuel depth hframe hfuel hdepth
      cases hframe with
      | push hspells hitems =>
          obtain ⟨less, rfl, hless⟩ := exists_fuel hfuel
          refine readsBack_collection 1 hspells rfl (Nat.mul_one _).symm rfl (fun _ _ => rfl)
            fun hdeep => ?_
          exact (readsBack_items hdeep ih hitems hless).map Reply.push
  | withAttributes attributes value ih hvalue =>
      intro frame fuel depth hframe hfuel hdepth
      cases hframe with
      | withAttributes hspells hattributes hinner =>
          obtain ⟨less, rfl, hless⟩ := exists_fuel hfuel
          rw [List.length_append] at hless
          refine readsBack_collection 2 hspells rfl rfl rfl (fun _ _ => rfl) fun hdeep => ?_
          -- the wrapped reply is read at the depth of the attributes
          exact (readsBack_entries hdeep ih hattributes (by omega)).seq Reply.attribute
            (hvalue _ less _ hinner (by omega) hdeep)

namespace Reply

theorem within_iff_fits {r : Reply} : r.Within limits ↔ Fits limits 0 0 r.depth r.nodes := by
  constructor
  · rintro ⟨hdepth, hcount, hbooked, hlength⟩
    exact ⟨by omega, by omega, hcount, hlength⟩
  · rintro ⟨hdepth, hbooked, hcount, hlength⟩
    exact ⟨by omega, hcount, by omega, hlength⟩

/-- A frame of a reply that is within the limits is read, whatever follows, and exactly its octets
are taken. A frame of any other reply is refused with a fault that names a limit. -/
theorem gated_parse {frame : Bytes} {r : Reply} (h : Derives frame r) (rest : Bytes) :
    Gated (r.Within limits) (parse limits (frame ++ rest)) (r, frame.length) := by
  have hlength : (frame ++ rest).length = frame.length + rest.length := List.length_append
  -- there are as many octets as the fuel needs, at least
  obtain ⟨fuel, heq⟩ := Nat.exists_eq_add_one.2 (show 0 < (frame ++ rest).length by
    have hpos := h.length_pos
    omega)
  have hread := readBack r frame fuel 0 h (by omega) (Nat.zero_le limits.maxDepth.toNat)
  unfold parse
  rw [heq]
  refine ((hread rest 0 (Nat.zero_le _)).congr within_iff_fits.symm).bind_ok ?_
  show Except.ok (r, fuel + 1 - rest.length) = _
  rw [← heq, hlength, Nat.add_sub_cancel]

end Reply

end RespClient
