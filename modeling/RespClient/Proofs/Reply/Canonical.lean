import RespClient.Proofs.Reply.Recognition

/-!
# The wire form is canonical

Readers accept many frames of one reply: signs, leading zeros, three kinds of null, any decimal
spelling of a floating point number. What they give can always be written again, and its wire form
is read under the same limits and gives the same reply, so that two replies that were read are equal
exactly when their wire forms are (`Reply.encode_of_parse`). The reason is that a frame cannot
derive a reply that the wire form does not express (`Reply.framable_of_derives`).
-/

set_option autoImplicit false

namespace RespClient

/-- A spelled count is a signed 64-bit integer. -/
theorem SpellsInteger.lt {body : Bytes} {n : Nat} (h : SpellsInteger body n) : n < 2 ^ 63 := by
  have hhigh := h.high
  omega

namespace Reply

/-! ## What has a frame is framable -/

/-- The wire form can express the node, whatever is inside it. -/
structure FramableNode (node : Reply) : Prop where
  line : 13 ∉ node.lineText
  count_lt : node.count < 2 ^ 63
  length_lt : node.blobLength < 2 ^ 63

namespace FramableNode

variable {node : Reply}

theorem of_line (hline : 13 ∉ node.lineText) (hcount : node.count = 0)
    (hlength : node.blobLength = 0) : FramableNode node :=
  ⟨hline, by omega, by omega⟩

theorem of_blob (hline : node.lineText = []) (hcount : node.count = 0)
    (hlength : node.blobLength < 2 ^ 63) : FramableNode node :=
  ⟨by simp [hline], by omega, hlength⟩

theorem of_count (hline : node.lineText = []) (hcount : node.count < 2 ^ 63)
    (hlength : node.blobLength = 0) : FramableNode node :=
  ⟨by simp [hline], hcount, by omega⟩

end FramableNode

theorem framable_iff {r : Reply} : r.Framable ↔ ∀ node ∈ r.nodes, FramableNode node := by
  constructor
  · intro h node hnode
    exact ⟨h.line node hnode, h.count_lt node hnode, h.length_lt node hnode⟩
  · intro h
    exact ⟨fun node hnode => (h node hnode).line, fun node hnode => (h node hnode).count_lt,
      fun node hnode => (h node hnode).length_lt⟩

/-- A reply is framable when its own node and all nodes inside are. -/
theorem framable_of_nodes {r : Reply} {inner : List Reply} (hnodes : r.nodes = r :: inner)
    (hself : FramableNode r) (hinner : ∀ node ∈ inner, FramableNode node) : r.Framable := by
  rw [framable_iff, hnodes]
  exact List.forall_mem_cons.2 ⟨hself, hinner⟩

theorem framable_leaf {r : Reply} (hnodes : r.nodes = [r]) (hself : FramableNode r) : r.Framable :=
  framable_of_nodes hnodes hself (by simp)

theorem framableNodes_items {octets : Bytes} {items : List Reply}
    (ih : ∀ r ∈ items, ∀ frame, Derives frame r → r.Framable) (h : DerivesItems octets items) :
    ∀ node ∈ nodesOfItems items, FramableNode node := by
  induction items generalizing octets with
  | nil => simp [nodesOfItems]
  | cons item items ih' =>
      obtain ⟨hitem, hitems⟩ := List.forall_mem_cons.1 ih
      cases h with
      | cons hframe hframes =>
          rw [nodesOfItems]
          exact List.forall_mem_append.2
            ⟨framable_iff.1 (hitem _ hframe), ih' hitems hframes⟩

theorem framableNodes_entries {octets : Bytes} {entries : List (Reply × Reply)}
    (ih : ∀ e ∈ entries, (∀ frame, Derives frame e.1 → e.1.Framable) ∧
      (∀ frame, Derives frame e.2 → e.2.Framable))
    (h : DerivesEntries octets entries) :
    ∀ node ∈ nodesOfEntries entries, FramableNode node := by
  induction entries generalizing octets with
  | nil => simp [nodesOfEntries]
  | cons entry entries ih' =>
      obtain ⟨⟨hkey, hvalue⟩, hentries⟩ := List.forall_mem_cons.1 ih
      cases h with
      | cons hframe hframe' hframes =>
          rw [nodesOfEntries]
          exact List.forall_mem_append.2 ⟨framable_iff.1 (hkey _ hframe),
            List.forall_mem_append.2
              ⟨framable_iff.1 (hvalue _ hframe'), ih' hentries hframes⟩⟩

/-- Only framable replies have frames. -/
theorem framable_of_derives (r : Reply) : ∀ frame, Derives frame r → r.Framable := by
  induction r using Reply.induction with
  | simple text =>
      intro frame h
      cases h with
      | simple hline => exact framable_leaf rfl (.of_line hline rfl rfl)
  | error message =>
      intro frame h
      cases h with
      | error hline => exact framable_leaf rfl (.of_line hline rfl rfl)
  | bigNumber digits =>
      intro frame h
      cases h with
      | bigNumber hline => exact framable_leaf rfl (.of_line hline rfl rfl)
  | integer n => exact fun _ _ => framable_leaf rfl (.of_line List.not_mem_nil rfl rfl)
  | null => exact fun _ _ => framable_leaf rfl (.of_line List.not_mem_nil rfl rfl)
  | boolean b => exact fun _ _ => framable_leaf rfl (.of_line List.not_mem_nil rfl rfl)
  | double x => exact fun _ _ => framable_leaf rfl (.of_line List.not_mem_nil rfl rfl)
  | bulk text =>
      intro frame h
      cases h with
      | bulk hspells => exact framable_leaf rfl (.of_blob rfl rfl hspells.lt)
  | bulkError message =>
      intro frame h
      cases h with
      | bulkError hspells => exact framable_leaf rfl (.of_blob rfl rfl hspells.lt)
  | verbatim format text =>
      intro frame h
      cases h with
      | verbatim hspells => exact framable_leaf rfl (.of_blob rfl rfl hspells.lt)
  | array items ih =>
      intro frame h
      cases h with
      | array hspells hitems =>
          exact framable_of_nodes rfl (.of_count rfl hspells.lt rfl)
            (framableNodes_items ih hitems)
  | set items ih =>
      intro frame h
      cases h with
      | set hspells hitems =>
          exact framable_of_nodes rfl (.of_count rfl hspells.lt rfl)
            (framableNodes_items ih hitems)
  | push items ih =>
      intro frame h
      cases h with
      | push hspells hitems =>
          exact framable_of_nodes rfl (.of_count rfl hspells.lt rfl)
            (framableNodes_items ih hitems)
  | map entries ih =>
      intro frame h
      cases h with
      | map hspells hentries =>
          exact framable_of_nodes rfl (.of_count rfl hspells.lt rfl)
            (framableNodes_entries ih hentries)
  | withAttributes attributes value ih ihvalue =>
      intro frame h
      cases h with
      | withAttributes hspells hattributes hframe =>
          exact framable_of_nodes rfl (.of_count rfl hspells.lt rfl)
            (List.forall_mem_append.2 ⟨framableNodes_entries ih hattributes,
              framable_iff.1 (ihvalue _ hframe)⟩)

/-! ## Reading what was read -/

variable {limits : Limits} {octets octets' : Bytes} {r r' : Reply} {taken taken' : Nat}

theorem framable_of_parse (h : parse limits octets = .ok (r, taken)) : r.Framable := by
  obtain ⟨frame, -, -, -, hframe⟩ := derives_of_parse h
  exact framable_of_derives r frame hframe

/-- The limits do not depend on the frame, so the wire form is within them, too. -/
theorem parse_encode_of_parse (h : parse limits octets = .ok (r, taken)) (rest : Bytes) :
    parse limits (r.encode ++ rest) = .ok (r, r.encodedLength) := by
  have hframe := derives_encode r (framable_of_parse h)
  rw [(gated_parse hframe rest).eq_ok (within_of_parse h), length_encode]

/-- A reply that was read, however it was spelled, is read again from its wire form under the same
limits, whatever follows. Two replies that were read have one wire form exactly if they are
equal. -/
theorem encode_of_parse (limits : Limits) (octets octets' : Bytes) (r r' : Reply)
    (taken taken' : Nat) (h : parse limits octets = .ok (r, taken))
    (h' : parse limits octets' = .ok (r', taken')) :
    (∀ rest, parse limits (r.encode ++ rest) = .ok (r, r.encodedLength)) ∧
      (r.encode = r'.encode ↔ r = r') := by
  refine ⟨parse_encode_of_parse h, fun hencode => ?_, congrArg encode⟩
  have hread := parse_encode_of_parse h []
  rw [hencode, parse_encode_of_parse h' []] at hread
  cases hread
  rfl

/-- Two spellings of an array of null and zero: a count with a plus sign and leading zeros and a
negative count of another kind, and a named null and a negative zero. -/
theorem encode_of_parse_spellings :
    let octets : Bytes := [42, 43, 48, 50, 13, 10, 42, 45, 55, 13, 10, 58, 43, 48, 48, 13, 10]
    let octets' : Bytes := [42, 50, 13, 10, 95, 13, 10, 58, 45, 48, 13, 10, 42]
    ∃ r r', parse {} octets = .ok (r, 17) ∧ parse {} octets' = .ok (r', 12) ∧
      (∀ rest, parse {} (r.encode ++ rest) = .ok (r, 13)) ∧ (r.encode = r'.encode ↔ r = r') := by
  intro octets octets'
  exact ⟨_, _, rfl, rfl, encode_of_parse {} octets octets' _ _ _ _ rfl rfl⟩

end Reply

end RespClient
