import RespClient.Proofs.Reply.Recognition

/-!
# What a reply weighs

A reply that was read is no larger than the octets that it was read from: they pay three octets for
each of its nodes and all octets of its texts (`Reply.weight_le_of_parse`). A count or a length
alone pays for nothing, so announcing much makes no large reply. The weight is carried along the
frames of a reply, where a marker and a line ending pay for a node and the items pay for themselves
(`Reply.weight_le_of_derives`).
-/

set_option autoImplicit false

namespace RespClient.Reply

/-! ## Weight of nodes -/

/-- The text that a node holds itself, the format of a verbatim string included. -/
def payload : Reply → Bytes
  | .simple text => text
  | .error message => message
  | .bulk text => text
  | .bigNumber digits => digits
  | .bulkError message => message
  | .verbatim format text => format.octets ++ text
  | _ => []

/-- The octets of text that some nodes hold together. -/
def payloadLength (nodes : List Reply) : Nat := (nodes.map fun node => node.payload.length).sum

/-- Three for each node, and the octets of text that the nodes hold. -/
def weight (nodes : List Reply) : Nat := 3 * nodes.length + payloadLength nodes

theorem weight_cons (node : Reply) (nodes : List Reply) :
    weight (node :: nodes) = 3 + node.payload.length + weight nodes := by
  simp only [weight, payloadLength, List.length_cons, List.map_cons, List.sum_cons]
  omega

theorem weight_append (nodes nodes' : List Reply) :
    weight (nodes ++ nodes') = weight nodes + weight nodes' := by
  simp only [weight, payloadLength, List.length_append, List.map_append, List.sum_append]
  omega

/-! ## Frames pay for what they hold -/

theorem weight_items_le {octets : Bytes} {items : List Reply}
    (ih : ∀ r ∈ items, ∀ frame, Derives frame r → weight r.nodes ≤ frame.length)
    (h : DerivesItems octets items) : weight (nodesOfItems items) ≤ octets.length := by
  induction items generalizing octets with
  | nil => exact Nat.zero_le _
  | cons item items ih' =>
      obtain ⟨hitem, hitems⟩ := List.forall_mem_cons.1 ih
      cases h with
      | cons hframe hframes =>
          rw [nodesOfItems, weight_append, List.length_append]
          exact Nat.add_le_add (hitem _ hframe) (ih' hitems hframes)

theorem weight_entries_le {octets : Bytes} {entries : List (Reply × Reply)}
    (ih : ∀ e ∈ entries, (∀ frame, Derives frame e.1 → weight e.1.nodes ≤ frame.length) ∧
      ∀ frame, Derives frame e.2 → weight e.2.nodes ≤ frame.length)
    (h : DerivesEntries octets entries) : weight (nodesOfEntries entries) ≤ octets.length := by
  induction entries generalizing octets with
  | nil => exact Nat.zero_le _
  | cons entry entries ih' =>
      obtain ⟨⟨hkey, hvalue⟩, hentries⟩ := List.forall_mem_cons.1 ih
      cases h with
      | cons hframe hframe' hframes =>
          rw [nodesOfEntries, weight_append, weight_append, List.length_append, List.length_append]
          exact Nat.add_le_add (hkey _ hframe)
            (Nat.add_le_add (hvalue _ hframe') (ih' hentries hframes))

/-- A node whose frame is a line: marker and line ending pay for the node, and the line for its
text. -/
theorem weight_line_le {k : Kind} {body : Bytes} {r : Reply} (hnodes : r.nodes = [r])
    (hpayload : r.payload.length ≤ body.length) :
    weight r.nodes ≤ (Frame.line k body).length := by
  rw [hnodes, weight_cons, length_line]
  show 3 + r.payload.length + 0 ≤ _
  omega

/-- A node whose frame is a text behind a line. -/
theorem weight_blob_le {k : Kind} {body text : Bytes} {r : Reply} (hnodes : r.nodes = [r])
    (hpayload : r.payload.length ≤ text.length) :
    weight r.nodes ≤ (Frame.line k body ++ (text ++ crlf)).length := by
  have hline := weight_line_le (k := k) hnodes hpayload
  simp only [length_line, List.length_append] at hline ⊢
  omega

/-- A collection: its line pays for its own node, and what is behind the line for the nodes
inside. -/
theorem weight_collection_le {k : Kind} {body octets : Bytes} {r : Reply} {inner : List Reply}
    (hnodes : r.nodes = r :: inner) (hpayload : r.payload = [])
    (hinner : weight inner ≤ octets.length) :
    weight r.nodes ≤ (Frame.line k body ++ octets).length := by
  rw [hnodes, weight_cons, hpayload, List.length_append, length_line]
  show 3 + 0 + _ ≤ _
  omega

/-- Every frame of a reply is at least as long as the reply weighs. -/
theorem weight_le_of_derives (r : Reply) :
    ∀ frame, Derives frame r → weight r.nodes ≤ frame.length := by
  induction r using Reply.induction with
  | simple text =>
      intro frame h
      cases h with
      | simple hline => exact weight_line_le rfl (Nat.le_refl _)
  | error message =>
      intro frame h
      cases h with
      | error hline => exact weight_line_le rfl (Nat.le_refl _)
  | bigNumber digits =>
      intro frame h
      cases h with
      | bigNumber hline => exact weight_line_le rfl (Nat.le_refl _)
  | integer n =>
      intro frame h
      cases h with
      | integer hspells => exact weight_line_le rfl (Nat.zero_le _)
  | null =>
      intro frame h
      cases h with
      | namedNull => exact weight_line_le rfl (Nat.zero_le _)
      | nullText hspells hneg => exact weight_line_le rfl (Nat.zero_le _)
      | nullArray hspells hneg => exact weight_line_le rfl (Nat.zero_le _)
  | boolean b =>
      intro frame h
      cases h with
      | yes => exact weight_line_le rfl (Nat.zero_le _)
      | no => exact weight_line_le rfl (Nat.zero_le _)
  | double x =>
      intro frame h
      cases h with
      | double hline hread => exact weight_line_le rfl (Nat.zero_le _)
  | bulk text =>
      intro frame h
      cases h with
      | bulk hspells => exact weight_blob_le rfl (Nat.le_refl _)
  | bulkError message =>
      intro frame h
      cases h with
      | bulkError hspells => exact weight_blob_le rfl (Nat.le_refl _)
  | verbatim format text =>
      intro frame h
      cases h with
      | verbatim hspells =>
          refine weight_blob_le rfl ?_
          simp only [payload, List.length_append, List.length_cons]
          omega
  | array items ih =>
      intro frame h
      cases h with
      | array hspells hitems => exact weight_collection_le rfl rfl (weight_items_le ih hitems)
  | set items ih =>
      intro frame h
      cases h with
      | set hspells hitems => exact weight_collection_le rfl rfl (weight_items_le ih hitems)
  | push items ih =>
      intro frame h
      cases h with
      | push hspells hitems => exact weight_collection_le rfl rfl (weight_items_le ih hitems)
  | map entries ih =>
      intro frame h
      cases h with
      | map hspells hentries => exact weight_collection_le rfl rfl (weight_entries_le ih hentries)
  | withAttributes attributes value ih ihvalue =>
      intro frame h
      cases h with
      | withAttributes hspells hattributes hframe =>
          refine weight_collection_le rfl rfl ?_
          rw [weight_append, List.length_append]
          exact Nat.add_le_add (weight_entries_le ih hattributes) (ihvalue _ hframe)

/-! ## Replies that were read -/

/-- The octets that a reader takes for a reply, and it takes no more than there are, pay three for
each node, whether it is a scalar, a collection, an annotation, a key or a value, and one for each
octet of text, whatever the limits are. -/
theorem weight_le_of_parse (limits : Limits) (octets : Bytes) (r : Reply) (taken : Nat)
    (h : parse limits octets = .ok (r, taken)) :
    3 * r.nodes.length + payloadLength r.nodes ≤ taken ∧ taken ≤ octets.length := by
  obtain ⟨frame, rest, rfl, rfl, hframe⟩ := derives_of_parse h
  refine ⟨weight_le_of_derives r frame hframe, ?_⟩
  rw [List.length_append]
  exact Nat.le_add_right _ _

/-- Without limits: a status of two letters weighs all the five octets of its frame. A verbatim
string with attributes has four nodes and five octets of text, and takes 22 of 23 octets. -/
theorem weight_le_of_parse_unlimited :
    let limits : Limits := ⟨18446744073709551615, 18446744073709551615, 18446744073709551615,
      18446744073709551615⟩
    let status : Bytes := [43, 79, 75, 13, 10]
    let octets : Bytes := [124, 49, 13, 10, 43, 107, 13, 10, 95, 13, 10, 61, 53, 13, 10, 116, 120,
      116, 58, 104, 13, 10, 43]
    let attributes : List (Reply × Reply) := [(.simple [107], .null)]
    let r : Reply := .attribute attributes (.verbatim ⟨116, 120, 116⟩ [104])
    parse limits status = .ok (.simple [79, 75], 5) ∧ 3 * 1 + 2 ≤ 5 ∧ 5 ≤ status.length ∧
      parse limits octets = .ok (r, 22) ∧ 3 * 4 + 5 ≤ 22 ∧ 22 ≤ octets.length := by
  intro limits status octets attributes r
  have hstatus : parse limits status = .ok (.simple [79, 75], 5) := rfl
  have hoctets : parse limits octets = .ok (r, 22) := rfl
  obtain ⟨hpaid, htaken⟩ := weight_le_of_parse limits status _ 5 hstatus
  obtain ⟨hpaid', htaken'⟩ := weight_le_of_parse limits octets r 22 hoctets
  exact ⟨hstatus, hpaid, htaken, hoctets, hpaid', htaken'⟩

end RespClient.Reply
