import RespClient.Number.Literal
import RespClient.Proofs.Reply.Measure

/-!
# The grammar of replies

`Derives` says which octets are a frame of which reply, one constructor for each production and
without a reader: a marker, a line, and behind it what the line announces. Readers are lenient where
writers are not, so a reply has many frames: an integer may have a plus sign and leading zeros, and
null has three kinds of frames. The wire form is one of the frames of a reply (`derives_encode`).
-/

set_option autoImplicit false

namespace RespClient

/-- Octets that spell an integer of the signed 64-bit range: an optional sign before one or more
digits. -/
structure SpellsInteger (octets : Bytes) (n : Int) : Prop where
  spells : ∃ text, octets = Utf8.encode text ∧ Decimal.Spells text n
  low : -2 ^ 63 ≤ n
  high : n < 2 ^ 63

namespace Reply

mutual

/-- The octets are a frame of the reply. A line is a marker, a body without a return octet and the
line ending. -/
inductive Derives : Bytes → Reply → Prop
  | simple {body : Bytes} (hline : 13 ∉ body) : Derives (Frame.line .status body) (.simple body)
  | error {body : Bytes} (hline : 13 ∉ body) : Derives (Frame.line .error body) (.error body)
  | bigNumber {body : Bytes} (hline : 13 ∉ body) :
    Derives (Frame.line .bigNumber body) (.bigNumber body)
  | integer {body : Bytes} {n : Int64Value} (hspells : SpellsInteger body n.val) :
    Derives (Frame.line .integer body) (.integer n)
  | yes : Derives (Frame.line .boolean [116]) (.boolean true)
  | no : Derives (Frame.line .boolean [102]) (.boolean false)
  | double {text : List Char} {x : Double} (hline : 13 ∉ Utf8.encode text)
    (hread : Literal.read? .double text = some x) :
    Derives (Frame.line .double (Utf8.encode text)) (.double x)
  | namedNull : Derives (Frame.line .nil []) .null
  | nullText {body : Bytes} {n : Int} (hspells : SpellsInteger body n) (hneg : n < 0) :
    Derives (Frame.line .string body) .null
  | nullArray {body : Bytes} {n : Int} (hspells : SpellsInteger body n) (hneg : n < 0) :
    Derives (Frame.line .array body) .null
  | bulk {body text : Bytes} (hspells : SpellsInteger body text.length) :
    Derives (Frame.line .string body ++ (text ++ crlf)) (.bulk text)
  | bulkError {body message : Bytes} (hspells : SpellsInteger body message.length) :
    Derives (Frame.line .bulkError body ++ (message ++ crlf)) (.bulkError message)
  /-- The length counts the format and the colon behind it, too. -/
  | verbatim {body text : Bytes} {format : TextFormat}
    (hspells : SpellsInteger body (format.octets ++ 58 :: text).length) :
    Derives (Frame.line .verbatim body ++ ((format.octets ++ 58 :: text) ++ crlf))
      (.verbatim format text)
  | array {body octets : Bytes} {items : List Reply} (hspells : SpellsInteger body items.length)
    (hitems : DerivesItems octets items) :
    Derives (Frame.line .array body ++ octets) (.array items)
  | set {body octets : Bytes} {items : List Reply} (hspells : SpellsInteger body items.length)
    (hitems : DerivesItems octets items) :
    Derives (Frame.line .set body ++ octets) (.set items)
  | push {body octets : Bytes} {items : List Reply} (hspells : SpellsInteger body items.length)
    (hitems : DerivesItems octets items) :
    Derives (Frame.line .push body ++ octets) (.push items)
  | map {body octets : Bytes} {entries : List (Reply × Reply)}
    (hspells : SpellsInteger body entries.length) (hentries : DerivesEntries octets entries) :
    Derives (Frame.line .map body ++ octets) (.map entries)
  | withAttributes {body octets inner : Bytes} {attributes : List (Reply × Reply)} {value : Reply}
    (hspells : SpellsInteger body attributes.length)
    (hattributes : DerivesEntries octets attributes) (hvalue : Derives inner value) :
    Derives (Frame.line .attribute body ++ (octets ++ inner)) (.attribute attributes value)

/-- The octets are frames of the items, one after the other. -/
inductive DerivesItems : Bytes → List Reply → Prop
  | nil : DerivesItems [] []
  | cons {frame octets : Bytes} {item : Reply} {items : List Reply} (hitem : Derives frame item)
    (hitems : DerivesItems octets items) : DerivesItems (frame ++ octets) (item :: items)

/-- The octets are frames of the keys and values, each key before its value. -/
inductive DerivesEntries : Bytes → List (Reply × Reply) → Prop
  | nil : DerivesEntries [] []
  | cons {frame frame' octets : Bytes} {key value : Reply} {entries : List (Reply × Reply)}
    (hkey : Derives frame key) (hvalue : Derives frame' value)
    (hentries : DerivesEntries octets entries) :
    DerivesEntries (frame ++ (frame' ++ octets)) ((key, value) :: entries)

end

end Reply

/-! ## Spelled integers -/

theorem SpellsInteger.return_not_mem {octets : Bytes} {n : Int} (h : SpellsInteger octets n) :
    13 ∉ octets := by
  obtain ⟨text, rfl, hspells⟩ := h.spells
  exact Utf8.return_not_mem_encode (Decimal.isVisible_of_spells hspells)

/-- A spelled integer is one of the integers of the wire. -/
def SpellsInteger.value {octets : Bytes} {n : Int} (h : SpellsInteger octets n) : Int64Value :=
  ⟨n, h.low, Int.le_sub_one_of_lt h.high⟩

theorem spellsInteger_ofInt (n : Int64Value) :
    SpellsInteger (Utf8.encode (Decimal.ofInt n.val)) n.val := by
  have hlow : -2 ^ 63 ≤ n.val := n.below_le
  have hhigh : n.val ≤ 2 ^ 63 - 1 := n.le_above
  refine ⟨⟨_, rfl, ?_⟩, hlow, by omega⟩
  exact (Decimal.read_eq_ok_iff rfl).1 (Decimal.read_ofInt n)

theorem ofNat_val {n : Nat} (h : n ≤ Width.int64.above) :
    Decimal.ofInt (Sized.ofNat n h : Int64Value).val = Decimal.ofNat n := by
  show Decimal.ofInt (n : Int) = Decimal.ofNat n
  unfold Decimal.ofInt
  rw [if_neg (by omega)]
  rfl

theorem spellsInteger_ofNat {n : Nat} (h : n < 2 ^ 63) :
    SpellsInteger (Utf8.encode (Decimal.ofNat n)) n := by
  have habove : n ≤ Width.int64.above := Nat.le_of_lt_succ h
  rw [← ofNat_val habove]
  exact spellsInteger_ofInt (.ofNat n habove)

namespace Reply

theorem Derives.length_pos {frame : Bytes} {r : Reply} (h : Derives frame r) :
    0 < frame.length := by
  cases h <;> exact Nat.succ_pos _

/-! ## The wire form -/

theorem derivesItems_encode {items : List Reply} (h : ∀ r ∈ items, Derives r.encode r) :
    DerivesItems (encodeItems items) items := by
  induction items with
  | nil => exact .nil
  | cons item items ih =>
      obtain ⟨hitem, hitems⟩ := List.forall_mem_cons.1 h
      exact .cons hitem (ih hitems)

theorem derivesEntries_encode {entries : List (Reply × Reply)}
    (h : ∀ e ∈ entries, Derives e.1.encode e.1 ∧ Derives e.2.encode e.2) :
    DerivesEntries (encodeEntries entries) entries := by
  induction entries with
  | nil => exact .nil
  | cons entry entries ih =>
      obtain ⟨⟨hkey, hvalue⟩, hentries⟩ := List.forall_mem_cons.1 h
      exact .cons hkey hvalue (ih hentries)

/-- The wire form of a framable reply is one of its frames. -/
theorem derives_encode (r : Reply) : r.Framable → Derives r.encode r := by
  induction r using Reply.induction with
  | simple text => exact fun h => .simple (h.line _ (self_mem_nodes _))
  | error message => exact fun h => .error (h.line _ (self_mem_nodes _))
  | integer n => exact fun _ => .integer (spellsInteger_ofInt n)
  | bulk text => exact fun h => .bulk (spellsInteger_ofNat (h.length_lt _ (self_mem_nodes _)))
  | null =>
      intro _
      exact .nullText (spellsInteger_ofInt (.negOfNat 1 (by decide))) (by decide)
  | array items ih =>
      intro h
      have hitems := h.of_mem_items (List.subset_cons_self _ _)
      refine .array (spellsInteger_ofNat (h.count_lt _ (self_mem_nodes _))) ?_
      exact derivesItems_encode fun r hr => ih r hr (hitems r hr)
  | boolean b =>
      intro _
      cases b with
      | false => exact .no
      | true => exact .yes
  | double x =>
      intro _
      refine .double (Utf8.return_not_mem_encode (isVisible_doubleText x)) ?_
      exact Literal.read?_write .wide x Format.double_hasWideExponent
  | bigNumber digits => exact fun h => .bigNumber (h.line _ (self_mem_nodes _))
  | bulkError message =>
      exact fun h => .bulkError (spellsInteger_ofNat (h.length_lt _ (self_mem_nodes _)))
  | verbatim format text =>
      exact fun h => .verbatim (spellsInteger_ofNat (h.length_lt _ (self_mem_nodes _)))
  | map entries ih =>
      intro h
      have hentries := h.of_mem_entries (List.subset_cons_self _ _)
      refine .map (spellsInteger_ofNat (h.count_lt _ (self_mem_nodes _))) ?_
      exact derivesEntries_encode fun e he =>
        ⟨(ih e he).1 (hentries e he).1, (ih e he).2 (hentries e he).2⟩
  | set items ih =>
      intro h
      have hitems := h.of_mem_items (List.subset_cons_self _ _)
      refine .set (spellsInteger_ofNat (h.count_lt _ (self_mem_nodes _))) ?_
      exact derivesItems_encode fun r hr => ih r hr (hitems r hr)
  | push items ih =>
      intro h
      have hitems := h.of_mem_items (List.subset_cons_self _ _)
      refine .push (spellsInteger_ofNat (h.count_lt _ (self_mem_nodes _))) ?_
      exact derivesItems_encode fun r hr => ih r hr (hitems r hr)
  | withAttributes attributes value ih hvalue =>
      intro h
      have hinside : nodesOfEntries attributes ++ value.nodes ⊆
          (Reply.attribute attributes value).nodes := List.subset_cons_self _ _
      obtain ⟨hsubset, hnodes⟩ := List.append_subset.1 hinside
      have hentries := h.of_mem_entries hsubset
      refine .withAttributes (spellsInteger_ofNat (h.count_lt _ (self_mem_nodes _))) ?_
        (hvalue (h.of_subset hnodes))
      exact derivesEntries_encode fun e he =>
        ⟨(ih e he).1 (hentries e he).1, (ih e he).2 (hentries e he).2⟩

end Reply

end RespClient
