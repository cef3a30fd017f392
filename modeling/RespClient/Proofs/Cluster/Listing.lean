import RespClient.Proofs.Decode.Texts
import RespClient.Proofs.Number.Decimal
import RespClient.Proofs.Text.Lines
import RespClient.Shape.Decoding

/-!
# Lists of nodes written and read back

`ClusterNode.line` writes a node as a line. Each node whose parts are words is read back from its
line (`ClusterNode.ofLine_line`), whatever stands around the line, so a text with one node on each
line is read as the list of these nodes; and a line of too few words makes the whole text an error
(`Shape.decode_listing`).
-/

set_option autoImplicit false

namespace RespClient

open Text

theorem Text.isBlank_of_isVisible {c : Char} (h : Utf8.IsVisible c) : isBlank c = false := by
  unfold Utf8.IsVisible at h
  simp only [isBlank, Bool.or_eq_false_iff, Bool.and_eq_false_iff, decide_eq_false_iff_not,
    beq_eq_false_iff_ne]
  omega

theorem isWord_ofInt (n : Int) : IsWord (Decimal.ofInt n) :=
  ⟨Decimal.ofInt_ne_nil n, fun _ hc => isBlank_of_isVisible (Decimal.isVisible_of_mem_ofInt hc)⟩

/-! ## Addresses -/

namespace ClusterAddress

/-- The bus number after its at sign, if there is one. -/
def busText : Option Nat16Value → List Char
  | none => []
  | some bus => '@' :: Decimal.ofInt bus.val

/-- The hostname after its comma, if there is one. -/
def hostnameText : Option (List Char) → List Char
  | none => []
  | some hostname => ',' :: hostname

/-- The text of an address: `ip:number@bus,hostname`. -/
def text (address : ClusterAddress) : List Char :=
  address.ip ++ ':' :: Decimal.ofInt address.clientPort.val ++ busText address.busPort ++
    hostnameText address.hostname

theorem takeBusPort?_append {front : List Char} (h : '@' ∉ front) (bus : Option Nat16Value) :
    takeBusPort? (front ++ busText bus) = some (front, bus) := by
  cases bus with
  | none =>
      rw [busText, List.append_nil, takeBusPort?, splitFirst_eq_none h]
  | some bus =>
      rw [busText, takeBusPort?, splitFirst_append h]
      simp only [Decimal.read?_ofInt, Option.map_some]

/-- An address is read back when its ip holds neither a comma nor an at sign; the hostname may hold
both, and the ip colons. -/
theorem ofText?_text {address : ClusterAddress} (hcomma : ',' ∉ address.ip)
    (hat : '@' ∉ address.ip) (hhostname : ∀ hostname ∈ address.hostname, hostname ≠ []) :
    ofText? address.text = some address := by
  obtain ⟨ip, clientPort, busPort, hostname⟩ := address
  have hnumber : ∀ {c : Char}, c ≠ '-' → c.isDigit = false → c ∉ ip → c ≠ ':' →
      c ∉ ip ++ ':' :: Decimal.ofInt clientPort.val := by
    intro c hminus hdigit hip hcolon
    simp [hip, hcolon, Decimal.not_mem_ofInt hminus hdigit]
  have hfront : ',' ∉ ip ++ ':' :: Decimal.ofInt clientPort.val ++ busText busPort := by
    rw [List.mem_append, not_or]
    refine ⟨hnumber (by decide) (by decide) hcomma (by decide), ?_⟩
    cases busPort with
    | none => exact nofun
    | some bus => simp [busText, Decimal.not_mem_ofInt]
  have hbus := takeBusPort?_append
    (hnumber (c := '@') (by decide) (by decide) hat (by decide)) busPort
  have hport := splitLast_append ip
    (Decimal.not_mem_ofInt (n := clientPort.val) (c := ':') (by decide) (by decide))
  -- the first comma, the first at sign and the last colon are those between the parts
  unfold ofText? text
  cases hostname with
  | none =>
      rw [hostnameText, List.append_nil, splitFirst_eq_none hfront]
      simp only [hbus, hport, Decimal.read?_ofInt, Option.bind_eq_bind, Option.bind_some]
  | some hostname =>
      have hne : hostname.isEmpty = false := by simpa using hhostname hostname rfl
      rw [hostnameText, splitFirst_append hfront]
      simp only [hne, hbus, hport, Decimal.read?_ofInt, Option.bind_eq_bind, Option.bind_some,
        Bool.false_eq_true, if_false]

end ClusterAddress

/-! ## Nodes -/

namespace ClusterNode

/-- Where the node can be reached. -/
def address (node : ClusterNode) : ClusterAddress :=
  ⟨node.ip.toList, node.clientPort, node.busPort, node.hostname.map String.toList⟩

/-- The words of the line that describes a node. -/
def lineWords (node : ClusterNode) : List (List Char) :=
  node.id.toList :: node.address.text :: [','].intercalate (node.flags.map String.toList) ::
    node.master.elim ['-'] String.toList :: Decimal.ofInt node.pingSent.val ::
    Decimal.ofInt node.pongReceived.val :: Decimal.ofInt node.epoch.val ::
    node.linkState.toList :: node.slots.map String.toList

/-- Text that can be the ip of an address: no part of a line or of an address begins inside it. It
may be empty and may hold colons. -/
def IsIp (text : List Char) : Prop := ∀ c ∈ text, isBlank c = false ∧ c ≠ ',' ∧ c ≠ '@'

instance : DecidablePred IsIp := fun text => List.decidableBAll _ text

/-- The line that describes a node: its words with single spaces between them. -/
def line (node : ClusterNode) : List Char := [' '].intercalate node.lineWords

/-- The parts of the node are words that a line can hold, and none of them looks like another part:
flags hold no comma, and no master is the dash that stands for no master. -/
structure IsWritable (node : ClusterNode) : Prop where
  id : IsWord node.id.toList
  ip : IsIp node.ip.toList
  hostname : ∀ hostname ∈ node.hostname, IsWord hostname.toList
  flags_ne_nil : node.flags ≠ []
  flags : ∀ flag ∈ node.flags, IsWord flag.toList ∧ ',' ∉ flag.toList
  master : ∀ master ∈ node.master, IsWord master.toList ∧ master ≠ "-"
  linkState : IsWord node.linkState.toList
  slots : ∀ slot ∈ node.slots, IsWord slot.toList

variable {node : ClusterNode} {line : List Char}

theorem IsWritable.isWord_address (h : node.IsWritable) : IsWord node.address.text := by
  have hport := (isWord_ofInt node.clientPort.val).2
  unfold address ClusterAddress.text
  refine ⟨by simp, ?_⟩
  simp only [List.forall_mem_append, List.forall_mem_cons]
  refine ⟨⟨⟨fun c hc => (h.ip c hc).1, rfl, hport⟩, ?_⟩, ?_⟩
  · cases node.busPort with
    | none => exact nofun
    | some bus => exact List.forall_mem_cons.2 ⟨rfl, (isWord_ofInt bus.val).2⟩
  · cases hname : node.hostname with
    | none => exact nofun
    | some hostname => exact List.forall_mem_cons.2 ⟨rfl, (h.hostname hostname hname).2⟩

theorem IsWritable.isWord_master (h : node.IsWritable) :
    IsWord (node.master.elim ['-'] String.toList) := by
  cases hmaster : node.master with
  | none => decide
  | some master => exact (h.master master hmaster).1

theorem IsWritable.isWord_flags (h : node.IsWritable) :
    IsWord ([','].intercalate (node.flags.map String.toList)) := by
  refine isWord_intercalate (List.forall_mem_singleton.2 rfl) (by simp [h.flags_ne_nil]) ?_
  exact List.forall_mem_map.2 fun flag hflag => (h.flags flag hflag).1

theorem IsWritable.words_line (h : node.IsWritable) : words node.line = node.lineWords := by
  refine words_intercalate ?_
  simp only [lineWords, List.forall_mem_cons, List.forall_mem_map]
  exact ⟨h.id, h.isWord_address, h.isWord_flags, h.isWord_master, isWord_ofInt _, isWord_ofInt _,
    isWord_ofInt _, h.linkState, h.slots⟩

theorem IsWritable.ofText?_address (h : node.IsWritable) :
    ClusterAddress.ofText? node.address.text = some node.address := by
  refine ClusterAddress.ofText?_text (fun hc => (h.ip _ hc).2.1 rfl) (fun hc => (h.ip _ hc).2.2 rfl)
    fun hostname hhostname => ?_
  obtain ⟨name, hname, rfl⟩ := Option.map_eq_some_iff.1 hhostname
  exact (h.hostname name hname).1

theorem IsWritable.fields_flags (h : node.IsWritable) :
    (fields (· == ',') ([','].intercalate (node.flags.map String.toList))).map String.ofList =
      node.flags := by
  rw [fields_intercalate (by simp [h.flags_ne_nil])
    (List.forall_mem_map.2 fun flag hflag => (h.flags flag hflag).2), List.map_map]
  simp [Function.comp_def]

theorem IsWritable.master_eq (h : node.IsWritable) :
    (if node.master.elim ['-'] String.toList = ['-'] then none
      else some (String.ofList (node.master.elim ['-'] String.toList))) = node.master := by
  cases hmaster : node.master with
  | none => rfl
  | some master =>
      have hne : master.toList ≠ ['-'] := fun heq =>
        (h.master master hmaster).2 (String.toList_injective heq)
      simp only [Option.elim_some, if_neg hne, String.ofList_toList]

/-- Only the words of a line count. -/
theorem ofLine?_congr {line' : List Char} (h : words line = words line') :
    ofLine? line = ofLine? line' := by
  rw [ofLine?, h, ofLine?]

/-- A node is read back from the line that describes it. -/
theorem IsWritable.ofLine?_line (h : node.IsWritable) : ofLine? node.line = some node := by
  rw [ofLine?, h.words_line, lineWords]
  simp only [h.ofText?_address, Decimal.read?_ofInt, h.fields_flags, h.master_eq,
    Option.bind_eq_bind, Option.bind_some]
  simp [address, Function.comp_def]

theorem ofLine?_eq_none (h : (words line).length < 8) : ofLine? line = none := by
  unfold ofLine?
  split
  · next hwords =>
    rw [hwords] at h
    simp only [List.length_cons] at h
    omega
  · rfl

theorem IsWritable.not_isBlankText (h : node.IsWritable) : ¬ IsBlankText node.line := by
  intro hblank
  have hwords : words (node.line ++ []) = words [] := words_blank_append hblank
  rw [List.append_nil, h.words_line] at hwords
  exact List.cons_ne_nil _ _ hwords

theorem IsWritable.ofLine_trim (h : node.IsWritable) : ofLine (trim node.line) = .ok node := by
  rw [ofLine, ofLine?_congr (words_trim node.line), h.ofLine?_line]

/-- The trimmed lines of a text that lists nodes are those of the nodes. -/
theorem trimmedLines_of_lists {nodes : List ClusterNode} {lines : List (List Char)}
    {text : List Char} (hlines : HasLines lines text)
    (hnodes : ∀ node ∈ nodes, node.IsWritable)
    (h : Lists ClusterNode.line IsBlankText nodes lines) :
    trimmedLines text = nodes.map fun node => trim node.line := by
  have hread : (trimmedLines text).filterMap some =
      nodes.filterMap fun node => some (trim node.line) :=
    filterMap_trimmedLines hlines h (fun _ hline => Or.inl hline)
      fun node hnode => (hnodes node hnode).not_isBlankText
  rwa [List.filterMap_some, List.filterMap_eq_map'] at hread

theorem mapM_ofLine {nodes : List ClusterNode} (h : ∀ node ∈ nodes, node.IsWritable) :
    (nodes.map fun node => trim node.line).mapM ofLine = .ok nodes := by
  rw [List.mapM_map, mapM_eq_ok_iff, List.forall₂_same]
  exact fun node hnode => (h node hnode).ofLine_trim

end ClusterNode

namespace Shape

variable {revision : Revision} {reply : Reply} {text : List Char} {lines : List (List Char)}

theorem clusterLines_of_carries (h : reply.Carries revision text) :
    Decoder.clusterLines revision reply.withoutAttributes = .ok (trimmedLines text) := by
  rw [h.withoutAttributes, Decoder.clusterLines, h.readString, ok_bind, String.toList_ofList]

theorem decode_clusterNodes (h : reply.Carries revision text) :
    Shape.clusterNodes.decode revision reply = (trimmedLines text).mapM ClusterNode.ofLine := by
  show (do (← Decoder.clusterLines revision reply.withoutAttributes).mapM ClusterNode.ofLine) = _
  rw [clusterLines_of_carries h, ok_bind]

theorem decode_clusterNode {line : List Char} {rest : List (List Char)}
    (h : reply.Carries revision text) (hlines : trimmedLines text = line :: rest) :
    Shape.clusterNode.decode revision reply = ClusterNode.ofLine line := by
  have hfirst : (Decoder.clusterNode revision).reply reply.withoutAttributes =
      ClusterNode.ofLine line := by
    simp only [Decoder.clusterNode, Decoder.ofReply, clusterLines_of_carries h, ok_bind, hlines]
  exact hfirst

/-- A reply that carries a text of lines gives the nodes that the lines list, in order, and as a
single node the first of them, if each line is blank or holds a node between blanks. If a line that
is not blank has fewer than eight words, it gives no nodes but the error that shows a line which no
node is read from. -/
theorem decode_listing (hlines : HasLines lines text) (hreply : reply.Carries revision text) :
    (∀ nodes : List ClusterNode, (∀ node ∈ nodes, node.IsWritable) →
      Lists ClusterNode.line IsBlankText nodes lines →
        Shape.clusterNodes.decode revision reply = .ok nodes ∧
        ∀ node ∈ nodes.head?, Shape.clusterNode.decode revision reply = .ok node) ∧
    (∀ line ∈ lines, ¬ IsBlankText line → (words line).length < 8 →
      ∃ bad ∈ lines, ClusterNode.ofLine? bad = none ∧
        Shape.clusterNodes.decode revision reply =
          .error (.malformed (.clusterLine (String.ofList (trim bad))))) := by
  refine ⟨fun nodes hnodes hlist => ?_, fun line hline hblank hshort => ?_⟩
  · have htrimmed := ClusterNode.trimmedLines_of_lists hlines hnodes hlist
    have hdecode := decode_clusterNodes hreply
    rw [htrimmed, ClusterNode.mapM_ofLine hnodes] at hdecode
    refine ⟨hdecode, fun node hnode => ?_⟩
    obtain ⟨rest, rfl⟩ := List.head?_eq_some_iff.1 hnode
    rw [decode_clusterNode hreply htrimmed]
    exact (hnodes node List.mem_cons_self).ofLine_trim
  · have htrimmed : trim line ∈ trimmedLines text := by
      rw [trimmedLines_of_hasLines hlines]
      refine List.mem_filter.2 ⟨List.mem_map_of_mem hline, ?_⟩
      simpa using fun hnil => hblank (trim_eq_nil_iff.1 hnil)
    have herror : ClusterNode.ofLine (trim line) =
        .error (.malformed (.clusterLine (String.ofList (trim line)))) := by
      rw [ClusterNode.ofLine, ClusterNode.ofLine?_congr (words_trim line),
        ClusterNode.ofLine?_eq_none hshort]
    obtain ⟨shown, hshown, e, he, hdecode⟩ := mapM_eq_error_of_mem htrimmed herror
    -- the first line that fails need not be the short one
    rw [trimmedLines_of_hasLines hlines] at hshown
    obtain ⟨bad, hbad, rfl⟩ := List.mem_map.1 (List.mem_filter.1 hshown).1
    refine ⟨bad, hbad, ?_⟩
    rw [← ClusterNode.ofLine?_congr (words_trim bad), decode_clusterNodes hreply, hdecode]
    rw [ClusterNode.ofLine] at he
    split at he
    · cases he
    · next hnone =>
      cases he
      exact ⟨hnone, rfl⟩

/-- A node of version 6 with a bus number and a hostname that holds both marks of an address, and a
replica with an empty ip; then the first of them after a line of three words. -/
theorem decode_listing_ipv6 :
    let first : ClusterNode :=
      { id := "a1", ip := "::1", clientPort := ⟨6379, by decide, by decide⟩,
        busPort := some ⟨16379, by decide, by decide⟩, hostname := some "h,o@st",
        flags := ["myself", "master"], linkState := "connected", slots := ["0-5460", "[93-<-b2]"] }
    let second : ClusterNode :=
      { id := "b2", clientPort := ⟨7, by decide, by decide⟩, flags := ["slave"],
        master := some "a1", epoch := ⟨3, by decide, by decide⟩, linkState := "connected" }
    let text := [' '] ++ '\r' :: '\n' :: (['\t'] ++ first.line ++ [' '] ++ '\n' :: second.line)
    let spoiled := ['a', ' ', 'b', ' ', 'c'] ++ '\n' :: first.line
    first.line =
        "a1 ::1:6379@16379,h,o@st myself,master - 0 0 0 connected 0-5460 [93-<-b2]".toList ∧
      second.line = "b2 :7 slave a1 0 0 3 connected".toList ∧
      (∀ node ∈ [first, second], node.IsWritable) ∧
      Shape.clusterNodes.decode .third (.verbatim ⟨116, 120, 116⟩ (Utf8.encode text)) =
        .ok [first, second] ∧
      Shape.clusterNode.decode .third (.verbatim ⟨116, 120, 116⟩ (Utf8.encode text)) = .ok first ∧
      ∃ bad, Shape.clusterNodes.decode .second (.bulk (Utf8.encode spoiled)) =
        .error (.malformed (.clusterLine bad)) := by
  intro first second text spoiled
  have hfirst : first.IsWritable :=
    ⟨by decide, by decide, by decide, by decide, by decide, by decide, by decide, by decide⟩
  have hsecond : second.IsWritable :=
    ⟨by decide, by decide, by decide, by decide, by decide, by decide, by decide, by decide⟩
  have hnodes : ∀ node ∈ [first, second], node.IsWritable := by simp [hfirst, hsecond]
  have hlast : HasLines [second.line] second.line := .last (by decide)
  have hlines : HasLines [[' '], ['\t'] ++ first.line ++ [' '], second.line] text :=
    .returnFeed (by decide) (.feed (by decide) hlast)
  have hlist : Lists ClusterNode.line IsBlankText [first, second]
      [[' '], ['\t'] ++ first.line ++ [' '], second.line] :=
    .skip (by decide) (.item first (by decide) (by decide) (.plain second .nil))
  have hverbatim : Reply.Carries .third text (.verbatim ⟨116, 120, 116⟩ (Utf8.encode text)) :=
    .verbatim rfl _
  have hbulk : Reply.Carries .second spoiled (.bulk (Utf8.encode spoiled)) := .bulk
  obtain ⟨hdecode, hhead⟩ := (decode_listing hlines hverbatim).1 _ hnodes hlist
  have hspoiled : HasLines [['a', ' ', 'b', ' ', 'c'], first.line] spoiled :=
    .feed (by decide) (.last (by decide))
  obtain ⟨bad, -, -, herror⟩ := (decode_listing hspoiled hbulk).2 _ List.mem_cons_self
    (by decide) (by decide)
  exact ⟨by decide, by decide, hnodes, hdecode, hhead first rfl, _, herror⟩

end Shape

end RespClient
