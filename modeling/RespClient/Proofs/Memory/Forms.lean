import RespClient.Proofs.Decode.Items
import RespClient.Proofs.Decode.Texts
import RespClient.Proofs.Text.Lines
import RespClient.Shape.Decoding

/-!
# Memory reports in their three forms

The same entries can come as lines of a text, as a flat array of names and values, or as a map. A
line is trimmed as a whole, so an entry loses the blanks at the end of its value there, but no value
is read differently without them (`record_withoutEnd`). The three forms therefore give one report
(`Shape.decode_memoryReport`).
-/

set_option autoImplicit false

namespace RespClient

open Text

namespace MemoryEntry

/-- The line of a text that holds an entry. -/
def line (entry : MemoryEntry) : List Char := entry.name.toList ++ ':' :: entry.raw

/-- Lines of a text that hold no entry: comments and lines of blanks only. -/
def IsLeftOut (line : List Char) : Prop := IsBlankText line ∨ (trim line).head? = some '#'

/-- The name can stand in front of a colon: it holds none, does not begin like a comment, has no
blanks around it, and does not stand for another name. -/
structure IsWritable (entry : MemoryEntry) : Prop where
  colon : ':' ∉ entry.name.toList
  comment : entry.name.toList.head? ≠ some '#'
  blanks : trim entry.name.toList = entry.name.toList
  reportName : MemoryEntry.reportName entry.name = entry.name

/-- The entry without the blanks at the end of its value. -/
def withoutEnd (entry : MemoryEntry) : MemoryEntry :=
  { entry with raw := entry.raw.rdropWhile isBlank }

/-- The replies that give an entry: strings of its name and of its value, where an integer may
stand for its digits. -/
def IsGivenBy (entry : MemoryEntry) (row : Reply × Reply) : Prop :=
  row.1.text? = some (Utf8.ofString entry.name) ∧
    (row.2.text? = some (Utf8.encode entry.raw) ∨
      ∃ n, row.2 = .integer n ∧ entry.raw = Decimal.ofInt n.val)

variable {entry : MemoryEntry} {row : Reply × Reply}

theorem IsWritable.head?_line (h : entry.IsWritable) :
    ∃ c, entry.line.head? = some c ∧ c ≠ '#' ∧ isBlank c = false := by
  unfold line
  cases hname : entry.name.toList with
  | nil => exact ⟨':', rfl, by decide, by decide⟩
  | cons c name =>
      have hcomment := h.comment
      have hblanks := h.blanks
      rw [hname] at hcomment hblanks
      exact ⟨c, rfl, fun heq => hcomment (congrArg some heq), isBlank_of_trim_eq hblanks⟩

theorem IsWritable.not_isBlankText (h : entry.IsWritable) : ¬ IsBlankText entry.line := by
  obtain ⟨c, hhead, -, hc⟩ := h.head?_line
  intro hblank
  rw [hblank c (List.mem_of_mem_head? hhead)] at hc
  cases hc

/-- The line of an entry loses the blanks at its end. -/
theorem IsWritable.trim_line (h : entry.IsWritable) : trim entry.line = entry.withoutEnd.line := by
  obtain ⟨c, hhead, -, hc⟩ := h.head?_line
  obtain ⟨rest, hline⟩ := List.head?_eq_some_iff.1 hhead
  have hstart : entry.line.dropWhile isBlank = entry.line := by
    rw [hline, List.dropWhile_cons_of_neg (by simp [hc])]
  rw [trim_eq, hstart, line, rdropWhile_append_cons (by decide)]
  rfl

theorem IsWritable.ofLine?_trim_line (h : entry.IsWritable) :
    ofLine? (trim entry.line) = some entry.withoutEnd := by
  obtain ⟨c, hhead, hhash, -⟩ := h.head?_line
  have hcomment : entry.withoutEnd.line.head? ≠ some '#' := by
    have hsame : entry.withoutEnd.line.head? = entry.line.head? := by
      simp only [line, withoutEnd, List.head?_append, List.head?_cons]
    rw [hsame, hhead]
    simpa using hhash
  have hsplit : splitFirst ':' entry.withoutEnd.line =
      some (entry.name.toList, entry.withoutEnd.raw) := splitFirst_append h.colon _
  rw [h.trim_line, ofLine?, if_neg hcomment, hsplit, Option.map_some, String.ofList_toList,
    h.reportName]
  rfl

theorem IsGivenBy.ofReplies? (h : entry.IsGivenBy row) : ofReplies? row = some entry := by
  obtain ⟨name, raw⟩ := entry
  obtain ⟨key, value⟩ := row
  obtain ⟨hkey, hvalue⟩ := h
  have hname : Utf8.decode? (Utf8.ofString name) = some name.toList := by
    rw [Utf8.decode?, Utf8.ofString, Utf8.decode_encode]
    rfl
  have hraw : rawOfReply? value = some raw := by
    rcases hvalue with htext | ⟨n, rfl, rfl⟩
    -- integers and doubles, which are written out, carry no text
    · rw [← Utf8.decodeLossy_encode raw]
      cases value <;> simp_all [rawOfReply?, Reply.text?]
    · rfl
  simp only [MemoryEntry.ofReplies?, hkey, hname, hraw, Option.bind_eq_bind, Option.bind_some,
    String.ofList_toList]

end MemoryEntry

namespace MemoryReport

variable {entries : List MemoryEntry}

/-- Blanks at the end of a value make no difference to the report. -/
theorem record_withoutEnd (report : MemoryReport) (entry : MemoryEntry) :
    report.record entry.withoutEnd = report.record entry := by
  simp only [record, MemoryEntry.withoutEnd, MemoryEntry.ratioValue, MemoryEntry.counterValue,
    trim_rdropWhile]

theorem ofEntries_withoutEnd (entries : List MemoryEntry) :
    ofEntries (entries.map MemoryEntry.withoutEnd) = ofEntries entries := by
  simp only [ofEntries, List.foldl_map, record_withoutEnd]

/-- A text of lines gives the report of the entries that the lines hold. -/
theorem ofText_of_lists {lines : List (List Char)} {text : List Char}
    (hlines : HasLines lines text) (hentries : ∀ entry ∈ entries, entry.IsWritable)
    (h : Lists MemoryEntry.line MemoryEntry.IsLeftOut entries lines) :
    ofText text = ofEntries entries := by
  have hskip : ∀ line, MemoryEntry.IsLeftOut line →
      IsBlankText line ∨ MemoryEntry.ofLine? (trim line) = none :=
    fun line hline => hline.imp_right fun hcomment => if_pos hcomment
  have hread : ∀ entry ∈ entries,
      MemoryEntry.ofLine? (trim entry.line) = some entry.withoutEnd :=
    fun entry hentry => (hentries entry hentry).ofLine?_trim_line
  rw [ofText, filterMap_trimmedLines hlines h hskip
    fun entry hentry => (hentries entry hentry).not_isBlankText, List.filterMap_congr hread,
    List.filterMap_eq_map', ofEntries_withoutEnd]

theorem filterMap_ofReplies? {rows : List (Reply × Reply)}
    (h : List.Forall₂ MemoryEntry.IsGivenBy entries rows) :
    rows.filterMap MemoryEntry.ofReplies? = entries := by
  induction h with
  | nil => rfl
  | cons hrow _ ih => rw [List.filterMap_cons_some hrow.ofReplies?, ih]

end MemoryReport

namespace Decoder

variable {revision : Revision} {entries : List MemoryEntry} {rows : List (Reply × Reply)}

theorem memoryReport_of_holdsText {reply : Reply} {octets : Bytes}
    (h : reply.HoldsText revision octets) :
    (memoryReport revision).reply reply = .ok (.ofText (Utf8.decodeLossy octets)) := by
  have hread : (memoryReport revision).reply reply =
      (readText revision reply >>= fun text => .ok (.ofText (Utf8.decodeLossy text))) := by
    cases h <;> rfl
  rw [hread, h.readText, ok_bind]

theorem memoryReport_of_carries {reply : Reply} {text : List Char}
    (h : reply.Carries revision text) :
    (memoryReport revision).reply reply = .ok (.ofText text) := by
  rw [memoryReport_of_holdsText h.holdsText, Utf8.decodeLossy_encode]

theorem memoryReport_array (h : List.Forall₂ MemoryEntry.IsGivenBy entries rows) :
    (memoryReport revision).reply (.array (flattened rows)) = .ok (.ofEntries entries) := by
  show Except.ok (MemoryReport.ofEntries
    ((adjacentPairs (flattened rows)).filterMap MemoryEntry.ofReplies?)) = _
  rw [adjacentPairs_flattened, MemoryReport.filterMap_ofReplies? h]

theorem memoryReport_map (hthird : revision.isThird = true)
    (h : List.Forall₂ MemoryEntry.IsGivenBy entries rows) :
    (memoryReport revision).reply (.map rows) = .ok (.ofEntries entries) := by
  show (if revision.isThird then
      Except.ok (MemoryReport.ofEntries (rows.filterMap MemoryEntry.ofReplies?))
    else .error (Error.unexpected .string (.map rows))) = _
  rw [if_pos hthird, MemoryReport.filterMap_ofReplies? h]

end Decoder

namespace Shape

/-- Entries give the same report in three forms: as the lines of a text with comments and blank
lines between them, as an array of names and values, and as a map of them under the third revision.
In an array or a map an integer may stand for its digits. Names may repeat or stand for nothing, and
values need not be numbers. -/
theorem decode_memoryReport {entries : List MemoryEntry} {rows : List (Reply × Reply)}
    (hentries : ∀ entry ∈ entries, entry.IsWritable)
    (hrows : List.Forall₂ MemoryEntry.IsGivenBy entries rows) (revision : Revision) :
    (∀ (lines : List (List Char)) (text : List Char) (reply : Reply), HasLines lines text →
      Lists MemoryEntry.line MemoryEntry.IsLeftOut entries lines → reply.Carries revision text →
        Shape.memoryReport.decode revision reply = .ok (.ofEntries entries)) ∧
    Shape.memoryReport.decode revision (.array (flattened rows)) = .ok (.ofEntries entries) ∧
    (revision.isThird = true →
      Shape.memoryReport.decode revision (.map rows) = .ok (.ofEntries entries)) := by
  refine ⟨fun lines text reply hlines hlist hreply => ?_, Decoder.memoryReport_array hrows,
    fun hthird => Decoder.memoryReport_map hthird hrows⟩
  have hdecode := Decoder.memoryReport_of_carries hreply
  rw [MemoryReport.ofText_of_lists hlines hentries hlist] at hdecode
  rw [Shape.decode, hreply.withoutAttributes]
  exact hdecode

/-- A counter given twice, the second time by an integer in the array and the map; a name that
stands for nothing; and a counter whose value is no number. -/
theorem decode_memoryReport_twice :
    let first : MemoryEntry := ⟨"keys.count", [' ', '7', '\t']⟩
    let second : MemoryEntry := ⟨"db.0", ['x', ':', '%']⟩
    let third : MemoryEntry := ⟨"lua.caches", ['%']⟩
    let fourth : MemoryEntry := ⟨"keys.count", ['4', '2']⟩
    let entries := [first, second, third, fourth]
    let bulk (text : List Char) : Reply := .bulk (Utf8.encode text)
    let rows : List (Reply × Reply) :=
      [(bulk "keys.count".toList, bulk [' ', '7', '\t']),
        (bulk "db.0".toList, bulk ['x', ':', '%']), (bulk "lua.caches".toList, bulk ['%']),
        (bulk "keys.count".toList, .integer ⟨42, by decide, by decide⟩)]
    let text := ['#', ':'] ++ '\r' :: '\n' :: (first.line ++ '\r' :: '\n' :: ([] ++ '\n' ::
      ([' '] ++ second.line ++ ['\t'] ++ '\n' :: (third.line ++ '\n' :: fourth.line))))
    text = "#:\r\nkeys.count: 7\t\r\n\n db.0:x:%\t\nlua.caches:%\nkeys.count:42".toList ∧
      (MemoryReport.ofEntries entries).counter .keysCount = ⟨42, by decide, by decide⟩ ∧
      Shape.memoryReport.decode .second (bulk text) = .ok (.ofEntries entries) ∧
      Shape.memoryReport.decode .second (.array (flattened rows)) = .ok (.ofEntries entries) ∧
      Shape.memoryReport.decode .third (.map rows) = .ok (.ofEntries entries) := by
  intro first second third fourth entries bulk rows text
  have hentries : ∀ entry ∈ entries, entry.IsWritable := by
    simp only [entries, List.forall_mem_cons]
    exact ⟨⟨by decide, by decide, by decide, by decide⟩,
      ⟨by decide, by decide, by decide, by decide⟩, ⟨by decide, by decide, by decide, by decide⟩,
      ⟨by decide, by decide, by decide, by decide⟩, nofun⟩
  have hrows : List.Forall₂ MemoryEntry.IsGivenBy entries rows :=
    .cons ⟨rfl, .inl rfl⟩ (.cons ⟨rfl, .inl rfl⟩ (.cons ⟨rfl, .inl rfl⟩
      (.cons ⟨rfl, .inr ⟨_, rfl, by decide⟩⟩ .nil)))
  have hlines : HasLines [['#', ':'], first.line, [], [' '] ++ second.line ++ ['\t'], third.line,
      fourth.line] text :=
    .returnFeed (by decide) (.returnFeed (by decide) (.feed (by decide) (.feed (by decide)
      (.feed (by decide) (.last (by decide))))))
  have hlist : Lists MemoryEntry.line MemoryEntry.IsLeftOut entries [['#', ':'], first.line, [],
      [' '] ++ second.line ++ ['\t'], third.line, fourth.line] :=
    .skip (.inr rfl) (.plain first (.skip (.inl (by decide)) (.item second (by decide) (by decide)
      (.plain third (.plain fourth .nil)))))
  obtain ⟨htext, harray, -⟩ := decode_memoryReport hentries hrows .second
  obtain ⟨-, -, hmap⟩ := decode_memoryReport hentries hrows .third
  exact ⟨by decide, by decide, htext _ text _ hlines hlist .bulk, harray, hmap rfl⟩

end Shape

end RespClient
