import RespClient.Proofs.Memory.Fields
import RespClient.Proofs.Memory.Forms

/-!
# The last entry of a field counts

A memory report holds, for each field, what the last row that stands for it says
(`MemoryReport.HoldsLast`). A row is a line of a text, two adjacent items of an array or an entry of
a map; `MemoryRow.Gives` says what it means and `MemoryRow.IsIdle` which rows mean nothing. Decoding
a reply with rows never fails, and depends only on the rows that give a field and on the order of
those that give the same one (`Shape.decode_memoryReport_last`).
-/

set_option autoImplicit false

namespace RespClient

open Text

/-! ## Entries of lines and replies -/

namespace MemoryEntry

variable {entry : MemoryEntry}

theorem ofLine?_eq_some_iff {line : List Char} :
    ofLine? line = some entry ↔ line.head? ≠ some '#' ∧ ∃ name, ':' ∉ name ∧
      line = name ++ ':' :: entry.raw ∧ reportName (String.ofList name) = entry.name := by
  constructor
  · intro h
    rw [ofLine?] at h
    split at h
    · cases h
    · next hcomment =>
      obtain ⟨⟨name, raw⟩, hsplit, rfl⟩ := Option.map_eq_some_iff.1 h
      obtain ⟨hname, hline⟩ := splitFirst_eq_some_iff.1 hsplit
      exact ⟨hcomment, name, hname, hline, rfl⟩
  · rintro ⟨hcomment, name, hname, hline, hreport⟩
    rw [ofLine?, if_neg hcomment, splitFirst_eq_some_iff.2 ⟨hname, hline⟩, Option.map_some,
      hreport]

/-- The texts of a value: a string as it is, any octets of it, and an integer or a double written
out. -/
inductive HasRaw : Reply → List Char → Prop
  | text {value : Reply} {octets : Bytes} (h : value.text? = some octets) :
    HasRaw value (Utf8.decodeLossy octets)
  | integer (n : Int64Value) : HasRaw (.integer n) (Decimal.ofInt n.val)
  | double (x : Double) :
    HasRaw (.double x) (Layout.plain.write ['N', 'a', 'N'] ['i', 'n', 'f'] x)

theorem rawOfReply?_eq_some_iff {value : Reply} {raw : List Char} :
    rawOfReply? value = some raw ↔ HasRaw value raw := by
  constructor
  · intro h
    unfold rawOfReply? at h
    split at h
    · cases h
      exact .integer _
    · cases h
      exact .double _
    · obtain ⟨octets, htext, rfl⟩ := Option.map_eq_some_iff.1 h
      exact .text htext
  · intro h
    cases h with
    | text htext => cases value <;> cases htext <;> rfl
    | integer n => rfl
    | double x => rfl

theorem ofReplies?_eq_some_iff {key value : Reply} :
    ofReplies? (key, value) = some entry ↔
      key.text? = some (Utf8.ofString entry.name) ∧ HasRaw value entry.raw := by
  obtain ⟨name, raw⟩ := entry
  simp only [ofReplies?, Option.bind_eq_bind, Option.bind_eq_some_iff, Utf8.decode?_eq_some_iff,
    rawOfReply?_eq_some_iff, Option.some.injEq, MemoryEntry.mk.injEq]
  constructor
  · rintro ⟨octets, hkey, chars, rfl, raw', hraw, rfl, rfl⟩
    rw [Utf8.ofString, String.toList_ofList]
    exact ⟨hkey, hraw⟩
  · rintro ⟨hkey, hraw⟩
    exact ⟨_, hkey, _, rfl, raw, hraw, String.ofList_toList, rfl⟩

end MemoryEntry

/-! ## Rows -/

/-- A part of a reply that can hold an entry of a report: a line of a text, or a name with a
value. -/
inductive MemoryRow where
  | line (text : List Char)
  | pair (key value : Reply)

namespace MemoryRow

/-- The row gives a field, with the text of its value. A line is no comment and has one of the
spellings of the field before its first colon; the key of a pair is the name of the field. -/
inductive Gives : MemoryRow → MemoryField → List Char → Prop
  | line {text name raw : List Char} {field : MemoryField} (hcomment : (trim text).head? ≠ some '#')
    (hname : ':' ∉ name) (htext : trim text = name ++ ':' :: raw)
    (hfield : String.ofList name ∈ field.spellings) :
    Gives (.line text) field raw
  | pair {key value : Reply} {field : MemoryField} {raw : List Char}
    (hkey : key.text? = some (Utf8.ofString field.name)) (hvalue : MemoryEntry.HasRaw value raw) :
    Gives (.pair key value) field raw

/-- The row is left out: a line that is blank, a comment, or has no colon; a key that is no text;
a value that is neither text nor a number; a name that belongs to no field. -/
inductive IsIdle : MemoryRow → Prop
  | blank {text : List Char} (h : IsBlankText text) : IsIdle (.line text)
  | comment {text : List Char} (h : (trim text).head? = some '#') : IsIdle (.line text)
  | noColon {text : List Char} (h : ':' ∉ text) : IsIdle (.line text)
  | lineName {text name raw : List Char} (hname : ':' ∉ name)
    (htext : trim text = name ++ ':' :: raw)
    (h : ∀ field : MemoryField, String.ofList name ∉ field.spellings) :
    IsIdle (.line text)
  | key {key value : Reply} (h : ∀ name, key.text? ≠ some (Utf8.ofString name)) :
    IsIdle (.pair key value)
  | value {key value : Reply} (htext : value.text? = none) (hinteger : ∀ n, value ≠ .integer n)
    (hdouble : ∀ x, value ≠ .double x) : IsIdle (.pair key value)
  | pairName {key value : Reply} {name : String} (hkey : key.text? = some (Utf8.ofString name))
    (h : ∀ field : MemoryField, name ≠ field.name) : IsIdle (.pair key value)

/-- The entry of a row. -/
def meaning? : MemoryRow → Option MemoryEntry
  | .line text => MemoryEntry.ofLine? (trim text)
  | .pair key value => MemoryEntry.ofReplies? (key, value)

variable {row : MemoryRow} {field : MemoryField} {raw : List Char}

theorem gives_iff : row.Gives field raw ↔ row.meaning? = some ⟨field.name, raw⟩ := by
  cases row with
  | line text =>
      rw [meaning?, MemoryEntry.ofLine?_eq_some_iff]
      constructor
      · intro h
        cases h with
        | line hcomment hname htext hfield =>
            exact ⟨hcomment, _, hname, htext, MemoryField.reportName_eq_name_iff.2 hfield⟩
      · rintro ⟨hcomment, name, hname, htext, hfield⟩
        exact .line hcomment hname htext (MemoryField.reportName_eq_name_iff.1 hfield)
  | pair key value =>
      rw [meaning?, MemoryEntry.ofReplies?_eq_some_iff]
      constructor
      · intro h
        cases h with
        | pair hkey hvalue => exact ⟨hkey, hvalue⟩
      · rintro ⟨hkey, hvalue⟩
        exact .pair hkey hvalue

/-- A row gives at most one field. -/
theorem Gives.unique {field' : MemoryField} {raw' : List Char} (h : row.Gives field raw)
    (h' : row.Gives field' raw') : field = field' := by
  have hentry := gives_iff.1 h
  rw [gives_iff.1 h'] at hentry
  exact (MemoryField.name_injective (congrArg MemoryEntry.name (Option.some.inj hentry))).symm

theorem Gives.not_gives {field' : MemoryField} (h : row.Gives field raw) (hne : field ≠ field')
    (raw' : List Char) : ¬ row.Gives field' raw' :=
  fun h' => hne (h.unique h')

/-- A row that is left out has no entry, or one whose name stands for no field. -/
theorem IsIdle.name_ne (h : row.IsIdle) {entry : MemoryEntry} (hentry : row.meaning? = some entry)
    (field : MemoryField) : entry.name ≠ field.name := by
  cases h with
  | blank hblank =>
      rw [meaning?, trim_eq_nil_iff.2 hblank] at hentry
      cases hentry
  | comment hcomment => exact absurd hcomment (MemoryEntry.ofLine?_eq_some_iff.1 hentry).1
  | noColon hcolon =>
      obtain ⟨-, name, -, htext, -⟩ := MemoryEntry.ofLine?_eq_some_iff.1 hentry
      rw [← mem_trim_iff (by decide), htext] at hcolon
      exact absurd (List.mem_append_right name List.mem_cons_self) hcolon
  | lineName hname htext hfield =>
      obtain ⟨-, name', hname', htext', hreport⟩ := MemoryEntry.ofLine?_eq_some_iff.1 hentry
      have hsplit := splitFirst_eq_some_iff.2 ⟨hname, htext⟩
      rw [splitFirst_eq_some_iff.2 ⟨hname', htext'⟩] at hsplit
      cases hsplit
      rw [← hreport]
      exact mt MemoryField.reportName_eq_name_iff.1 (hfield field)
  | key hkey => exact absurd (MemoryEntry.ofReplies?_eq_some_iff.1 hentry).1 (hkey _)
  | value htext hinteger hdouble =>
      obtain ⟨-, hraw⟩ := MemoryEntry.ofReplies?_eq_some_iff.1 hentry
      generalize entry.raw = raw at hraw
      cases hraw with
      | text hvalue =>
          rw [htext] at hvalue
          cases hvalue
      | integer n => exact absurd rfl (hinteger n)
      | double x => exact absurd rfl (hdouble x)
  | pairName hkey hfield =>
      rw [(MemoryEntry.ofReplies?_eq_some_iff.1 hentry).1] at hkey
      rw [String.toList_injective (Utf8.encode_injective (Option.some.inj hkey))]
      exact hfield field

/-- A row is left out exactly when it gives no field. -/
theorem isIdle_iff : row.IsIdle ↔ ∀ field raw, ¬ row.Gives field raw := by
  constructor
  · intro h field raw hgives
    exact h.name_ne (gives_iff.1 hgives) field rfl
  · intro h
    cases row with
    | line text =>
        by_cases hcomment : (trim text).head? = some '#'
        · exact .comment hcomment
        by_cases hcolon : ':' ∈ trim text
        · obtain ⟨name, raw, htext, hname⟩ := List.eq_append_cons_of_mem hcolon
          exact .lineName hname htext fun field hfield =>
            h field raw (.line hcomment hname htext hfield)
        · exact .noColon (by rwa [mem_trim_iff (by decide)] at hcolon)
    | pair key value =>
        by_cases hkey : ∃ name, key.text? = some (Utf8.ofString name)
        · obtain ⟨name, hname⟩ := hkey
          by_cases hfield : ∃ field : MemoryField, name = field.name
          · obtain ⟨field, rfl⟩ := hfield
            have hraw : ∀ raw, ¬ MemoryEntry.HasRaw value raw := fun raw hraw =>
              h field raw (.pair hname hraw)
            refine .value (Option.eq_none_iff_forall_ne_some.2 fun octets hvalue => ?_) ?_ ?_
            · exact hraw _ (.text hvalue)
            · rintro n rfl
              exact hraw _ (.integer n)
            · rintro x rfl
              exact hraw _ (.double x)
          · exact .pairName hname (not_exists.1 hfield)
        · exact .key (not_exists.1 hkey)

/-- Rows that make the same report: a row that is left out is taken away, or two neighbours that
give different fields change places. -/
inductive Rearranged : List MemoryRow → List MemoryRow → Prop
  | leaveOut {before after : List MemoryRow} {row : MemoryRow} (h : row.IsIdle) :
    Rearranged (before ++ row :: after) (before ++ after)
  | exchange {before after : List MemoryRow} {a b : MemoryRow} {f g : MemoryField}
    {rawA rawB : List Char} (ha : a.Gives f rawA) (hb : b.Gives g rawB) (hne : f ≠ g) :
    Rearranged (before ++ a :: b :: after) (before ++ b :: a :: after)

end MemoryRow

/-! ## Reports of rows -/

namespace MemoryReport

variable {rows rows' : List MemoryRow} {field : MemoryField}

/-- The report of some rows. -/
def ofRows (rows : List MemoryRow) : MemoryReport := ofEntries (rows.filterMap MemoryRow.meaning?)

/-- The report holds, for each field, what the last row that gives the field says, and zero if no
row gives it. -/
structure HoldsLast (report : MemoryReport) (rows : List MemoryRow) : Prop where
  last : ∀ {before after : List MemoryRow} {row : MemoryRow} {field : MemoryField}
    {raw : List Char}, rows = before ++ row :: after → row.Gives field raw →
      (∀ later ∈ after, ∀ raw, ¬ later.Gives field raw) → report.value field = field.read raw
  absent : ∀ {field : MemoryField}, (∀ row ∈ rows, ∀ raw, ¬ row.Gives field raw) →
    report.value field = field.zero

theorem name_ne_of_not_gives (h : ∀ row ∈ rows, ∀ raw, ¬ row.Gives field raw) :
    ∀ entry ∈ rows.filterMap MemoryRow.meaning?, entry.name ≠ field.name := by
  intro entry hentry hname
  obtain ⟨row, hrow, heq⟩ := List.mem_filterMap.1 hentry
  refine h row hrow entry.raw (MemoryRow.gives_iff.2 ?_)
  rw [heq, ← hname]

theorem holdsLast_ofRows (rows : List MemoryRow) : (ofRows rows).HoldsLast rows where
  last := by
    rintro before after row field raw rfl hrow hafter
    rw [ofRows, List.filterMap_append, List.filterMap_cons_some (MemoryRow.gives_iff.1 hrow)]
    exact value_ofEntries_last rfl (name_ne_of_not_gives hafter)
  absent h := value_ofEntries_absent (name_ne_of_not_gives h)

theorem ofRows_append (before after : List MemoryRow) :
    ofRows (before ++ after) =
      (after.filterMap MemoryRow.meaning?).foldl record (ofRows before) := by
  rw [ofRows, List.filterMap_append, ofEntries, List.foldl_append]
  rfl

theorem ofRows_of_rearranged (h : MemoryRow.Rearranged rows rows') :
    ofRows rows' = ofRows rows := by
  cases h with
  | @leaveOut before after row hidle =>
      rw [ofRows_append, ofRows_append]
      cases hentry : row.meaning? with
      | none => rw [List.filterMap_cons_none hentry]
      | some entry =>
          rw [List.filterMap_cons_some hentry, List.foldl_cons,
            record_of_unknown (hidle.name_ne hentry)]
  | @exchange before after a b f g rawA rawB ha hb hne =>
      have hA := MemoryRow.gives_iff.1 ha
      have hB := MemoryRow.gives_iff.1 hb
      have hname : f.name ≠ g.name := fun h => hne (MemoryField.name_injective h)
      rw [ofRows_append, ofRows_append, List.filterMap_cons_some hA, List.filterMap_cons_some hB,
        List.filterMap_cons_some hB, List.filterMap_cons_some hA]
      simp only [List.foldl_cons]
      rw [record_comm hname.symm]

/-- The report of a text is that of its lines. -/
theorem ofText_eq_ofRows {lines : List (List Char)} {text : List Char}
    (h : HasLines lines text) : ofText text = ofRows (lines.map .line) := by
  have hread : ∀ line : List Char,
      (if (!(trim line).isEmpty) = true then MemoryEntry.ofLine? (trim line) else none) =
        MemoryRow.meaning? (.line line) := by
    intro line
    rw [MemoryRow.meaning?]
    cases trim line <;> rfl
  rw [ofText, ofRows, trimmedLines_of_hasLines h, List.filterMap_filter, List.filterMap_map,
    List.filterMap_map]
  exact congrArg (fun read => ofEntries (lines.filterMap read)) (funext hread)

theorem filterMap_ofReplies?_eq (entries : List (Reply × Reply)) :
    ofEntries (entries.filterMap MemoryEntry.ofReplies?) =
      ofRows (entries.map fun entry => .pair entry.1 entry.2) := by
  rw [ofRows, List.filterMap_map]
  rfl

end MemoryReport

/-- The rows of a reply under a revision: the lines of a text, the pairs of items of an array or,
under the third revision, the entries of a map. A last item left alone is no row. -/
inductive Reply.HasRows (revision : Revision) : Reply → List MemoryRow → Prop
  | text {reply : Reply} {octets : Bytes} {lines : List (List Char)}
    (h : reply.HoldsText revision octets) (hlines : HasLines lines (Utf8.decodeLossy octets)) :
    HasRows revision reply (lines.map .line)
  | array {entries : List (Reply × Reply)} {rest : List Reply} (h : rest.length ≤ 1) :
    HasRows revision (.array (flattened entries ++ rest))
      (entries.map fun entry => .pair entry.1 entry.2)
  | map {entries : List (Reply × Reply)} (h : revision.isThird = true) :
    HasRows revision (.map entries) (entries.map fun entry => .pair entry.1 entry.2)
  | withAttributes {reply : Reply} {rows : List MemoryRow} (attributes : List (Reply × Reply))
    (h : HasRows revision reply rows) : HasRows revision (.attribute attributes reply) rows

namespace Shape

variable {revision : Revision} {reply : Reply} {rows : List MemoryRow}

theorem decode_memoryReport_of_hasRows (h : reply.HasRows revision rows) :
    Shape.memoryReport.decode revision reply = .ok (.ofRows rows) := by
  induction h with
  | text h hlines =>
      rw [decode, h.withoutAttributes, ← MemoryReport.ofText_eq_ofRows hlines]
      exact Decoder.memoryReport_of_holdsText h
  | @array entries rest h =>
      show Except.ok (MemoryReport.ofEntries
        ((adjacentPairs (flattened entries ++ rest)).filterMap MemoryEntry.ofReplies?)) = _
      rw [adjacentPairs_flattened_append h, MemoryReport.filterMap_ofReplies?_eq]
      rfl
  | @map entries h =>
      show (if revision.isThird then
          Except.ok (MemoryReport.ofEntries (entries.filterMap MemoryEntry.ofReplies?))
        else .error (Error.unexpected .string (.map entries))) = _
      rw [if_pos h, MemoryReport.filterMap_ofReplies?_eq]
      rfl
  | withAttributes attributes _ ih => exact ih

/-- Every text and every array has rows, and a row is left out exactly when it gives no field.
Decoding a reply with rows gives a report that holds, for each of the seventeen fields, what the
last row that gives the field says, or zero. The report stays the same without the rows that are
left out, and when neighbours that give different fields change places. -/
theorem decode_memoryReport_last (revision : Revision) :
    (∀ (octets : Bytes) (reply : Reply), reply.HoldsText revision octets →
      ∃ rows, reply.HasRows revision rows) ∧
    (∀ items, ∃ rows, (Reply.array items).HasRows revision rows) ∧
    (∀ row : MemoryRow, row.IsIdle ↔ ∀ field raw, ¬ row.Gives field raw) ∧
    ∀ (reply : Reply) (rows : List MemoryRow), reply.HasRows revision rows →
      ∃ report : MemoryReport, Shape.memoryReport.decode revision reply = .ok report ∧
        report.HoldsLast rows ∧
        ∀ (other : Reply) (rows' : List MemoryRow), MemoryRow.Rearranged rows rows' →
          other.HasRows revision rows' → Shape.memoryReport.decode revision other = .ok report := by
  refine ⟨fun octets reply h => ?_, fun items => ?_, fun row => MemoryRow.isIdle_iff,
    fun reply rows h => ?_⟩
  · obtain ⟨lines, hlines⟩ := exists_hasLines (Utf8.decodeLossy octets)
    exact ⟨_, .text h hlines⟩
  · obtain ⟨entries, rest, hrest, rfl⟩ := exists_eq_flattened_append items
    exact ⟨_, .array hrest⟩
  · refine ⟨.ofRows rows, decode_memoryReport_of_hasRows h, MemoryReport.holdsLast_ofRows rows,
      fun other rows' hrearranged hother => ?_⟩
    rw [decode_memoryReport_of_hasRows hother, MemoryReport.ofRows_of_rearranged hrearranged]

/-- Two old spellings of one counter, of which the last one counts; a comment; a counter whose line
changes places with the line before it; and a counter in two spellings whose last value is no
number. -/
theorem decode_memoryReport_last_alias :
    let comment : List Char := "# keys.count:9".toList
    let lua : List Char := "used_memory_lua:9".toList
    let scripts : List Char := " used_memory_vm_eval: 7".toList
    let keys : List Char := "keys.count: 4 ".toList
    let buffer : List Char := "mem_aof_buffer:5".toList
    let unread : List Char := "aof.buffer:x".toList
    let reply : Reply := .bulk (Utf8.encode (comment ++ '\r' :: '\n' :: (lua ++ '\n' ::
      (scripts ++ '\r' :: '\n' :: (keys ++ '\n' :: (buffer ++ '\n' :: unread))))))
    let other : Reply := .simple (Utf8.encode (comment ++ '\n' :: (lua ++ '\n' ::
      (keys ++ '\n' :: (scripts ++ '\n' :: (buffer ++ '\n' :: unread))))))
    ∃ report : MemoryReport, Shape.memoryReport.decode .second reply = .ok report ∧
      report.counter .luaCaches = ⟨7, by decide, by decide⟩ ∧
      report.counter .keysCount = ⟨4, by decide, by decide⟩ ∧
      report.counter .aofBuffer = .zero _ ∧
      report.counter .peakAllocated = .zero _ ∧
      Shape.memoryReport.decode .second other = .ok report := by
  intro comment lua scripts keys buffer unread reply other
  have hrows :
      reply.HasRows .second ([comment, lua, scripts, keys, buffer, unread].map .line) := by
    refine .text .bulk ?_
    rw [Utf8.decodeLossy_encode]
    exact .returnFeed (by decide) (.feed (by decide) (.returnFeed (by decide) (.feed (by decide)
      (.feed (by decide) (.last (by decide))))))
  have hother :
      other.HasRows .second ([comment, lua, keys, scripts, buffer, unread].map .line) := by
    refine .text .simple ?_
    rw [Utf8.decodeLossy_encode]
    exact .feed (by decide) (.feed (by decide) (.feed (by decide) (.feed (by decide)
      (.feed (by decide) (.last (by decide))))))
  have hlua : (MemoryRow.line lua).Gives (.counter .luaCaches) ['9'] :=
    MemoryRow.gives_iff.2 (by decide)
  have hscripts : (MemoryRow.line scripts).Gives (.counter .luaCaches) [' ', '7'] :=
    MemoryRow.gives_iff.2 (by decide)
  have hkeys : (MemoryRow.line keys).Gives (.counter .keysCount) [' ', '4'] :=
    MemoryRow.gives_iff.2 (by decide)
  have hbuffer : (MemoryRow.line buffer).Gives (.counter .aofBuffer) ['5'] :=
    MemoryRow.gives_iff.2 (by decide)
  have hunread : (MemoryRow.line unread).Gives (.counter .aofBuffer) ['x'] :=
    MemoryRow.gives_iff.2 (by decide)
  obtain ⟨-, -, hidle, hdecode⟩ := decode_memoryReport_last .second
  obtain ⟨report, hreport, hlast, hrearranged⟩ := hdecode reply _ hrows
  have hlater : ∀ field : MemoryField, field ≠ .counter .aofBuffer →
      ∀ later ∈ [MemoryRow.line buffer, .line unread], ∀ raw, ¬ later.Gives field raw := by
    intro field hne
    simp only [List.forall_mem_cons]
    exact ⟨hbuffer.not_gives hne.symm, hunread.not_gives hne.symm, nofun⟩
  have hafterScripts : ∀ later ∈ [MemoryRow.line keys, .line buffer, .line unread],
      ∀ raw, ¬ later.Gives (.counter .luaCaches) raw :=
    List.forall_mem_cons.2 ⟨hkeys.not_gives (by decide), hlater _ (by decide)⟩
  have hpeak : ∀ row ∈ [comment, lua, scripts, keys, buffer, unread].map MemoryRow.line,
      ∀ raw, ¬ row.Gives (.counter .peakAllocated) raw := by
    simp only [List.map_cons, List.map_nil]
    exact List.forall_mem_cons.2 ⟨(hidle _).1 (.comment (by decide)) _, List.forall_mem_cons.2
      ⟨hlua.not_gives (by decide), List.forall_mem_cons.2 ⟨hscripts.not_gives (by decide),
        List.forall_mem_cons.2 ⟨hkeys.not_gives (by decide), hlater _ (by decide)⟩⟩⟩⟩
  refine ⟨report, hreport, ?_, ?_, ?_, hlast.absent hpeak, ?_⟩
  · exact @hlast.last [.line comment, .line lua] _ _ _ _ rfl hscripts hafterScripts
  · exact @hlast.last [.line comment, .line lua, .line scripts] _ _ _ _ rfl hkeys
      (hlater _ (by decide))
  · exact @hlast.last [.line comment, .line lua, .line scripts, .line keys, .line buffer] _ _ _ _
      rfl hunread nofun
  · have hexchange := @MemoryRow.Rearranged.exchange [.line comment, .line lua]
      [.line buffer, .line unread] _ _ _ _ _ _ hscripts hkeys (by decide)
    exact hrearranged other _ hexchange hother

end Shape

end RespClient
