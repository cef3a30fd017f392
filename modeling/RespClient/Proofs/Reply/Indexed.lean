import RespClient.Proofs.Reply.Checked

/-!
# Replies by index

The reader on indices never takes a step that a machine cannot do, and gives what `Reply.parse`
gives (`Reply.parseIndexed_never_traps`). No limit is needed for that, only that indices stay below
2 ^ 63 - 1, and there that bound is sharp (`Reply.parseIndexed_trapped_of_length`).

The two readers are followed side by side: one stands at an index, the other has the octets from
there on left (`Stands`), and every reader keeps it so (`ReaderRefines`). Sums of indices stay
inside the octets, sums of announced items are refused when they get too large (`refines_book`), and
a depth is counted up only below a limit, which is a machine word itself (`refines_deeper`).
-/

set_option autoImplicit false

namespace RespClient

/-- The index points to the octets that the cursor has left, and the same items are announced. -/
structure Stands (octets : Bytes) (bound : Nat) (position : Position) (cursor : Cursor) : Prop where
  points : PointsTo octets bound position.index cursor.rest
  announced_eq : position.announced.toNat = cursor.announced

/-- The results are equal, and the position of the one stands where the cursor of the other does. -/
def Tracks {α : Type} (octets : Bytes) (bound : Nat) (result : α × Position)
    (result' : α × Cursor) : Prop :=
  result.1 = result'.1 ∧ Stands octets bound result.2 result'.2

/-- Wherever both stand, the reader on indices does what the reader on octets does. -/
def ReaderRefines {α : Type} (octets : Bytes) (bound : Nat)
    (reader : Position → Checked (α × Position))
    (reader' : Cursor → Except ParseFault (α × Cursor)) : Prop :=
  ∀ position cursor, Stands octets bound position cursor →
    Refines (Tracks octets bound) (reader position) (reader' cursor)

theorem Tracks.mono {α : Type} {octets : Bytes} {bound bound' : Nat} {result : α × Position}
    {result' : α × Cursor} (hle : bound ≤ bound') (h : Tracks octets bound result result') :
    Tracks octets bound' result result' :=
  ⟨h.1, h.2.points.mono hle, h.2.announced_eq⟩

/-! ## Booking -/

/-- The same count and the same total, at a depth that can be counted up. -/
structure Booked (depth : UInt64) (booking : UInt64 × UInt64) (booking' : Nat × Nat) : Prop where
  count_eq : booking.1.toNat = booking'.1
  total_eq : booking.2.toNat = booking'.2
  depth_lt : depth.toNat < wordMax

/-- A product and a sum, each checked on its own, are a word if the sum of all is one. -/
theorem exists_total {product announced : Nat} (h : announced + product ≤ wordMax) :
    ∃ total : UInt64, total.toNat = announced + product ∧
      ((word? product).bind fun items => word? (items.toNat + announced)) = some total := by
  obtain ⟨items, hitems, hproduct⟩ := Checked.exists_word? (n := product) (by omega)
  obtain ⟨total, htotal, hsum⟩ := Checked.exists_word? h
  refine ⟨total, htotal, ?_⟩
  rw [hproduct, Option.bind_some, hitems, Nat.add_comm, hsum]

theorem total_eq_none {product announced : Nat} (h : wordMax < announced + product) :
    ((word? product).bind fun items => word? (items.toNat + announced)) = none := by
  by_cases hproduct : product ≤ wordMax
  · obtain ⟨items, hitems, hword⟩ := Checked.exists_word? hproduct
    rw [hword, Option.bind_some, hitems, Checked.word?_eq_none (by omega)]
  · rw [Checked.word?_eq_none (Nat.not_le.1 hproduct), Option.bind_none]

/-- Booking refuses a total that is not a word, so that no step of it traps. -/
theorem refines_book (limits : Limits) (depth weight announced : UInt64) (n : Int64Value) :
    Refines (Booked depth) (Indexed.book limits depth weight announced n)
      (book limits depth.toNat weight.toNat announced.toNat n) := by
  rw [Indexed.book, book]
  simp only [UInt64.le_iff_toNat_le, UInt64.lt_iff_toNat_lt]
  by_cases hdepth : limits.maxDepth.toNat ≤ depth.toNat
  · rw [if_pos hdepth, if_pos hdepth]
    exact .refused
  rw [if_neg hdepth, if_neg hdepth]
  by_cases hneg : n.val < 0
  · rw [if_pos hneg, if_pos hneg]
    exact .refused
  obtain ⟨count, hcount, -, hword⟩ := Checked.exists_wordOfInt hneg
  simp only [if_neg hneg, hword, Checked.ok_bind, ← hcount]
  by_cases hmany : limits.maxCollection.toNat < count.toNat
  · rw [if_pos hmany, if_pos hmany]
    exact .refused
  rw [if_neg hmany, if_neg hmany]
  by_cases hlarge : wordMax < announced.toNat + count.toNat * weight.toNat
  · rw [if_pos hlarge, total_eq_none hlarge]
    exact .refused
  obtain ⟨total, htotal, hsum⟩ := exists_total (Nat.not_lt.1 hlarge)
  rw [if_neg hlarge, hsum, ← htotal]
  simp only
  by_cases hlimit : limits.maxTotal.toNat < total.toNat
  · rw [if_pos hlimit, if_pos hlimit]
    exact .refused
  rw [if_neg hlimit, if_neg hlimit]
  -- the depth is below its limit, which is a word
  have hdeepest : limits.maxDepth.toNat < 2 ^ 64 := limits.maxDepth.toNat_lt
  have hmax := Checked.wordMax_eq
  exact .ok ⟨rfl, rfl, by omega⟩

/-! ## Readers inside a collection -/

section

variable {α : Type} {octets : Bytes} {bound : Nat}

/-- Reading many items, step by step. -/
theorem ReaderRefines.repeated {reader : Position → Checked (α × Position)}
    {reader' : Cursor → Except ParseFault (α × Cursor)}
    (h : ReaderRefines octets bound reader reader') (count : Nat) :
    ReaderRefines octets bound (Indexed.repeated reader count) (repeatReader reader' count) := by
  induction count with
  | zero => exact fun position cursor hstands => .ok ⟨rfl, hstands⟩
  | succ count ih =>
      intro position cursor hstands
      refine (h position cursor hstands).bind fun item item' hitem => ?_
      refine (ih _ _ hitem.2).bind fun items items' hitems => ?_
      exact .ok ⟨congrArg₂ List.cons hitem.1 hitems.1, hitems.2⟩

variable {limits : Limits} {inner : UInt64 → Position → Checked (Reply × Position)}
  {inner' : Cursor → Except ParseFault (Reply × Cursor)} {depth : UInt64}

/-- Below the greatest word there is one more level. -/
theorem refines_deeper
    (hinner : ∀ below : UInt64, below.toNat = depth.toNat + 1 →
      ReaderRefines octets bound (inner below) inner') (hdepth : depth.toNat < wordMax) :
    ReaderRefines octets bound (Indexed.deeper inner depth) inner' := by
  intro position cursor hstands
  obtain ⟨below, hbelow, hadd⟩ := Checked.exists_add (a := depth) (b := 1) hdepth
  rw [Indexed.deeper, hadd]
  exact hinner below hbelow position cursor hstands

theorem ReaderRefines.entry (h : ReaderRefines octets bound (Indexed.deeper inner depth) inner') :
    ReaderRefines octets bound (Indexed.entry inner depth) (readTwice inner') := by
  intro position cursor hstands
  refine (h position cursor hstands).bind fun key key' hkey => ?_
  refine (h _ _ hkey.2).bind fun value value' hvalue => ?_
  exact .ok ⟨congrArg₂ Prod.mk hkey.1 hvalue.1, hvalue.2⟩

/-- A collection is booked and read, and what follows may go one level deeper. -/
theorem refines_counted {β γ : Type} {related : β → γ → Prop}
    {reader : Position → Checked (α × Position)}
    {reader' : Cursor → Except ParseFault (α × Cursor)}
    {next : List α × Position → Checked β} {next' : List α × Cursor → Except ParseFault γ}
    {position : Position} {cursor : Cursor} {weight : UInt64} {n : Int64Value}
    (hreader : depth.toNat < wordMax → ReaderRefines octets bound reader reader')
    (hstands : Stands octets bound position cursor)
    (hnext : depth.toNat < wordMax → ∀ items items', Tracks octets bound items items' →
      Refines related (next items) (next' items')) :
    Refines related (Indexed.counted limits depth weight reader n position >>= next)
      (book limits depth.toNat weight.toNat cursor.announced n >>= fun booking =>
        repeatReader reader' booking.1 ⟨cursor.rest, booking.2⟩ >>= next') := by
  rw [Indexed.counted, Checked.bind_bind, ← hstands.announced_eq]
  refine (refines_book limits depth weight position.announced n).bind fun booking booking' h => ?_
  rw [← h.count_eq]
  have hbooked : Stands octets bound { position with announced := booking.2 }
      ⟨cursor.rest, booking'.2⟩ := ⟨hstands.points, h.total_eq⟩
  refine ((hreader h.depth_lt).repeated booking.1.toNat _ _ hbooked).bind
    fun items items' hitems => ?_
  exact hnext h.depth_lt items items' hitems

theorem takeCount_bind {β : Type} (depth weight : Nat) (cursor : Cursor)
    (next : Nat × Cursor → Except ParseFault β) :
    takeCount limits depth weight cursor >>= next =
      takeInteger cursor.rest >>= fun header =>
        book limits depth weight cursor.announced header.1 >>= fun booking =>
          next (booking.1, ⟨header.2, booking.2⟩) := by
  simp only [takeCount, bind_assoc, ok_bind]

theorem refines_collection {weight : UInt64} {n : Int64Value} (make : List α → Reply)
    {reader : Position → Checked (α × Position)}
    {reader' : Cursor → Except ParseFault (α × Cursor)} {position : Position} {cursor : Cursor}
    (hreader : depth.toNat < wordMax → ReaderRefines octets bound reader reader')
    (hstands : Stands octets bound position cursor) :
    Refines (Tracks octets bound)
      (Indexed.counted limits depth weight reader n position >>= fun items =>
        .ok (make items.1, items.2))
      (book limits depth.toNat weight.toNat cursor.announced n >>= fun booking =>
        repeatReader reader' booking.1 ⟨cursor.rest, booking.2⟩ >>= fun items =>
          .ok (make items.1, items.2)) :=
  refines_counted hreader hstands fun _ _ _ hitems => .ok ⟨congrArg make hitems.1, hitems.2⟩

/-! ## Headers -/

section

variable {β γ : Type} {related : β → γ → Prop} {position : Position} {cursor : Cursor}

theorem Stands.integer_bind {next : Int64Value × UInt64 → Checked β}
    {next' : Int64Value × Bytes → Except ParseFault γ} (hword : octets.length ≤ wordMax)
    (h : Stands octets bound position cursor)
    (hnext : ∀ n index after,
      Stands octets bound { position with index := index } { cursor with rest := after } →
      Refines related (next (n, index)) (next' (n, after))) :
    Refines related (Indexed.integer octets position.index >>= next)
      (takeInteger cursor.rest >>= next') := by
  refine (refines_integer hword h.points).bind fun header header' hheader => ?_
  obtain ⟨n, index⟩ := header
  obtain ⟨n', after⟩ := header'
  obtain ⟨rfl, hindex⟩ := hheader
  exact hnext n index after ⟨hindex, h.announced_eq⟩

/-- A text that was read is not longer than the octets. -/
theorem Stands.blob_bind {next : Option Bytes × UInt64 → Checked β}
    {next' : Option Bytes × Bytes → Except ParseFault γ} (hlong : octets.length < 2 ^ 63 - 1)
    (h : Stands octets bound position cursor)
    (hnext : ∀ text index after, (∀ body, text = some body → body.length ≤ octets.length) →
      Stands octets bound { position with index := index } { cursor with rest := after } →
      Refines related (next (text, index)) (next' (text, after))) :
    Refines related (Indexed.blob limits octets position.index >>= next)
      (takeBlob limits cursor.rest >>= next') := by
  refine (refines_blob hlong h.points).and_eq.bind fun blob blob' hblob => ?_
  obtain ⟨text, index⟩ := blob
  obtain ⟨text', after⟩ := blob'
  obtain ⟨⟨rfl, hindex⟩, htake⟩ := hblob
  refine hnext text index after ?_ ⟨hindex, h.announced_eq⟩
  rintro body rfl
  obtain ⟨-, header, -, hrest⟩ := takeBlob_eq_some_iff.1 htake
  have hlength := h.points.add_length
  rw [hrest] at hlength
  simp only [List.length_append] at hlength
  omega

end

/-! ## Replies -/

/-- A reply that is a line of text. -/
theorem refines_textLine {position : Position} {cursor : Cursor} (make : Bytes → Reply)
    (hword : octets.length ≤ wordMax) (h : Stands octets bound position cursor) :
    Refines (Tracks octets bound) (Indexed.textLine octets make position)
      (takeLine cursor.rest >>= fun parts =>
        .ok (make parts.1, { cursor with rest := parts.2 })) := by
  refine (refines_lineEnd hword h.points).bind fun last parts hline => ?_
  obtain ⟨next, hadd, hnext⟩ := hline.exists_next hword h.points
  simp only [hline.slice_eq h.points, hadd, Checked.ok_bind]
  exact .ok ⟨rfl, hnext, h.announced_eq⟩

/-- The rest of a reply, where replies one level deeper are read alike. -/
theorem refines_body {position : Position} {cursor : Cursor} (hlong : octets.length < 2 ^ 63 - 1)
    (hinner : ∀ below : UInt64, below.toNat = depth.toNat + 1 →
      ReaderRefines octets bound (inner below) inner')
    (h : Stands octets bound position cursor) (kind : Kind) :
    Refines (Tracks octets bound) (Indexed.body limits octets inner depth position kind)
      (takeBody limits inner' depth.toNat cursor kind) := by
  have hword := Checked.le_wordMax hlong
  have hitems := refines_deeper hinner
  have hentries := fun hdepth => (hitems hdepth).entry
  cases kind with
  | status => exact refines_textLine .simple hword h
  | error => exact refines_textLine .error hword h
  | bigNumber => exact refines_textLine .bigNumber hword h
  | integer =>
      refine h.integer_bind hword fun n index after hafter => ?_
      exact .ok ⟨rfl, hafter⟩
  | double =>
      refine (refines_double hword h.points).bind fun number number' hnumber => ?_
      exact .ok ⟨congrArg Reply.double hnumber.1, hnumber.2, h.announced_eq⟩
  | nil =>
      refine (refines_lineEnd hword h.points).bind fun last parts hline => ?_
      obtain ⟨next, hadd, hnext⟩ := hline.exists_next hword h.points
      have hempty : last = position.index ↔ parts.1.isEmpty = true := by
        rw [← UInt64.toNat_inj, hline.toNat_eq, List.isEmpty_iff_length_eq_zero]
        omega
      simp only [hempty, hadd, Checked.ok_bind]
      by_cases hnone : parts.1.isEmpty = true
      · simp only [if_pos hnone]
        exact .ok ⟨rfl, hnext, h.announced_eq⟩
      · simp only [if_neg hnone]
        exact .refused
  | boolean =>
      refine (refines_lineEnd hword h.points).bind fun last parts hline => ?_
      obtain ⟨next, hadd, hnext⟩ := hline.exists_next hword h.points
      simp only [hline.slice_eq h.points, hadd, Checked.ok_bind]
      by_cases hyes : parts.1 = [116]
      · simp only [if_pos hyes]
        exact .ok ⟨rfl, hnext, h.announced_eq⟩
      simp only [if_neg hyes]
      by_cases hno : parts.1 = [102]
      · simp only [if_pos hno]
        exact .ok ⟨rfl, hnext, h.announced_eq⟩
      · simp only [if_neg hno]
        exact .refused
  | string =>
      refine h.blob_bind hlong fun text index after _ hafter => ?_
      cases text with
      | none => exact .ok ⟨rfl, hafter⟩
      | some body => exact .ok ⟨rfl, hafter⟩
  | bulkError =>
      refine h.blob_bind hlong fun text index after _ hafter => ?_
      cases text with
      | none => exact .refused
      | some message => exact .ok ⟨rfl, hafter⟩
  | verbatim =>
      refine h.blob_bind hlong fun text index after htext hafter => ?_
      cases text with
      | none => exact .refused
      | some body =>
          -- the text is a part of the octets, so its own indices are words, too
          simp only [Option.bind_some, verbatimParts_eq (Nat.le_trans (htext body rfl) hword)]
          cases verbatimParts? body with
          | none => exact .refused
          | some parts => exact .ok ⟨rfl, hafter⟩
  | array =>
      refine h.integer_bind hword fun n index after hafter => ?_
      by_cases hneg : n.val < 0
      · simp only [if_pos hneg]
        exact .ok ⟨rfl, hafter⟩
      simp only [if_neg hneg]
      exact refines_collection .array hitems hafter
  | set =>
      rw [takeBody, takeCount_bind]
      exact h.integer_bind hword fun n index after hafter => refines_collection .set hitems hafter
  | push =>
      rw [takeBody, takeCount_bind]
      exact h.integer_bind hword fun n index after hafter => refines_collection .push hitems hafter
  | map =>
      rw [takeBody, takeCount_bind]
      exact h.integer_bind hword fun n index after hafter => refines_collection .map hentries hafter
  | «attribute» =>
      rw [takeBody, takeCount_bind]
      refine h.integer_bind hword fun n index after hafter => ?_
      refine refines_counted hentries hafter fun hdepth attributes attributes' hread => ?_
      refine (hitems hdepth _ _ hread.2).bind fun value value' hvalue => ?_
      exact .ok ⟨congrArg₂ Reply.attribute hread.1 hvalue.1, hvalue.2⟩

end

/-- The induction is on the fuel, which bounds the octets left: with no fuel there are none, and a
marker takes one of them before the readers go a level deeper. -/
theorem refines_reply {limits : Limits} {octets : Bytes} (hlong : octets.length < 2 ^ 63 - 1)
    (fuel : Nat) : ∀ depth : UInt64, ReaderRefines octets fuel
      (Indexed.reply limits octets (fuel + 1) depth) (takeReply limits fuel depth.toNat) := by
  have hword := Checked.le_wordMax hlong
  induction fuel with
  | zero =>
      intro depth position cursor h
      have hnil : cursor.rest = [] := List.length_eq_zero_iff.1 (Nat.le_zero.1 h.points.length_le)
      have hnone := h.points.getElem?_eq
      rw [hnil] at hnone
      rw [Indexed.reply, hnone]
      exact .refused
  | succ fuel ih =>
      intro depth position cursor h
      rw [Indexed.reply, takeReply, h.points.getElem?_eq]
      match hrest : cursor.rest with
      | [] => exact .refused
      | octet :: rest =>
          obtain ⟨next, hadd, hnext⟩ := (hrest ▸ h.points).exists_next hword
          simp only [List.head?_cons, hadd, Checked.ok_bind]
          cases Kind.ofMarker? octet with
          | none => exact .refused
          | some kind =>
              -- the marker is taken, so the octets left are within the fuel left
              have hstands : Stands octets fuel { position with index := next }
                  { cursor with rest := rest } := ⟨hnext, h.announced_eq⟩
              refine (refines_body hlong (fun below hbelow => ?_) hstands kind).mono
                fun _ _ => Tracks.mono (Nat.le_succ fuel)
              rw [← hbelow]
              exact ih below

namespace Reply

/-- **Reading by index never traps**, whatever the limits, and it gives the reply and the number of
octets that `Reply.parse` gives, or the same fault. -/
theorem parseIndexed_never_traps (limits : Limits) (octets : Bytes)
    (hlong : octets.length < 2 ^ 63 - 1) :
    (∀ trap, parseIndexed limits octets ≠ .trapped trap) ∧
      (parseIndexed limits octets).map (fun result => (result.1, result.2.toNat)) =
        .ofOutcome (parse limits octets) := by
  have hstart : Stands octets octets.length ⟨0, 0⟩ ⟨octets, 0⟩ :=
    ⟨⟨Nat.zero_le _, rfl, Nat.le_refl _⟩, rfl⟩
  have hreply : Refines (Tracks octets octets.length)
      (Indexed.reply limits octets (octets.length + 1) 0 ⟨0, 0⟩)
      (takeReply limits octets.length 0 ⟨octets, 0⟩) :=
    refines_reply hlong octets.length 0 _ _ hstart
  have hparse : Refines (fun result result' => (result.1, result.2.toNat) = result')
      (parseIndexed limits octets) (parse limits octets) := by
    refine hreply.bind fun result result' hresult => .ok ?_
    have hlength := hresult.2.points.add_length
    have hindex : result.2.index.toNat = octets.length - result'.2.rest.length := by omega
    exact Prod.ext hresult.1 hindex
  exact ⟨hparse.not_trapped, hparse.map_eq⟩

/-- Without limits: the greatest length that can be announced, with nothing behind it, and a
verbatim string with attributes, which is read to its end. -/
theorem parseIndexed_never_traps_unlimited :
    let limits : Limits := ⟨18446744073709551615, 18446744073709551615, 18446744073709551615,
      18446744073709551615⟩
    let announced : Bytes := [36, 57, 50, 50, 51, 51, 55, 50, 48, 51, 54, 56, 53, 52, 55, 55, 53,
      56, 48, 55, 13, 10]
    let octets : Bytes := [124, 49, 13, 10, 43, 107, 13, 10, 95, 13, 10, 61, 53, 13, 10, 116, 120,
      116, 58, 104, 13, 10, 43]
    let attributes : List (Reply × Reply) := [(.simple [107], .null)]
    (∀ trap, parseIndexed limits announced ≠ .trapped trap) ∧
      (parseIndexed limits announced).map (fun result => (result.1, result.2.toNat)) =
        .refused .incomplete ∧
      (parseIndexed limits octets).map (fun result => (result.1, result.2.toNat)) =
        .ok (.attribute attributes (.verbatim ⟨116, 120, 116⟩ [104]), 22) := by
  intro limits announced octets attributes
  have hannounced : parse limits announced = .error .incomplete := rfl
  have hoctets : parse limits octets =
      .ok (.attribute attributes (.verbatim ⟨116, 120, 116⟩ [104]), 22) := rfl
  obtain ⟨hsafe, hparse⟩ := parseIndexed_never_traps limits announced (by decide)
  obtain ⟨-, hparse'⟩ := parseIndexed_never_traps limits octets (by decide)
  rw [hannounced] at hparse
  rw [hoctets] at hparse'
  exact ⟨hsafe, hparse, hparse'⟩

/-! ## Longer octets -/

/-- A number is spelled by octets of any length from that of its digits on. -/
theorem exists_spellsInteger {n length : Nat} (hn : n < 2 ^ 63)
    (hlength : (Decimal.ofNat n).length ≤ length) :
    ∃ body : Bytes, SpellsInteger body n ∧ body.length = length := by
  let digits := List.replicate (length - (Decimal.ofNat n).length) '0' ++ Decimal.ofNat n
  have hdigits : Decimal.IsNumeral digits := by
    refine ⟨List.append_ne_nil_of_right_ne_nil _ (Decimal.ofNat_ne_nil n), fun c hc => ?_⟩
    rcases List.mem_append.1 hc with hzero | hdigit
    · rw [List.eq_of_mem_replicate hzero]
      decide
    · exact Decimal.isDigit_of_mem_ofNat hdigit
  have hvalue : Nat.ofDigitChars 10 digits 0 = n := by
    rw [Nat.ofDigitChars_append, Nat.ofDigitChars_replicate_zero, Nat.mul_zero]
    exact Nat.ofDigitChars_ten_toDigits
  have hspells : Decimal.Spells digits n := hvalue ▸ .unsigned hdigits
  refine ⟨Utf8.encode digits, ⟨⟨digits, rfl, hspells⟩, by omega, by omega⟩, ?_⟩
  rw [Utf8.length_encode (Decimal.isVisible_of_spells hspells), List.length_append,
    List.length_replicate, Nat.sub_add_cancel hlength]

/-- A text announced at the end of the octets: if its own end is a machine word and that of its line
ending is none, the reader traps before it looks whether any of the text is there. -/
theorem blob_trapped {limits : Limits} {octets body : Bytes} {bound n : Nat} {start : UInt64}
    (hstart : PointsTo octets bound start (body ++ (crlf ++ []))) (hspells : SpellsInteger body n)
    (hlimit : n ≤ limits.maxBulk.toNat) (hend : octets.length + n ≤ wordMax)
    (hbeyond : wordMax < octets.length + n + 2) :
    Indexed.blob limits octets start = .trapped .overflow := by
  have hinteger := refines_integer (by omega) hstart
  rw [takeInteger_of_spells hspells] at hinteger
  obtain ⟨⟨m, first⟩, hheader, rfl, hfirst⟩ := hinteger.exists_ok
  -- the header ends with the octets
  have hfirstval : first.toNat + 0 = octets.length := hfirst.add_length
  have hpos : ¬ hspells.value.val < 0 := Int.not_lt.2 (Int.natCast_nonneg n)
  obtain ⟨length, hlength, -, hwordn⟩ := Checked.exists_wordOfInt hpos
  have hn : hspells.value.val.toNat = n := Int.toNat_natCast n
  rw [hn] at hlength
  have hshort : ¬ limits.maxBulk < length := by
    rw [UInt64.lt_iff_toNat_lt, hlength]
    exact Nat.not_lt.2 hlimit
  obtain ⟨last, hlast, hadd⟩ := Checked.exists_add (a := first) (b := length) (by omega)
  have htrap : Checked.add last 2 = .trapped .overflow :=
    Checked.add_trapped (by show _ < last.toNat + 2; omega)
  rw [Indexed.blob, hheader]
  simp only [Checked.ok_bind, if_neg hpos, hwordn, if_neg hshort, hadd, htrap, Checked.trapped_bind]

theorem parseIndexed_trapped {limits : Limits} {body : Bytes} {n : Nat}
    (hspells : SpellsInteger body n) (hlimit : n ≤ limits.maxBulk.toNat)
    (hend : (Frame.line .string body).length + n ≤ wordMax)
    (hbeyond : wordMax < (Frame.line .string body).length + n + 2) :
    parseIndexed limits (Frame.line .string body) = .trapped .overflow := by
  have hstart : PointsTo (Frame.line .string body) (body ++ crlf).length 1
      (body ++ (crlf ++ [])) := by
    rw [List.append_nil]
    exact ⟨Nat.succ_le_succ (Nat.zero_le _), rfl, Nat.le_refl _⟩
  have hblob := blob_trapped hstart hspells hlimit hend hbeyond
  have hadd : Checked.add 0 1 = .ok 1 := rfl
  have hfirst : (Frame.line .string body)[(0 : UInt64).toNat]? = some 36 := rfl
  have hkind : Kind.ofMarker? 36 = some .string := rfl
  simp only [parseIndexed, Indexed.reply, hfirst, hadd, hkind, Indexed.body, hblob, Checked.ok_bind,
    Checked.trapped_bind]

/-- **The bound on the octets is sharp**: with no limit on texts, there are octets of length
2 ^ 63 - 1 on which the reader traps. -/
theorem parseIndexed_trapped_of_length {limits : Limits}
    (hlimit : 2 ^ 63 - 1 ≤ limits.maxBulk.toNat) :
    ∃ octets : Bytes, octets.length = 2 ^ 63 - 1 ∧
      parseIndexed limits octets = .trapped .overflow := by
  have hdigits : (Decimal.ofNat (2 ^ 63 - 1)).length = 19 := by decide
  have hshort : (Decimal.ofNat (2 ^ 63 - 1)).length ≤ 2 ^ 63 - 4 := by omega
  obtain ⟨body, hspells, hbody⟩ := exists_spellsInteger (by omega) hshort
  have hlength : (Frame.line .string body).length = 2 ^ 63 - 1 := by
    rw [length_line]
    omega
  have hmax := Checked.wordMax_eq
  exact ⟨_, hlength, parseIndexed_trapped hspells hlimit (by omega) (by omega)⟩

end Reply

end RespClient
