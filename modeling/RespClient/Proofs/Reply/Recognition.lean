import RespClient.Proofs.Reply.Acceptance

/-!
# The reader accepts its grammar

`Reply.parse` gives a reply and a number of octets exactly when that many octets at the front are a
frame of the reply and the reply is within the limits (`Reply.parse_eq_ok_iff`). That frames are
read is known; here every octet that a reader takes is shown to belong to a frame, by induction on
the fuel and one step for each kind of reply. The limits need no proof of their own, since the
frames of a reply beyond them are refused.
-/

set_option autoImplicit false

namespace RespClient

open Reply

/-! ## Readers that take what they recognize -/

/-- What the reader takes off the front of its octets stands in the relation to its result. -/
def Recognizes {α : Type} (reader : Cursor → Except ParseFault (α × Cursor))
    (relation : Bytes → α → Prop) : Prop :=
  ∀ cursor a after, reader cursor = .ok (a, after) →
    ∃ octets, cursor.rest = octets ++ after.rest ∧ relation octets a

namespace Recognizes

variable {α β γ : Type} {reader : Cursor → Except ParseFault (α × Cursor)}
  {second : Cursor → Except ParseFault (β × Cursor)} {relation relation' : Bytes → α → Prop}

theorem mono (h : Recognizes reader relation)
    (himp : ∀ octets a, relation octets a → relation' octets a) : Recognizes reader relation' := by
  intro cursor a after hread
  obtain ⟨octets, hoctets, hrelation⟩ := h cursor a after hread
  exact ⟨octets, hoctets, himp octets a hrelation⟩

/-- A reader, and one that depends on what it gave. -/
theorem bind {next : α → Cursor → Except ParseFault (β × Cursor)} {follows : α → Bytes → β → Prop}
    (h : Recognizes reader relation) (hnext : ∀ a, Recognizes (next a) (follows a)) :
    Recognizes
      (fun cursor => do
        let (a, cursor) ← reader cursor
        next a cursor)
      fun octets b => ∃ front back a, octets = front ++ back ∧ relation front a ∧
        follows a back b := by
  intro cursor b after hread
  obtain ⟨⟨a, middle⟩, hfirst, hsecond⟩ := bind_eq_ok_iff.1 hread
  obtain ⟨front, hfront, hrelation⟩ := h cursor a middle hfirst
  obtain ⟨back, hback, hfollows⟩ := hnext a middle b after hsecond
  refine ⟨front ++ back, ?_, front, back, a, rfl, hrelation, hfollows⟩
  rw [hfront, hback, List.append_assoc]

theorem map (f : α → β) (h : Recognizes reader relation) :
    Recognizes
      (fun cursor => do
        let (a, cursor) ← reader cursor
        .ok (f a, cursor))
      fun octets b => ∃ a, relation octets a ∧ b = f a := by
  intro cursor b after hread
  obtain ⟨⟨a, last⟩, hfirst, hlast⟩ := bind_eq_ok_iff.1 hread
  cases hlast
  obtain ⟨octets, hoctets, hrelation⟩ := h cursor a after hfirst
  exact ⟨octets, hoctets, a, hrelation, rfl⟩

/-- Two readers, one after the other. -/
theorem seq {relation₂ : Bytes → β → Prop} (join : α → β → γ) (h : Recognizes reader relation)
    (h' : Recognizes second relation₂) :
    Recognizes
      (fun cursor => do
        let (a, cursor) ← reader cursor
        let (b, cursor) ← second cursor
        .ok (join a b, cursor))
      fun octets c => ∃ front back a, octets = front ++ back ∧ relation front a ∧
        ∃ b, relation₂ back b ∧ c = join a b :=
  h.bind fun a => h'.map (join a)

end Recognizes

section

variable {limits : Limits} {depth : Nat} {inner : Cursor → Except ParseFault (Reply × Cursor)}

/-- As many items are read as the reader is run, one frame after the other. -/
theorem recognizes_items (h : Recognizes inner Derives) (count : Nat) :
    Recognizes (repeatReader inner count) fun octets items =>
      items.length = count ∧ DerivesItems octets items := by
  induction count with
  | zero =>
      intro cursor items after hread
      cases hread
      exact ⟨[], rfl, rfl, .nil⟩
  | succ count ih =>
      refine (h.seq List.cons ih).mono ?_
      rintro octets items ⟨frame, rest, item, rfl, hframe, items, ⟨hlength, hitems⟩, rfl⟩
      exact ⟨congrArg (· + 1) hlength, .cons hframe hitems⟩

theorem recognizes_entries (h : Recognizes inner Derives) (count : Nat) :
    Recognizes (repeatReader (readTwice inner) count) fun octets entries =>
      entries.length = count ∧ DerivesEntries octets entries := by
  induction count with
  | zero =>
      intro cursor entries after hread
      cases hread
      exact ⟨[], rfl, rfl, .nil⟩
  | succ count ih =>
      -- an entry is two frames, and both stand before those of the other entries
      refine ((h.seq Prod.mk h).seq List.cons ih).mono ?_
      rintro octets entries ⟨front, rest, entry, rfl,
        ⟨frame, frame', key, rfl, hframe, value, hframe', rfl⟩, entries, ⟨hlength, hentries⟩, rfl⟩
      rw [List.append_assoc]
      exact ⟨congrArg (· + 1) hlength, .cons hframe hframe' hentries⟩

/-! ## One kind after the other -/

/-- A count that passes is the one that is spelled. -/
theorem book_eq_ok {weight announced count total : Nat} {n : Int64Value}
    (h : book limits depth weight announced n = .ok (count, total)) : n.val = count := by
  rw [book] at h
  split at h
  · cases h
  split at h
  · cases h
  next hpos =>
  simp only at h
  split at h
  · cases h
  split at h
  · cases h
  split at h
  · cases h
  cases h
  exact (Int.toNat_of_nonneg (Int.not_lt.1 hpos)).symm

theorem recognizes_takeCount (weight : Nat) :
    Recognizes (takeCount limits depth weight) fun octets count =>
      ∃ body, octets = body ++ crlf ∧ SpellsInteger body count := by
  intro cursor count after hread
  obtain ⟨⟨n, rest⟩, hint, hread⟩ := bind_eq_ok_iff.1 hread
  obtain ⟨⟨m, announced⟩, hbook, hread⟩ := bind_eq_ok_iff.1 hread
  cases hread
  obtain ⟨body, hspells, hrest⟩ := takeInteger_eq_ok_iff.1 hint
  rw [book_eq_ok hbook] at hspells
  exact ⟨body ++ crlf, by rw [hrest, List.append_assoc], body, rfl, hspells⟩

/-- Kinds whose line is the whole reply. -/
theorem recognizes_line {k : Kind} {make : Bytes → Reply}
    (hmake : ∀ {body}, 13 ∉ body → Derives (Frame.line k body) (make body)) :
    Recognizes
      (fun cursor => do
        let (body, after) ← takeLine cursor.rest
        .ok (make body, { cursor with rest := after }))
      fun octets r => Derives (k.marker :: octets) r := by
  intro cursor r after hread
  obtain ⟨⟨body, rest⟩, hline, hread⟩ := bind_eq_ok_iff.1 hread
  cases hread
  obtain ⟨hbody, hrest⟩ := takeLine_eq_ok_iff.1 hline
  exact ⟨body ++ crlf, by rw [hrest, List.append_assoc], hmake hbody⟩

/-- Kinds that are a count, and behind it what it counts. -/
theorem recognizes_counted {k : Kind} {weight : Nat}
    {contents : Nat → Cursor → Except ParseFault (Reply × Cursor)}
    (hcontents : ∀ count, Recognizes (contents count) fun octets r =>
      ∀ body, SpellsInteger body count → Derives (Frame.line k body ++ octets) r) :
    Recognizes
      (fun cursor => do
        let (count, cursor) ← takeCount limits depth weight cursor
        contents count cursor)
      fun octets r => Derives (k.marker :: octets) r := by
  refine ((recognizes_takeCount weight).bind hcontents).mono ?_
  rintro octets r ⟨front, back, count, rfl, ⟨body, rfl, hspells⟩, hderives⟩
  exact hderives body hspells

/-- Collections of items. -/
theorem recognizes_collection {k : Kind} {make : List Reply → Reply}
    (h : Recognizes inner Derives)
    (hmake : ∀ {body octets items}, SpellsInteger body (items.length : Nat) →
      DerivesItems octets items → Derives (Frame.line k body ++ octets) (make items))
    (count : Nat) :
    Recognizes
      (fun cursor => do
        let (items, cursor) ← repeatReader inner count cursor
        .ok (make items, cursor))
      fun octets r => ∀ body, SpellsInteger body count →
        Derives (Frame.line k body ++ octets) r := by
  refine ((recognizes_items h count).map make).mono ?_
  rintro octets r ⟨items, ⟨rfl, hitems⟩, rfl⟩ body hspells
  exact hmake hspells hitems

theorem exists_of_takeBlob {octets text rest : Bytes}
    (h : takeBlob limits octets = .ok (some text, rest)) :
    ∃ body, octets = body ++ crlf ++ (text ++ crlf) ++ rest ∧ SpellsInteger body text.length := by
  obtain ⟨-, body, hspells, hrest⟩ := takeBlob_eq_some_iff.1 h
  refine ⟨body, ?_, hspells⟩
  rw [hrest]
  simp only [List.append_assoc]

theorem verbatimParts?_eq_some {payload text : Bytes} {format : TextFormat}
    (h : verbatimParts? payload = some (format, text)) : payload = format.octets ++ 58 :: text := by
  unfold verbatimParts? at h
  split at h
  · split at h
    · next hcolon =>
      cases h
      rw [hcolon]
      rfl
    · cases h
  · cases h

/-- The octets behind a marker that are read make a frame with it. -/
theorem recognizes_takeBody (h : Recognizes inner Derives) (k : Kind) :
    Recognizes (fun cursor => takeBody limits inner depth cursor k) fun octets r =>
      Derives (k.marker :: octets) r := by
  cases k with
  | status => exact recognizes_line .simple
  | error => exact recognizes_line .error
  | bigNumber => exact recognizes_line .bigNumber
  | set => exact recognizes_counted (recognizes_collection h .set)
  | push => exact recognizes_counted (recognizes_collection h .push)
  | integer =>
      intro cursor r after hread
      obtain ⟨⟨n, rest⟩, hint, hread⟩ := bind_eq_ok_iff.1 hread
      cases hread
      obtain ⟨body, hspells, hrest⟩ := takeInteger_eq_ok_iff.1 hint
      exact ⟨body ++ crlf, by rw [hrest, List.append_assoc], .integer hspells⟩
  | string =>
      intro cursor r after hread
      obtain ⟨⟨text, rest⟩, hblob, hread⟩ := bind_eq_ok_iff.1 hread
      cases text with
      | none =>
          cases hread
          obtain ⟨body, n, hspells, hneg, hrest⟩ := takeBlob_eq_none_iff.1 hblob
          exact ⟨body ++ crlf, by rw [hrest, List.append_assoc], .nullText hspells hneg⟩
      | some text =>
          cases hread
          obtain ⟨body, hrest, hspells⟩ := exists_of_takeBlob hblob
          exact ⟨body ++ crlf ++ (text ++ crlf), hrest, .bulk hspells⟩
  | nil =>
      intro cursor r after hread
      obtain ⟨⟨body, rest⟩, hline, hread⟩ := bind_eq_ok_iff.1 hread
      obtain ⟨-, hrest⟩ := takeLine_eq_ok_iff.1 hline
      simp only at hread
      split at hread
      · next hempty =>
        cases hread
        obtain rfl := List.isEmpty_iff.1 hempty
        exact ⟨crlf, hrest, .namedNull⟩
      · cases hread
  | array =>
      intro cursor r after hread
      obtain ⟨⟨n, rest⟩, hint, hread⟩ := bind_eq_ok_iff.1 hread
      obtain ⟨body, hspells, hfront⟩ := takeInteger_eq_ok_iff.1 hint
      simp only at hread
      split at hread
      · next hneg =>
        cases hread
        exact ⟨body ++ crlf, by rw [hfront, List.append_assoc], .nullArray hspells hneg⟩
      -- the line is read already, so this is the reader of a collection behind its count
      · obtain ⟨⟨count, announced⟩, hbook, hread⟩ := bind_eq_ok_iff.1 hread
        rw [book_eq_ok hbook] at hspells
        obtain ⟨octets, hback, hderives⟩ := recognizes_collection h .array count _ _ _ hread
        refine ⟨body ++ crlf ++ octets, ?_, hderives body hspells⟩
        simp only at hback
        rw [hfront, hback]
        simp only [List.append_assoc]
  | boolean =>
      intro cursor r after hread
      obtain ⟨⟨body, rest⟩, hline, hread⟩ := bind_eq_ok_iff.1 hread
      obtain ⟨-, hrest⟩ := takeLine_eq_ok_iff.1 hline
      simp only at hread
      split at hread
      · next hbody =>
        cases hread
        subst hbody
        exact ⟨[116] ++ crlf, hrest, .yes⟩
      split at hread
      · next hbody =>
        cases hread
        subst hbody
        exact ⟨[102] ++ crlf, hrest, .no⟩
      · cases hread
  | double =>
      intro cursor r after hread
      obtain ⟨⟨x, rest⟩, hdouble, hread⟩ := bind_eq_ok_iff.1 hread
      cases hread
      obtain ⟨text, hline, htext, hrest⟩ := takeDouble_eq_ok_iff.1 hdouble
      exact ⟨Utf8.encode text ++ crlf, by rw [hrest, List.append_assoc], .double hline htext⟩
  | bulkError =>
      intro cursor r after hread
      obtain ⟨⟨text, rest⟩, hblob, hread⟩ := bind_eq_ok_iff.1 hread
      cases text with
      | none => cases hread
      | some message =>
          cases hread
          obtain ⟨body, hrest, hspells⟩ := exists_of_takeBlob hblob
          exact ⟨body ++ crlf ++ (message ++ crlf), hrest, .bulkError hspells⟩
  | verbatim =>
      intro cursor r after hread
      obtain ⟨⟨text, rest⟩, hblob, hread⟩ := bind_eq_ok_iff.1 hread
      simp only at hread
      split at hread
      · cases hread
      next format text' hparts =>
      cases hread
      obtain ⟨payload, rfl, hparts⟩ := Option.bind_eq_some_iff.1 hparts
      obtain rfl := verbatimParts?_eq_some hparts
      obtain ⟨body, hrest, hspells⟩ := exists_of_takeBlob hblob
      exact ⟨body ++ crlf ++ ((format.octets ++ 58 :: text') ++ crlf), hrest, .verbatim hspells⟩
  | map =>
      refine recognizes_counted fun count => ((recognizes_entries h count).map Reply.map).mono ?_
      rintro octets r ⟨entries, ⟨rfl, hentries⟩, rfl⟩ body hspells
      exact .map hspells hentries
  | «attribute» =>
      refine recognizes_counted fun count =>
        ((recognizes_entries h count).seq Reply.attribute h).mono ?_
      rintro octets r ⟨front, frame, attributes, rfl, ⟨rfl, hentries⟩, value, hframe, rfl⟩
      intro body hspells
      exact .withAttributes hspells hentries hframe

theorem marker_of_ofMarker? {octet : UInt8} {k : Kind} (h : Kind.ofMarker? octet = some k) :
    k.marker = octet := by
  unfold Kind.ofMarker? at h
  split at h <;> cases h <;> rfl

/-- Whatever a reader takes is a frame of the reply that it gives. -/
theorem recognizes_takeReply (fuel : Nat) :
    ∀ depth, Recognizes (takeReply limits fuel depth) Derives := by
  induction fuel with
  | zero =>
      intro depth cursor r after hread
      cases hread
  | succ fuel ih =>
      intro depth cursor r after hread
      obtain ⟨rest, announced⟩ := cursor
      cases rest with
      | nil => cases hread
      | cons octet rest =>
          simp only [takeReply] at hread
          cases hkind : Kind.ofMarker? octet with
          | none =>
              rw [hkind] at hread
              cases hread
          | some k =>
              rw [hkind] at hread
              obtain ⟨octets, hoctets, hframe⟩ := recognizes_takeBody (ih (depth + 1)) k _ _ _ hread
              rw [marker_of_ofMarker? hkind] at hframe
              exact ⟨octet :: octets, congrArg (octet :: ·) hoctets, hframe⟩

end

namespace Reply

theorem derives_of_parse {limits : Limits} {octets : Bytes} {r : Reply} {taken : Nat}
    (h : parse limits octets = .ok (r, taken)) :
    ∃ frame rest, octets = frame ++ rest ∧ frame.length = taken ∧ Derives frame r := by
  obtain ⟨⟨reply, after⟩, hread, h⟩ := bind_eq_ok_iff.1 h
  cases h
  obtain ⟨frame, hfront, hframe⟩ := recognizes_takeReply _ 0 _ _ _ hread
  refine ⟨frame, after.rest, hfront, ?_, hframe⟩
  have hlength := congrArg List.length hfront
  simp only [List.length_append] at hlength
  omega

theorem within_of_parse {limits : Limits} {octets : Bytes} {r : Reply} {taken : Nat}
    (h : parse limits octets = .ok (r, taken)) : r.Within limits := by
  obtain ⟨frame, rest, rfl, -, hframe⟩ := derives_of_parse h
  by_contra hbeyond
  obtain ⟨fault, -, hfault⟩ := (gated_parse hframe rest).eq_error hbeyond
  rw [hfault] at h
  cases h

/-- The reader accepts its grammar: it gives a reply and a number of octets exactly when that many
octets are there, they are a frame of the reply, and the reply is within the limits. -/
theorem parse_eq_ok_iff (limits : Limits) (octets : Bytes) (r : Reply) (taken : Nat) :
    parse limits octets = .ok (r, taken) ↔
      taken ≤ octets.length ∧ Derives (octets.take taken) r ∧ r.Within limits := by
  constructor
  · intro h
    obtain ⟨frame, rest, rfl, rfl, hframe⟩ := derives_of_parse h
    refine ⟨?_, ?_, ?_⟩
    · rw [List.length_append]
      exact Nat.le_add_right _ _
    · rw [List.take_left]
      exact hframe
    -- a frame of a reply beyond the limits is refused
    · by_contra hbeyond
      obtain ⟨fault, -, hfault⟩ := (gated_parse hframe rest).eq_error hbeyond
      rw [hfault] at h
      cases h
  · rintro ⟨htaken, hframe, hwithin⟩
    have hparse := (gated_parse hframe (octets.drop taken)).eq_ok hwithin
    rw [List.take_append_drop, List.length_take, Nat.min_eq_left htaken] at hparse
    exact hparse

/-- A frame that no writer makes: a count with a plus sign and a zero, and a negative zero. -/
example : parse {} [42, 43, 48, 49, 13, 10, 58, 45, 48, 13, 10] =
    .ok (.array [.integer (.zero .int64)], 11) := rfl

end Reply

end RespClient
