import RespClient.Proofs.Outcome
import RespClient.Proofs.Reply.Grammar
import RespClient.Reply.Parsing

/-!
# Readers of frames

Each reader of the parts of a frame succeeds exactly on octets that begin with such a part: a line
(`takeLine_eq_ok_iff`), an integer (`takeInteger_eq_ok_iff`), a number (`takeDouble_eq_ok_iff`), a
text after its length (`takeBlob_eq_some_iff`) and the length of no text (`takeBlob_eq_none_iff`).
Two runs of octets that begin with frames of one kind are equal only if the frames are
(`Frame.header_append_inj`, `Frame.blob_append_inj`).
-/

set_option autoImplicit false

namespace RespClient

variable {rest : Bytes}

/-! ## Lines -/

theorem takeLine_cons_of_ne {b : UInt8} (h : b ≠ 13) :
    takeLine (b :: rest) = (takeLine rest).map fun parts => (b :: parts.1, parts.2) := by
  rw [takeLine.eq_def]
  exact if_neg h

/-- A line without a return octet ends at its line ending. -/
theorem takeLine_append {body : Bytes} (h : 13 ∉ body) :
    takeLine (body ++ (crlf ++ rest)) = .ok (body, rest) := by
  induction body with
  | nil => rfl
  | cons b body ih =>
      obtain ⟨hb, hbody⟩ := not_or.1 (mt List.mem_cons.2 h)
      rw [List.cons_append, takeLine_cons_of_ne (Ne.symm hb), ih hbody]
      rfl

/-- Equal octets are equal lines before equal rests. -/
theorem append_crlf_inj {body body' x y : Bytes} (h : 13 ∉ body) (h' : 13 ∉ body')
    (heq : body ++ (crlf ++ x) = body' ++ (crlf ++ y)) : body = body' ∧ x = y := by
  have hline : takeLine (body ++ (crlf ++ x)) = takeLine (body' ++ (crlf ++ y)) := by rw [heq]
  rw [takeLine_append h, takeLine_append h'] at hline
  cases hline
  exact ⟨rfl, rfl⟩

/-- A line is what stands before the first return octet, when a line feed follows that. -/
theorem takeLine_eq_ok_iff {octets body : Bytes} :
    takeLine octets = .ok (body, rest) ↔ 13 ∉ body ∧ octets = body ++ (crlf ++ rest) := by
  constructor
  · intro h
    induction octets generalizing body with
    | nil => cases h
    | cons b octets ih =>
        by_cases hb : b = 13
        · subst hb
          cases octets with
          | nil => cases h
          | cons c after =>
              change (if c = 10 then _ else _) = _ at h
              split at h
              · next hc =>
                cases h
                exact ⟨by simp, by rw [hc]; rfl⟩
              · cases h
        · rw [takeLine_cons_of_ne hb] at h
          cases hline : takeLine octets with
          | error fault =>
              rw [hline] at h
              cases h
          | ok parts =>
              rw [hline] at h
              cases h
              obtain ⟨hbody, hoctets⟩ := ih hline
              refine ⟨?_, by rw [hoctets]; rfl⟩
              intro hmem
              rcases List.mem_cons.1 hmem with heq | hmem
              · exact hb heq.symm
              · exact hbody hmem
  · rintro ⟨hbody, rfl⟩
    exact takeLine_append hbody

/-! ## Numbers -/

/-- An integer is read off a line that spells it. -/
theorem takeInteger_eq_ok_iff {octets : Bytes} {n : Int64Value} :
    takeInteger octets = .ok (n, rest) ↔
      ∃ body, SpellsInteger body n.val ∧ octets = body ++ (crlf ++ rest) := by
  constructor
  · intro h
    obtain ⟨⟨body, after⟩, hline, hnext⟩ := bind_eq_ok_iff.1 h
    obtain ⟨-, rfl⟩ := takeLine_eq_ok_iff.1 hline
    cases hdecode : Utf8.decode body with
    | error fault =>
        simp only [hdecode] at hnext
        cases hnext
    | ok text =>
        cases hread : Decimal.read .int64 text with
        | error fault =>
            simp only [hdecode, hread] at hnext
            cases hnext
        | ok m =>
            simp only [hdecode, hread] at hnext
            cases hnext
            refine ⟨body, ⟨⟨text, ?_, ?_⟩, n.below_le, Int.lt_of_le_sub_one n.le_above⟩, rfl⟩
            · exact Utf8.decode_eq_ok_iff.1 hdecode
            · exact (Decimal.read_eq_ok_iff rfl).1 hread
  · rintro ⟨body, hspells, rfl⟩
    have hline : takeLine (body ++ (crlf ++ rest)) = .ok (body, rest) :=
      takeLine_append hspells.return_not_mem
    obtain ⟨text, rfl, htext⟩ := hspells.spells
    have hread : Decimal.read .int64 text = .ok n := (Decimal.read_eq_ok_iff rfl).2 htext
    simp only [takeInteger, hline, ok_bind, Utf8.decode_encode, hread]

/-- A spelled integer is read off its line. -/
theorem takeInteger_of_spells {body : Bytes} {n : Int} (h : SpellsInteger body n) :
    takeInteger (body ++ (crlf ++ rest)) = .ok (h.value, rest) :=
  takeInteger_eq_ok_iff.2 ⟨body, h, rfl⟩

theorem takeDouble_eq_ok_iff {octets : Bytes} {x : Double} :
    takeDouble octets = .ok (x, rest) ↔
      ∃ text, 13 ∉ Utf8.encode text ∧ Literal.read? .double text = some x ∧
        octets = Utf8.encode text ++ (crlf ++ rest) := by
  constructor
  · intro h
    obtain ⟨⟨body, after⟩, hline, hnext⟩ := bind_eq_ok_iff.1 h
    obtain ⟨hbody, rfl⟩ := takeLine_eq_ok_iff.1 hline
    cases hdecode : Utf8.decode body with
    | error fault =>
        simp only [hdecode] at hnext
        cases hnext
    | ok text =>
        obtain rfl := Utf8.decode_eq_ok_iff.1 hdecode
        cases hread : Literal.read? .double text with
        | none =>
            simp only [hdecode, hread] at hnext
            cases hnext
        | some y =>
            simp only [hdecode, hread] at hnext
            cases hnext
            exact ⟨text, hbody, hread, rfl⟩
  · rintro ⟨text, hline, hread, rfl⟩
    simp only [takeDouble, takeLine_append hline, ok_bind, Utf8.decode_encode, hread]

/-! ## Texts after their length -/

section

variable {limits : Limits} {text : Bytes}

theorem takeBlob_eq_some_iff {octets : Bytes} :
    takeBlob limits octets = .ok (some text, rest) ↔
      text.length ≤ limits.maxBulk.toNat ∧
        ∃ body, SpellsInteger body text.length ∧
          octets = body ++ (crlf ++ (text ++ (crlf ++ rest))) := by
  constructor
  · intro h
    obtain ⟨⟨n, after⟩, hint, hnext⟩ := bind_eq_ok_iff.1 h
    obtain ⟨body, hspells, rfl⟩ := takeInteger_eq_ok_iff.1 hint
    simp only at hnext
    split at hnext
    · cases hnext
    next hpos =>
    split at hnext
    · cases hnext
    next hlimit =>
    split at hnext
    · cases hnext
    · cases hnext
    next b c left hdrop =>
    split at hnext
    · next hends =>
      cases hnext
      -- the octets behind the text are there, so the text has the length announced
      have hlength : (after.take n.val.toNat).length = n.val.toNat := by
        have hleft := congrArg List.length hdrop
        rw [List.length_drop, List.length_cons] at hleft
        rw [List.length_take]
        omega
      have hnat : ((after.take n.val.toNat).length : Int) = n.val := by
        rw [hlength]
        omega
      refine ⟨by omega, body, by rw [hnat]; exact hspells, ?_⟩
      have hsplit := List.take_append_drop n.val.toNat after
      rw [hdrop, hends.1, hends.2] at hsplit
      exact congrArg (fun octets => body ++ (crlf ++ octets)) hsplit.symm
    · cases hnext
  · rintro ⟨hlimit, body, hspells, rfl⟩
    have hnat : (text.length : Int).toNat = text.length := Int.toNat_natCast _
    have hpos : ¬ (text.length : Int) < 0 := by omega
    simp only [takeBlob, takeInteger_of_spells hspells, ok_bind, SpellsInteger.value, hnat,
      if_neg hpos, if_neg (Nat.not_lt.2 hlimit), List.drop_left, List.take_left]
    rfl

/-- A negative length stands for no text. -/
theorem takeBlob_eq_none_iff {octets : Bytes} :
    takeBlob limits octets = .ok (none, rest) ↔
      ∃ body n, SpellsInteger body n ∧ n < 0 ∧ octets = body ++ (crlf ++ rest) := by
  constructor
  · intro h
    obtain ⟨⟨n, after⟩, hint, hnext⟩ := bind_eq_ok_iff.1 h
    obtain ⟨body, hspells, rfl⟩ := takeInteger_eq_ok_iff.1 hint
    simp only at hnext
    split at hnext
    · next hneg =>
      cases hnext
      exact ⟨body, n.val, hspells, hneg, rfl⟩
    split at hnext
    · cases hnext
    split at hnext
    · cases hnext
    · cases hnext
    split at hnext
    · cases hnext
    · cases hnext
  · rintro ⟨body, n, hspells, hneg, rfl⟩
    simp only [takeBlob, takeInteger_of_spells hspells, ok_bind]
    exact if_pos hneg

/-- A text longer than the limit is refused before it is looked at. -/
theorem takeBlob_of_lt {body : Bytes} {length : Nat} (h : SpellsInteger body length)
    (hlimit : limits.maxBulk.toNat < length) :
    takeBlob limits (body ++ (crlf ++ rest)) =
      .error (.bulkTooLong length limits.maxBulk.toNat) := by
  have hnat : (length : Int).toNat = length := Int.toNat_natCast _
  have hpos : ¬ (length : Int) < 0 := by omega
  simp only [takeBlob, takeInteger_of_spells h, ok_bind, SpellsInteger.value, hnat, if_neg hpos,
    if_pos hlimit]

end

/-! ## Frames of one kind -/

namespace Frame

variable {k : Kind} {x y : Bytes}

theorem header_append_inj {m n : Nat} (h : header k m ++ x = header k n ++ y) :
    m = n ∧ x = y := by
  simp only [header, line, List.cons_append, List.append_assoc, List.cons.injEq, true_and] at h
  have hline : ∀ n, 13 ∉ Utf8.encode (Decimal.ofNat n) := fun n =>
    Utf8.return_not_mem_encode fun _ hc => Decimal.isVisible_of_mem_ofNat hc
  obtain ⟨hcount, hrest⟩ := append_crlf_inj (hline m) (hline n) h
  exact ⟨Decimal.ofNat_injective (Utf8.encode_injective hcount), hrest⟩

theorem blob_append_inj {s t : Bytes} (h : blob k s ++ x = blob k t ++ y) : s = t ∧ x = y := by
  simp only [blob, List.append_assoc] at h
  -- equal lengths first, and then the texts are cut at the same place
  obtain ⟨hlength, hbody⟩ := header_append_inj h
  obtain ⟨htext, hrest⟩ := List.append_inj hbody hlength
  exact ⟨htext, List.append_cancel_left hrest⟩

end Frame

end RespClient
