import RespClient.Proofs.Outcome
import RespClient.Text.Utf8

/-!
# Text written and read back

`Utf8.decode` gives back every text that `Utf8.encode` writes (`decode_encode`), because the
octets of each character are cut into that character again (`pieces_utf8EncodeChar`). It reads no
other octets (`decode_eq_ok_iff`), because each length has one way to spell a character. Text of
visible ASCII characters, the text of all numbers, takes one octet for each character and holds
no line ending.
-/

set_option autoImplicit false

namespace RespClient.Utf8

/-! ## Single characters -/

theorem pieces_ascii {b : UInt8} (h : b.toNat < 128) (rest : Bytes) :
    pieces (b :: rest) = .char (Char.ofNat b.toNat) :: pieces rest := by
  rw [pieces, if_pos h]

/-- A first octet and a second one in its range make a character of two octets. -/
theorem pieces_two {b c : UInt8} {rest : Bytes} {l : Lead} (hb : 128 ≤ b.toNat)
    (hl : lead? b.toNat = some l) (hmore : l.more = 1)
    (hc : l.low ≤ c.toNat ∧ c.toNat ≤ l.high) :
    pieces (b :: c :: rest) = .char (Char.ofNat (l.bits * 64 + c.toNat % 64)) :: pieces rest := by
  rw [pieces, if_neg (by omega)]
  simp only [hl]
  rw [if_neg (not_not_intro hc), if_pos hmore]

theorem pieces_three {b c d : UInt8} {rest : Bytes} {l : Lead} (hb : 128 ≤ b.toNat)
    (hl : lead? b.toNat = some l) (hmore : l.more = 2)
    (hc : l.low ≤ c.toNat ∧ c.toNat ≤ l.high) (hd : isContinuation d.toNat = true) :
    pieces (b :: c :: d :: rest) =
      .char (Char.ofNat ((l.bits * 64 + c.toNat % 64) * 64 + d.toNat % 64)) :: pieces rest := by
  rw [pieces, if_neg (by omega)]
  simp only [hl]
  rw [if_neg (not_not_intro hc), if_neg (by omega), if_neg (not_not_intro hd), if_pos hmore]

theorem pieces_four {b c d e : UInt8} {rest : Bytes} {l : Lead} (hb : 128 ≤ b.toNat)
    (hl : lead? b.toNat = some l) (hmore : l.more = 3)
    (hc : l.low ≤ c.toNat ∧ c.toNat ≤ l.high) (hd : isContinuation d.toNat = true)
    (he : isContinuation e.toNat = true) :
    pieces (b :: c :: d :: e :: rest) =
      .char (Char.ofNat
        (((l.bits * 64 + c.toNat % 64) * 64 + d.toNat % 64) * 64 + e.toNat % 64)) ::
        pieces rest := by
  rw [pieces, if_neg (by omega)]
  simp only [hl]
  rw [if_neg (not_not_intro hc), if_neg (by omega), if_neg (not_not_intro hd), if_neg (by omega),
    if_neg (not_not_intro he)]

theorem lead?_two {b : Nat} (h : 0xC2 ≤ b ∧ b ≤ 0xDF) :
    lead? b = some ⟨b - 0xC0, 1, 0x80, 0xBF⟩ := by
  rw [lead?, if_pos h]

/-- The first octets of three, with the range that rules out over-long forms and surrogates. -/
theorem lead?_three {b : Nat} (h : 0xE0 ≤ b ∧ b ≤ 0xEF) :
    lead? b = some ⟨b - 0xE0, 2, if b = 0xE0 then 0xA0 else 0x80,
      if b = 0xED then 0x9F else 0xBF⟩ := by
  rw [lead?, if_neg (by omega)]
  by_cases h0 : b = 0xE0
  · subst h0
    rfl
  by_cases hd : b = 0xED
  · subst hd
    rfl
  rw [if_neg h0, if_neg hd, if_pos (by omega), if_neg h0, if_neg hd]

theorem lead?_four {b : Nat} (h : 0xF0 ≤ b ∧ b ≤ 0xF4) :
    lead? b = some ⟨b - 0xF0, 3, if b = 0xF0 then 0x90 else 0x80,
      if b = 0xF4 then 0x8F else 0xBF⟩ := by
  rw [lead?, if_neg (by omega), if_neg (by omega), if_neg (by omega), if_neg (by omega)]
  by_cases h0 : b = 0xF0
  · subst h0
    rfl
  by_cases h4 : b = 0xF4
  · subst h4
    rfl
  rw [if_neg h0, if_neg h4, if_pos (by omega), if_neg h0, if_neg h4]

theorem isContinuation_of {n : Nat} (h : 0x80 ≤ n ∧ n ≤ 0xBF) : isContinuation n = true := by
  simp [isContinuation, h]

/-- The octets of a character are cut into that character again. -/
theorem pieces_utf8EncodeChar (c : Char) (rest : Bytes) :
    pieces (String.utf8EncodeChar c ++ rest) = .char c :: pieces rest := by
  have hvalid : c.val.toNat < 0xD800 ∨ (0xDFFF < c.val.toNat ∧ c.val.toNat < 0x110000) := c.valid
  have hback : Char.ofNat c.val.toNat = c := Char.ofNat_toNat c
  generalize hv : c.val.toNat = v at hvalid hback
  unfold String.utf8EncodeChar
  simp only [hv]
  -- in each of the four lengths, the bits put together give `v` again
  split
  · have hb : (UInt8.ofNat v).toNat = v := by rw [UInt8.toNat_ofNat']; omega
    rw [List.cons_append, List.nil_append, pieces_ascii (by omega), hb, hback]
  split
  · have hb : (UInt8.ofNat (v / 64 % 32 + 192)).toNat = v / 64 + 192 := by
      rw [UInt8.toNat_ofNat']; omega
    have hc : (UInt8.ofNat (v % 64 + 128)).toNat = v % 64 + 128 := by
      rw [UInt8.toNat_ofNat']; omega
    have hl := lead?_two (b := v / 64 + 192) (by omega)
    rw [← hb] at hl
    simp only [List.cons_append, List.nil_append]
    rw [pieces_two (by omega) hl rfl (by simp only; omega), hc]
    simp only
    rw [hb, show (v / 64 + 192 - 192) * 64 + (v % 64 + 128) % 64 = v by omega, hback]
  split
  · have hb : (UInt8.ofNat (v / 4096 % 16 + 224)).toNat = v / 4096 + 224 := by
      rw [UInt8.toNat_ofNat']; omega
    have hc : (UInt8.ofNat (v / 64 % 64 + 128)).toNat = v / 64 % 64 + 128 := by
      rw [UInt8.toNat_ofNat']; omega
    have hd : (UInt8.ofNat (v % 64 + 128)).toNat = v % 64 + 128 := by
      rw [UInt8.toNat_ofNat']; omega
    have hl := lead?_three (b := v / 4096 + 224) (by omega)
    rw [← hb] at hl
    simp only [List.cons_append, List.nil_append]
    rw [pieces_three (by omega) hl rfl ?_ (isContinuation_of (by omega)), hc, hd]
    · simp only
      rw [hb, show ((v / 4096 + 224 - 224) * 64 + (v / 64 % 64 + 128) % 64) * 64 +
        (v % 64 + 128) % 64 = v by omega, hback]
    -- the second octet is in the range that goes with the first
    · simp only
      rw [hb, hc]
      split <;> split <;> omega
  · have hb : (UInt8.ofNat (v / 262144 % 8 + 240)).toNat = v / 262144 + 240 := by
      rw [UInt8.toNat_ofNat']; omega
    have hc : (UInt8.ofNat (v / 4096 % 64 + 128)).toNat = v / 4096 % 64 + 128 := by
      rw [UInt8.toNat_ofNat']; omega
    have hd : (UInt8.ofNat (v / 64 % 64 + 128)).toNat = v / 64 % 64 + 128 := by
      rw [UInt8.toNat_ofNat']; omega
    have he : (UInt8.ofNat (v % 64 + 128)).toNat = v % 64 + 128 := by
      rw [UInt8.toNat_ofNat']; omega
    have hl := lead?_four (b := v / 262144 + 240) (by omega)
    rw [← hb] at hl
    simp only [List.cons_append, List.nil_append]
    rw [pieces_four (by omega) hl rfl ?_ (isContinuation_of (by omega))
      (isContinuation_of (by omega)), hc, hd, he]
    · simp only
      rw [hb, show (((v / 262144 + 240 - 240) * 64 + (v / 4096 % 64 + 128) % 64) * 64 +
        (v / 64 % 64 + 128) % 64) * 64 + (v % 64 + 128) % 64 = v by omega, hback]
    · simp only
      rw [hb, hc]
      split <;> split <;> omega

/-! ## Whole texts -/

theorem pieces_encode (text : List Char) (rest : Bytes) :
    pieces (encode text ++ rest) = text.map .char ++ pieces rest := by
  induction text with
  | nil => rfl
  | cons c text ih =>
      have hcons : encode (c :: text) = String.utf8EncodeChar c ++ encode text := rfl
      rw [hcons, List.append_assoc, pieces_utf8EncodeChar, ih]
      rfl

theorem join_map_char (text : List Char) : ∀ index, join index (text.map .char) = .ok text := by
  induction text with
  | nil => intro index; rfl
  | cons c text ih =>
      intro index
      simp only [List.map_cons, join, ih]
      rfl

/-- Written text is read back. -/
theorem decode_encode (text : List Char) : decode (encode text) = .ok text := by
  have h := pieces_encode text []
  rw [List.append_nil] at h
  rw [decode, h, pieces, List.append_nil, join_map_char]

theorem encode_injective {s t : List Char} (h : encode s = encode t) : s = t := by
  have hs := decode_encode s
  rw [h, decode_encode t] at hs
  exact (Except.ok.inj hs).symm

/-! ## Octets that are text -/

/-- What the first octet of several says, for each number of octets to follow. Four of these octets
have narrower ranges. -/
theorem lead?_cases {b : Nat} {l : Lead} (h : lead? b = some l) :
    (l.more = 1 ∧ 0xC2 ≤ b ∧ b ≤ 0xDF ∧ l.bits + 0xC0 = b ∧ 0x80 ≤ l.low ∧ l.high ≤ 0xBF) ∨
    (l.more = 2 ∧ 0xE0 ≤ b ∧ b ≤ 0xEF ∧ l.bits + 0xE0 = b ∧ 0x80 ≤ l.low ∧ l.high ≤ 0xBF ∧
      (b = 0xE0 → 0xA0 ≤ l.low) ∧ (b = 0xED → l.high ≤ 0x9F)) ∨
    (l.more = 3 ∧ 0xF0 ≤ b ∧ b ≤ 0xF4 ∧ l.bits + 0xF0 = b ∧ 0x80 ≤ l.low ∧ l.high ≤ 0xBF ∧
      (b = 0xF0 → 0x90 ≤ l.low) ∧ (b = 0xF4 → l.high ≤ 0x8F)) := by
  by_cases htwo : 0xC2 ≤ b ∧ b ≤ 0xDF
  · rw [lead?_two htwo] at h
    obtain rfl := Option.some.inj h
    refine .inl ⟨rfl, htwo.1, htwo.2, ?_, Nat.le_refl _, Nat.le_refl _⟩
    simp only
    omega
  by_cases hthree : 0xE0 ≤ b ∧ b ≤ 0xEF
  · rw [lead?_three hthree] at h
    obtain rfl := Option.some.inj h
    refine .inr (.inl ⟨rfl, hthree.1, hthree.2, ?_⟩)
    simp only
    split <;> split <;> omega
  by_cases hfour : 0xF0 ≤ b ∧ b ≤ 0xF4
  · rw [lead?_four hfour] at h
    obtain rfl := Option.some.inj h
    refine .inr (.inr ⟨rfl, hfour.1, hfour.2, ?_⟩)
    simp only
    split <;> split <;> omega
  rw [lead?, if_neg htwo, if_neg (by omega), if_neg (by omega), if_neg (by omega),
    if_neg (by omega), if_neg (by omega), if_neg (by omega)] at h
  cases h

theorem toNat_val_ofNat {v : Nat} (h : v.isValidChar) : (Char.ofNat v).val.toNat = v := by
  rw [Char.ofNat, dif_pos h]
  rfl

theorem ofNat_eq_of_toNat {b : UInt8} {n : Nat} (h : n = b.toNat) : UInt8.ofNat n = b := by
  rw [h, UInt8.ofNat_toNat]

theorem utf8EncodeChar_one {b : UInt8} (h : b.toNat < 128) :
    String.utf8EncodeChar (Char.ofNat b.toNat) = [b] := by
  unfold String.utf8EncodeChar
  simp only [toNat_val_ofNat (v := b.toNat) (by omega)]
  rw [if_pos (by omega), UInt8.ofNat_toNat]

theorem utf8EncodeChar_two {b c : UInt8} {l : Lead} (hl : lead? b.toNat = some l)
    (hmore : l.more = 1) (hc : l.low ≤ c.toNat ∧ c.toNat ≤ l.high) :
    String.utf8EncodeChar (Char.ofNat (l.bits * 64 + c.toNat % 64)) = [b, c] := by
  have hcases := lead?_cases hl
  unfold String.utf8EncodeChar
  simp only [toNat_val_ofNat (v := l.bits * 64 + c.toNat % 64) (by omega)]
  rw [if_neg (by omega), if_pos (by omega), ofNat_eq_of_toNat (b := b) (by omega),
    ofNat_eq_of_toNat (b := c) (by omega)]

theorem utf8EncodeChar_three {b c d : UInt8} {l : Lead} (hl : lead? b.toNat = some l)
    (hmore : l.more = 2) (hc : l.low ≤ c.toNat ∧ c.toNat ≤ l.high)
    (hd : isContinuation d.toNat = true) :
    String.utf8EncodeChar (Char.ofNat ((l.bits * 64 + c.toNat % 64) * 64 + d.toNat % 64)) =
      [b, c, d] := by
  have hcases := lead?_cases hl
  simp only [isContinuation, Bool.and_eq_true, decide_eq_true_eq] at hd
  unfold String.utf8EncodeChar
  simp only [toNat_val_ofNat (v := (l.bits * 64 + c.toNat % 64) * 64 + d.toNat % 64) (by omega)]
  rw [if_neg (by omega), if_neg (by omega), if_pos (by omega),
    ofNat_eq_of_toNat (b := b) (by omega), ofNat_eq_of_toNat (b := c) (by omega),
    ofNat_eq_of_toNat (b := d) (by omega)]

theorem utf8EncodeChar_four {b c d e : UInt8} {l : Lead} (hl : lead? b.toNat = some l)
    (hone : l.more ≠ 1) (htwo : l.more ≠ 2) (hc : l.low ≤ c.toNat ∧ c.toNat ≤ l.high)
    (hd : isContinuation d.toNat = true) (he : isContinuation e.toNat = true) :
    String.utf8EncodeChar (Char.ofNat
        (((l.bits * 64 + c.toNat % 64) * 64 + d.toNat % 64) * 64 + e.toNat % 64)) =
      [b, c, d, e] := by
  have hcases := lead?_cases hl
  simp only [isContinuation, Bool.and_eq_true, decide_eq_true_eq] at hd he
  unfold String.utf8EncodeChar
  simp only [toNat_val_ofNat
    (v := ((l.bits * 64 + c.toNat % 64) * 64 + d.toNat % 64) * 64 + e.toNat % 64) (by omega)]
  rw [if_neg (by omega), if_neg (by omega), if_neg (by omega),
    ofNat_eq_of_toNat (b := b) (by omega), ofNat_eq_of_toNat (b := c) (by omega),
    ofNat_eq_of_toNat (b := d) (by omega), ofNat_eq_of_toNat (b := e) (by omega)]

/-- Pieces that begin with a character join into a text that begins with it. -/
theorem join_cons_char {index : Nat} {c : Char} {ps : List Piece} {text : List Char}
    (h : join index (.char c :: ps) = .ok text) :
    ∃ rest, text = c :: rest ∧ join (index + c.utf8Size) ps = .ok rest := by
  rw [join] at h
  cases hrest : join (index + c.utf8Size) ps with
  | error fault =>
      rw [hrest] at h
      cases h
  | ok rest =>
      rw [hrest] at h
      cases h
      exact ⟨rest, rfl, rfl⟩

/-- Octets of a character before octets that are text. -/
theorem append_eq_encode {octets rest : Bytes} {c : Char} {ps : List Piece}
    (hchar : String.utf8EncodeChar c = octets)
    (hrest : ∀ {index : Nat} {text : List Char}, join index ps = .ok text → rest = encode text)
    {index : Nat} {text : List Char} (h : join index (.char c :: ps) = .ok text) :
    octets ++ rest = encode text := by
  obtain ⟨more, rfl, hmore⟩ := join_cons_char h
  rw [← hchar, hrest hmore]
  rfl

/-- Octets whose pieces join into a text are the text written. -/
theorem eq_encode_of_join {octets : Bytes} : ∀ {index : Nat} {text : List Char},
    join index (pieces octets) = .ok text → octets = encode text := by
  fun_induction pieces octets with
  | case1 =>
      intro index text h
      cases h
      rfl
  | case2 b rest hb ih =>
      intro index text h
      exact append_eq_encode (utf8EncodeChar_one hb) ih h
  | case6 b hb l hl c rest hc hmore ih =>
      intro index text h
      exact append_eq_encode (utf8EncodeChar_two hl hmore (Decidable.not_not.1 hc)) ih h
  | case9 b hb l hl c hc hone d rest hd hmore ih =>
      intro index text h
      exact append_eq_encode
        (utf8EncodeChar_three hl hmore (Decidable.not_not.1 hc) (Decidable.not_not.1 hd)) ih h
  | case12 b hb l hl c hc hone d hd htwo e rest he ih =>
      intro index text h
      exact append_eq_encode
        (utf8EncodeChar_four hl hone htwo (Decidable.not_not.1 hc) (Decidable.not_not.1 hd)
          (Decidable.not_not.1 he)) ih h
  -- in all other cases the first piece is a fault
  | _ =>
      intro index text h
      cases h

/-- Octets read as a text exactly when they are the text written. -/
theorem decode_eq_ok_iff {octets : Bytes} {text : List Char} :
    decode octets = .ok text ↔ octets = encode text := by
  constructor
  · intro h
    exact eq_encode_of_join h
  · rintro rfl
    exact decode_encode text

theorem decode?_eq_some_iff {octets : Bytes} {text : List Char} :
    decode? octets = some text ↔ octets = encode text :=
  toOption_eq_some_iff.trans decode_eq_ok_iff

/-! ## Visible characters -/

/-- ASCII characters with a shape: neither blanks nor controls. -/
def IsVisible (c : Char) : Prop := 0x20 < c.toNat ∧ c.toNat < 0x7F

instance : DecidablePred IsVisible := fun _ => inferInstanceAs (Decidable (_ ∧ _))

theorem isVisible_of_isDigit {c : Char} (h : c.isDigit = true) : IsVisible c := by
  have hrange : 48 ≤ c.toNat ∧ c.toNat ≤ 57 := Char.isDigit_iff_toNat.1 h
  exact ⟨by omega, by omega⟩

theorem isVisible_of_all {text : List Char} (h : text.all (fun c => decide (IsVisible c)) = true) :
    ∀ c ∈ text, IsVisible c :=
  fun c hc => of_decide_eq_true (List.all_eq_true.1 h c hc)

/-- Visible text takes an octet for each character. -/
theorem encode_eq_map {text : List Char} (h : ∀ c ∈ text, IsVisible c) :
    encode text = text.map fun c => UInt8.ofNat c.toNat := by
  induction text with
  | nil => rfl
  | cons c text ih =>
      have hc : c.val.toNat ≤ 0x7f := Nat.le_of_lt (h c List.mem_cons_self).2
      have hchar : String.utf8EncodeChar c = [UInt8.ofNat c.toNat] := if_pos hc
      have hcons : encode (c :: text) = String.utf8EncodeChar c ++ encode text := rfl
      rw [hcons, hchar, ih fun d hd => h d (List.mem_cons_of_mem c hd)]
      rfl

theorem length_encode {text : List Char} (h : ∀ c ∈ text, IsVisible c) :
    (encode text).length = text.length := by
  rw [encode_eq_map h, List.length_map]

theorem return_not_mem_encode {text : List Char} (h : ∀ c ∈ text, IsVisible c) :
    13 ∉ encode text := by
  rw [encode_eq_map h, List.mem_map]
  rintro ⟨c, hc, heq⟩
  have htoNat := congrArg UInt8.toNat heq
  rw [UInt8.toNat_ofNat'] at htoNat
  have hvisible := h c hc
  unfold IsVisible at hvisible
  change c.toNat % 256 = 13 at htoNat
  omega

end RespClient.Utf8
