import RespClient.Proofs.Decode.Ordered
import RespClient.Text.Utf8

/-!
# The order of texts

Texts in the order of their code points are in the order of their UTF-8 octets, too
(`Utf8.ofString_lt_of_compare`): of two characters the one with the smaller code point has the
smaller octets, and neither form begins with the other.
-/

set_option autoImplicit false

namespace RespClient.Utf8

theorem ofNat_cons_lt {a b : Nat} {s t : Bytes} (ha : a < 256) (hb : b < 256)
    (h : a < b ∨ a = b ∧ s < t) : UInt8.ofNat a :: s < UInt8.ofNat b :: t := by
  rw [List.cons_lt_cons_iff, UInt8.lt_iff_toNat_lt, ← UInt8.toNat_inj, UInt8.toNat_ofNat',
    UInt8.toNat_ofNat', Nat.mod_eq_of_lt ha, Nat.mod_eq_of_lt hb]
  exact h

/-- The octets of the smaller of two characters come first, whatever follows. -/
theorem utf8EncodeChar_append_lt {c d : Char} (h : c.toNat < d.toNat) (s t : Bytes) :
    String.utf8EncodeChar c ++ s < String.utf8EncodeChar d ++ t := by
  have hc : c.val.toNat < 0xD800 ∨ (0xDFFF < c.val.toNat ∧ c.val.toNat < 0x110000) := c.valid
  have hd : d.val.toNat < 0xD800 ∨ (0xDFFF < d.val.toNat ∧ d.val.toNat < 0x110000) := d.valid
  have hlt : c.val.toNat < d.val.toNat := h
  unfold String.utf8EncodeChar
  generalize c.val.toNat = v at hc hlt
  generalize d.val.toNat = w at hd hlt
  simp only
  split_ifs
  -- the longer of two forms has the greater first octet
  all_goals try exact ofNat_cons_lt (by omega) (by omega) (.inl (by omega))
  -- of two forms of one length, the first octet that differs is greater in the greater character
  · by_cases hfirst : v / 64 = w / 64
    · exact ofNat_cons_lt (by omega) (by omega) (.inr ⟨by omega,
        ofNat_cons_lt (by omega) (by omega) (.inl (by omega))⟩)
    · exact ofNat_cons_lt (by omega) (by omega) (.inl (by omega))
  · by_cases hfirst : v / 4096 = w / 4096
    · refine ofNat_cons_lt (by omega) (by omega) (.inr ⟨by omega, ?_⟩)
      by_cases hsecond : v / 64 = w / 64
      · exact ofNat_cons_lt (by omega) (by omega) (.inr ⟨by omega,
          ofNat_cons_lt (by omega) (by omega) (.inl (by omega))⟩)
      · exact ofNat_cons_lt (by omega) (by omega) (.inl (by omega))
    · exact ofNat_cons_lt (by omega) (by omega) (.inl (by omega))
  · by_cases hfirst : v / 262144 = w / 262144
    · refine ofNat_cons_lt (by omega) (by omega) (.inr ⟨by omega, ?_⟩)
      by_cases hsecond : v / 4096 = w / 4096
      · refine ofNat_cons_lt (by omega) (by omega) (.inr ⟨by omega, ?_⟩)
        by_cases hthird : v / 64 = w / 64
        · exact ofNat_cons_lt (by omega) (by omega) (.inr ⟨by omega,
            ofNat_cons_lt (by omega) (by omega) (.inl (by omega))⟩)
        · exact ofNat_cons_lt (by omega) (by omega) (.inl (by omega))
      · exact ofNat_cons_lt (by omega) (by omega) (.inl (by omega))
    · exact ofNat_cons_lt (by omega) (by omega) (.inl (by omega))

theorem encode_cons (c : Char) (text : List Char) :
    encode (c :: text) = String.utf8EncodeChar c ++ encode text := rfl

theorem encode_cons_ne_nil (c : Char) (text : List Char) : encode (c :: text) ≠ [] :=
  List.append_ne_nil_of_left_ne_nil String.utf8EncodeChar_ne_nil (encode text)

theorem encode_lt_of_compareLists {s t : List Char}
    (h : SortKey.compareLists (s.map fun c => .number c.toNat) (t.map fun c => .number c.toNat) =
      .lt) : encode s < encode t := by
  induction s generalizing t with
  | nil =>
      cases t with
      | nil => cases h
      | cons d t =>
          obtain ⟨b, rest, hencode⟩ := List.exists_cons_of_ne_nil (encode_cons_ne_nil d t)
          rw [hencode]
          exact List.nil_lt_cons b rest
  | cons c s ih =>
      cases t with
      | nil => cases h
      | cons d t =>
          rw [List.map_cons, List.map_cons, SortKey.compareLists_cons_lt_iff] at h
          rw [encode_cons, encode_cons]
          rcases h with hlt | ⟨heq, hrest⟩
          · exact utf8EncodeChar_append_lt (Int.ofNat_lt.1 (Int.compare_eq_lt.1 hlt)) _ _
          · obtain rfl : c = d := Char.toNat_inj.1 (Int.ofNat.inj (SortKey.number.inj heq))
            exact List.append_left_lt (ih hrest)

/-- Texts in the order of their code points are in the order of their octets. -/
theorem ofString_lt_of_compare {a b : String}
    (h : (SortKey.ofString a).compare (SortKey.ofString b) = .lt) : ofString a < ofString b :=
  encode_lt_of_compareLists h

end RespClient.Utf8
