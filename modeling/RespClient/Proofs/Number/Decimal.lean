import RespClient.Number.Decimal
import RespClient.Proofs.Text.Utf8

/-!
# Decimal integers read back

`Decimal.read` gives back every integer of a range that `Decimal.ofInt` writes (`read_ofInt`).
The written text is visible: digits, with a minus sign before those of a negative integer.
`Spells` describes all texts that are read, signs and leading zeros included (`read_eq_ok_iff`).
-/

set_option autoImplicit false

namespace RespClient.Decimal

theorem ofNat_ne_nil (n : Nat) : ofNat n ≠ [] := Nat.toDigits_ne_nil

theorem isDigit_of_mem_ofNat {n : Nat} {c : Char} (h : c ∈ ofNat n) : c.isDigit = true :=
  Nat.isDigit_of_mem_toDigits (by decide) (by decide) h

theorem isVisible_of_mem_ofNat {n : Nat} {c : Char} (h : c ∈ ofNat n) : Utf8.IsVisible c :=
  Utf8.isVisible_of_isDigit (isDigit_of_mem_ofNat h)

theorem isVisible_of_mem_ofInt {n : Int} {c : Char} (h : c ∈ ofInt n) : Utf8.IsVisible c := by
  unfold ofInt at h
  split at h
  · rcases List.mem_cons.1 h with rfl | h
    · decide
    · exact isVisible_of_mem_ofNat h
  · exact isVisible_of_mem_ofNat h

theorem ofInt_ne_nil (n : Int) : ofInt n ≠ [] := by
  rw [ofInt]
  split
  · exact List.cons_ne_nil _ _
  · exact ofNat_ne_nil _

theorem eq_minus_or_isDigit {n : Int} {c : Char} (h : c ∈ ofInt n) :
    c = '-' ∨ c.isDigit = true := by
  rw [ofInt] at h
  split at h
  · rcases List.mem_cons.1 h with rfl | h
    · exact Or.inl rfl
    · exact Or.inr (isDigit_of_mem_ofNat h)
  · exact Or.inr (isDigit_of_mem_ofNat h)

theorem not_mem_ofInt {n : Int} {c : Char} (hminus : c ≠ '-') (hdigit : c.isDigit = false) :
    c ∉ ofInt n := by
  intro h
  rcases eq_minus_or_isDigit h with heq | hc
  · exact hminus heq
  · rw [hdigit] at hc
    cases hc

theorem minus_not_mem_ofNat (n : Nat) : '-' ∉ ofNat n := by
  intro hminus
  have hdigit := isDigit_of_mem_ofNat hminus
  simp at hdigit

theorem minus_not_mem_ofInt {n : Int} (h : 0 ≤ n) : '-' ∉ ofInt n := by
  rw [ofInt, if_neg (Int.not_lt.2 h)]
  exact minus_not_mem_ofNat n.natAbs

/-- Only the number zero is written with a zero in front. -/
theorem head?_ofNat {n : Nat} (h : n ≠ 0) : (ofNat n).head? ≠ some '0' := by
  induction n using Nat.strongRecOn with
  | ind n ih =>
      rw [ofNat]
      rcases Nat.lt_or_ge n 10 with hlt | hge
      · rw [Nat.toDigits_of_lt_base hlt, List.head?_cons, ne_eq, Option.some.injEq]
        exact fun hzero => h (Nat.digitChar_eq_zero.1 hzero)
      -- the first digit is that of the number without its last digit
      · have hfront := ih (n / 10) (by omega) (by omega)
        rw [Nat.toDigits_of_base_le (by decide) hge, List.head?_append]
        have hne := ofNat_ne_nil (n / 10)
        rw [ofNat] at hfront hne
        cases hdigits : Nat.toDigits 10 (n / 10) with
        | nil => exact absurd hdigits hne
        | cons c rest =>
            rw [hdigits] at hfront
            exact hfront

theorem ofNat_injective {m n : Nat} (h : ofNat m = ofNat n) : m = n := by
  have hm : Nat.ofDigitChars 10 (ofNat m) 0 = m := Nat.ofDigitChars_ten_toDigits
  have hn : Nat.ofDigitChars 10 (ofNat n) 0 = n := Nat.ofDigitChars_ten_toDigits
  rw [← hm, h, hn]

/-- Digits read after a number are appended to it. -/
theorem readDigits_eq_ok {limit : Nat} (beyond : Fault) :
    ∀ (digits : List Char) (acc : { n : Nat // n ≤ limit }),
      (∀ c ∈ digits, c.isDigit = true) → (h : Nat.ofDigitChars 10 digits acc.val ≤ limit) →
        readDigits limit beyond acc digits = .ok ⟨_, h⟩
  | [], _, _, _ => rfl
  | c :: rest, acc, hdigits, h => by
      -- no step leaves the range, for the digits that follow only add to the number
      have hstep : 10 * acc.val + digitValue c ≤ limit := by
        rw [Nat.ofDigitChars_cons, Nat.ofDigitChars_eq_ofDigitChars_zero] at h
        have hone : 1 ≤ 10 ^ rest.length := Nat.one_le_pow _ _ (by decide)
        have := Nat.le_mul_of_pos_left (10 * acc.val + (c.toNat - '0'.toNat)) hone
        simp only [digitValue]
        omega
      have hrest := readDigits_eq_ok beyond rest ⟨10 * acc.val + digitValue c, hstep⟩
        (fun d hd => hdigits d (List.mem_cons_of_mem _ hd))
        (by rw [Nat.ofDigitChars_cons] at h; exact h)
      simp only [readDigits, hdigits c List.mem_cons_self, if_true, dif_pos hstep, hrest]
      simp [Nat.ofDigitChars_cons, digitValue]

theorem readNat_ofNat {limit : Nat} {beyond : Fault} {n : Nat} (h : n ≤ limit) :
    readNat limit beyond (ofNat n) = .ok ⟨n, h⟩ := by
  have hne : (ofNat n).isEmpty = false := by simp [ofNat_ne_nil]
  have hval : Nat.ofDigitChars 10 (ofNat n) 0 = n := Nat.ofDigitChars_ten_toDigits
  have hread := readDigits_eq_ok beyond (ofNat n) ⟨0, Nat.zero_le limit⟩
    (fun c hc => isDigit_of_mem_ofNat hc) (by rw [hval]; exact h)
  rw [readNat, hne, if_neg (by decide), hread]
  simp only [hval]

/-- A text that begins with a digit is read as an unsigned number. -/
theorem read_of_isDigit {w : Width} {c : Char} {rest : List Char} (hc : c.isDigit = true) :
    read w (c :: rest) =
      (readNat w.above .tooLarge (c :: rest)).map fun n => .ofNat n.val n.property := by
  unfold read
  split
  · rename_i h
    cases h
  · rename_i h
    cases h
    simp at hc
  · rename_i h
    cases h
    simp at hc
  · rfl

/-- An integer of a range is read back from its digits. -/
theorem read_ofInt {w : Width} (n : Sized w) : read w (ofInt n.val) = .ok n := by
  have hlow := n.below_le
  have hhigh := n.le_above
  unfold ofInt
  split
  · next hneg =>
    have hle : n.val.natAbs ≤ w.below := by omega
    have hsigned : w.isSigned = true := by
      simp only [Width.isSigned, bne_iff_ne]
      omega
    show (if w.isSigned then _ else _) = _
    rw [if_pos hsigned, readNat_ofNat hle]
    refine congrArg Except.ok (Sized.ext ?_)
    show -(n.val.natAbs : Int) = n.val
    omega
  · next hneg =>
    have hle : n.val.natAbs ≤ w.above := by omega
    obtain ⟨c, rest, hcons⟩ := List.exists_cons_of_ne_nil (ofNat_ne_nil n.val.natAbs)
    have hdigit : c.isDigit = true := isDigit_of_mem_ofNat (n := n.val.natAbs) (by simp [hcons])
    rw [hcons, read_of_isDigit hdigit, ← hcons, readNat_ofNat hle]
    refine congrArg Except.ok (Sized.ext ?_)
    show (n.val.natAbs : Int) = n.val
    omega

theorem read?_eq_some_iff {w : Width} {text : List Char} {n : Sized w} :
    read? w text = some n ↔ read w text = .ok n :=
  toOption_eq_some_iff

theorem read?_ofInt {w : Width} (n : Sized w) : read? w (ofInt n.val) = some n :=
  read?_eq_some_iff.2 (read_ofInt n)

/-! ## All spellings -/

/-- One or more digits. -/
def IsNumeral (digits : List Char) : Prop := digits ≠ [] ∧ ∀ c ∈ digits, c.isDigit = true

/-- The integers that texts spell: one or more digits, with a sign before them or without one.
Leading zeros are allowed. -/
inductive Spells : List Char → Int → Prop
  | unsigned {digits : List Char} (h : IsNumeral digits) :
    Spells digits (Nat.ofDigitChars 10 digits 0 : Nat)
  | plus {digits : List Char} (h : IsNumeral digits) :
    Spells ('+' :: digits) (Nat.ofDigitChars 10 digits 0 : Nat)
  | minus {digits : List Char} (h : IsNumeral digits) :
    Spells ('-' :: digits) (-(Nat.ofDigitChars 10 digits 0 : Nat))

/-- Digits that are read are digits, and append to the number before them. -/
theorem of_readDigits_eq_ok {limit : Nat} {beyond : Fault} {digits : List Char} :
    ∀ {acc n : { n : Nat // n ≤ limit }}, readDigits limit beyond acc digits = .ok n →
      (∀ c ∈ digits, c.isDigit = true) ∧ Nat.ofDigitChars 10 digits acc.val = n.val := by
  induction digits with
  | nil =>
      intro acc n h
      cases h
      exact ⟨by simp, rfl⟩
  | cons c digits ih =>
      intro acc n h
      unfold readDigits at h
      split at h
      · next hc =>
        split at h
        · obtain ⟨hdigits, hval⟩ := ih h
          exact ⟨List.forall_mem_cons.2 ⟨hc, hdigits⟩, by rw [Nat.ofDigitChars_cons]; exact hval⟩
        · cases h
      · cases h

theorem readNat_eq_ok_iff {limit : Nat} {beyond : Fault} {digits : List Char}
    {n : { n : Nat // n ≤ limit }} :
    readNat limit beyond digits = .ok n ↔
      IsNumeral digits ∧ Nat.ofDigitChars 10 digits 0 = n.val := by
  unfold readNat
  constructor
  · intro h
    split at h
    · cases h
    · next hne =>
      obtain ⟨hdigits, hval⟩ := of_readDigits_eq_ok h
      exact ⟨⟨by simpa using hne, hdigits⟩, hval⟩
  · rintro ⟨⟨hne, hdigits⟩, hval⟩
    have hle : Nat.ofDigitChars 10 digits 0 ≤ limit := by rw [hval]; exact n.property
    rw [if_neg (by simpa using hne),
      readDigits_eq_ok beyond digits ⟨0, Nat.zero_le limit⟩ hdigits hle]
    simp only [hval]

theorem map_readNat_eq_ok_iff {w : Width} {limit : Nat} {beyond : Fault} {digits : List Char}
    {make : { n : Nat // n ≤ limit } → Sized w} {n : Sized w} :
    (readNat limit beyond digits).map make = .ok n ↔
      IsNumeral digits ∧ ∃ h : Nat.ofDigitChars 10 digits 0 ≤ limit, make ⟨_, h⟩ = n := by
  constructor
  · intro h
    cases hread : readNat limit beyond digits with
    | error fault =>
        rw [hread] at h
        cases h
    | ok m =>
        rw [hread] at h
        obtain ⟨hdigits, hval⟩ := readNat_eq_ok_iff.1 hread
        obtain ⟨m, hm⟩ := m
        subst hval
        exact ⟨hdigits, hm, Except.ok.inj h⟩
  · rintro ⟨hdigits, hle, rfl⟩
    have hread : readNat limit beyond digits = .ok ⟨_, hle⟩ :=
      readNat_eq_ok_iff.2 ⟨hdigits, rfl⟩
    rw [hread]
    rfl

/-- A range with negative integers reads every text that spells an integer of it, and no other. -/
theorem read_eq_ok_iff {w : Width} (hw : w.isSigned = true) {text : List Char} {n : Sized w} :
    read w text = .ok n ↔ Spells text n.val := by
  have hlow := n.below_le
  have hhigh := n.le_above
  constructor
  · intro h
    unfold read at h
    split at h
    · cases h
    · obtain ⟨hdigits, hle, rfl⟩ := map_readNat_eq_ok_iff.1 h
      exact .plus hdigits
    · rw [if_pos hw] at h
      obtain ⟨hdigits, hle, rfl⟩ := map_readNat_eq_ok_iff.1 h
      exact .minus hdigits
    · obtain ⟨hdigits, hle, rfl⟩ := map_readNat_eq_ok_iff.1 h
      exact .unsigned hdigits
  · intro h
    generalize hval : n.val = v at h
    cases h with
    | @unsigned digits hdigits =>
        obtain ⟨c, rest, rfl⟩ := List.exists_cons_of_ne_nil hdigits.1
        rw [read_of_isDigit (hdigits.2 c List.mem_cons_self)]
        exact map_readNat_eq_ok_iff.2 ⟨hdigits, by omega, Sized.ext hval.symm⟩
    | plus hdigits => exact map_readNat_eq_ok_iff.2 ⟨hdigits, by omega, Sized.ext hval.symm⟩
    | minus hdigits =>
        show (if w.isSigned then _ else _) = _
        rw [if_pos hw]
        exact map_readNat_eq_ok_iff.2 ⟨hdigits, by omega, Sized.ext hval.symm⟩

/-- An integer is negative only if a minus sign says so. -/
theorem nonneg_of_spells {text : List Char} {n : Int} (h : Spells text n) (hminus : '-' ∉ text) :
    0 ≤ n := by
  cases h with
  | unsigned _ => exact Int.natCast_nonneg _
  | plus _ => exact Int.natCast_nonneg _
  | minus _ => exact absurd List.mem_cons_self hminus

theorem isVisible_of_spells {text : List Char} {n : Int} (h : Spells text n) :
    ∀ c ∈ text, Utf8.IsVisible c := by
  cases h with
  | unsigned hdigits => exact fun c hc => Utf8.isVisible_of_isDigit (hdigits.2 c hc)
  | plus hdigits =>
      refine List.forall_mem_cons.2 ⟨by decide, ?_⟩
      exact fun c hc => Utf8.isVisible_of_isDigit (hdigits.2 c hc)
  | minus hdigits =>
      refine List.forall_mem_cons.2 ⟨by decide, ?_⟩
      exact fun c hc => Utf8.isVisible_of_isDigit (hdigits.2 c hc)

end RespClient.Decimal
