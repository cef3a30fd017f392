import RespClient.Json.Printing
import RespClient.Json.Reading
import RespClient.Proofs.Number.Whole

/-!
# Numbers and strings in JSON text

Whole numbers that are written as integers are read back as they are, except that the negative zero
has lost its sign (`takeNumber?_writeNumber`). Every text is read back from its escaped form
(`takeString?_writeString`).
-/

set_option autoImplicit false

namespace RespClient

namespace Json

variable {rest : List Char}

/-! ## Numbers -/

/-- The text does not go on with a number that stands before it. -/
def EndsNumber (rest : List Char) : Prop :=
  ∀ c ∈ rest.head?, c.isDigit = false ∧ c ≠ '.' ∧ c ≠ 'e' ∧ c ≠ 'E'

theorem takeDigits_append {digits : List Char} (hdigits : Literal.IsDigits digits)
    (hrest : EndsNumber rest) : takeDigits (digits ++ rest) = (digits, rest) := by
  rw [takeDigits, Literal.takeWhile_isDigit_append hdigits,
    Literal.dropWhile_isDigit_append hdigits]
  cases rest with
  | nil => rw [List.takeWhile_nil, List.dropWhile_nil, List.append_nil]
  | cons c rest =>
      have hc : ¬ c.isDigit = true := by simp [(hrest c rfl).1]
      rw [List.takeWhile_cons_of_neg hc, List.dropWhile_cons_of_neg hc, List.append_nil]

theorem takeWhole?_ofNat (n : Nat) (hrest : EndsNumber rest) :
    takeWhole? (Decimal.ofNat n ++ rest) = some (Decimal.ofNat n, rest) := by
  have hne := Decimal.ofNat_ne_nil n
  rw [takeWhole?, takeDigits_append (Literal.isDigits_ofNat n) hrest]
  split
  · next heq => exact absurd (Prod.mk.inj heq).1 hne
  · next c tail heq =>
    -- only the number zero is written with a zero in front
    have hdigits := (Prod.mk.inj heq).1
    by_cases hzero : n = 0
    · rw [hzero] at hdigits
      cases hdigits
    · exact absurd (by rw [hdigits]; rfl) (Decimal.head?_ofNat hzero)
  · rfl

theorem takeFraction?_of_endsNumber (hrest : EndsNumber rest) :
    takeFraction? rest = some ([], rest) := by
  unfold takeFraction?
  split
  · exact absurd rfl (hrest _ rfl).2.1
  · rfl

theorem takeExponent?_of_endsNumber (hrest : EndsNumber rest) :
    takeExponent? rest = some (0, rest) := by
  cases rest with
  | nil => rfl
  | cons c rest =>
      obtain ⟨-, -, he, hE⟩ := hrest c rfl
      rw [takeExponent?, if_neg (by simp [he, hE])]

/-- Digits that spell a number which fits are all gathered. -/
theorem gather_eq {significand : Nat} {digits : List Char}
    (h : Nat.ofDigitChars 10 digits significand ≤ significandMax) :
    gather significand digits = (Nat.ofDigitChars 10 digits significand, []) := by
  induction digits generalizing significand with
  | nil => rfl
  | cons c rest ih =>
      rw [Nat.ofDigitChars_cons] at h ⊢
      have hnext : significand * 10 + Decimal.digitValue c =
          10 * significand + (c.toNat - '0'.toNat) := by
        rw [Nat.mul_comm, Decimal.digitValue]
      have hfits : 10 * significand + (c.toNat - '0'.toNat) ≤ significandMax := by
        rw [Nat.ofDigitChars_eq_ofDigitChars_zero] at h
        have hpow := Nat.le_mul_of_pos_left (10 * significand + (c.toNat - '0'.toNat))
          (Nat.one_le_pow rest.length 10 (by decide))
        omega
      rw [gather, hnext, if_pos hfits, ih h]

theorem gather_ofNat {n : Nat} (h : n ≤ significandMax) : gather 0 (Decimal.ofNat n) = (n, []) := by
  have hvalue : Nat.ofDigitChars 10 (Decimal.ofNat n) 0 = n := Literal.digitsValue_ofNat n
  rw [gather_eq (by rwa [hvalue]), hvalue]

/-- Times one makes no difference. -/
theorem timesRank_tenPower_zero {rank : Nat} (h : rank ≤ Format.double.top) :
    timesRank rank (tenPower 0) = rank := by
  have hone : tenPower 0 = Format.double.oneRank := Format.nearestRank_one (by decide)
  rw [hone]
  exact Format.nearestRank_mul_one (by decide) h

theorem scaleRank?_zero {significand rank : Nat}
    (hrank : Format.double.nearestRank significand 1 = rank) (hlt : rank < Format.double.top) :
    scaleRank? significand 0 = some rank := by
  unfold scaleRank?
  simp only [hrank]
  split
  · next hzero => rw [hzero]
  · rw [if_pos (Int.le_refl 0), Int.natAbs_zero, if_pos (Nat.zero_le _),
      timesRank_tenPower_zero (Nat.le_of_lt hlt), if_pos hlt]

theorem takeUnsigned?_ofNat {negative : Bool} {n rank : Nat} (hn : n ≤ significandMax)
    (hrank : Format.double.nearestRank n 1 = rank) (hlt : rank < Format.double.top)
    (hrest : EndsNumber rest) :
    takeUnsigned? negative (Decimal.ofNat n ++ rest) = some (.ofRank negative rank, rest) := by
  have hfraction : gather n [] = (n, []) := rfl
  have hshift : (0 : Int) + (([] : List Char).length -
      (([] : List Char).length - ([] : List Char).length : Nat)) = 0 := rfl
  -- part after part, so that no rank is computed on the way
  rw [takeUnsigned?, takeWhole?_ofNat n hrest, Option.bind_eq_bind, Option.bind_some]
  dsimp only
  rw [takeFraction?_of_endsNumber hrest, Option.bind_eq_bind, Option.bind_some]
  dsimp only
  rw [takeExponent?_of_endsNumber hrest, Option.bind_eq_bind, Option.bind_some]
  dsimp only
  rw [gather_ofNat hn]
  dsimp only
  rw [hfraction]
  dsimp only
  rw [hshift, scaleRank?_zero hrank hlt, Option.bind_some]

/-- Whole numbers below two to the power of 53. -/
def IsWhole (x : Double) : Prop := ∃ n, x.toInt? = some n ∧ n.natAbs < wholeBound

instance (x : Double) : Decidable (IsWhole x) :=
  match h : x.toInt? with
  | none => isFalse (by rw [IsWhole, h]; exact nofun)
  | some n => decidable_of_iff (n.natAbs < wholeBound) (by simp [IsWhole, h])

theorem IsWhole.exists_writeNumber_eq {x : Double} (h : IsWhole x) :
    ∃ n, x.toInt? = some n ∧ n.natAbs < wholeBound ∧ writeNumber x = Decimal.ofInt n := by
  obtain ⟨n, hn, hlt⟩ := h
  refine ⟨n, hn, hlt, ?_⟩
  rw [writeNumber, hn]
  exact if_pos hlt

/-- A whole number is read back from its digits, a negative zero as zero. -/
theorem IsWhole.takeNumber?_writeNumber {x : Double} (h : IsWhole x) (hrest : EndsNumber rest) :
    takeNumber? (writeNumber x ++ rest) = some (x.plainZero, rest) := by
  obtain ⟨n, hn, hlt, hwrite⟩ := h.exists_writeNumber_eq
  obtain ⟨-, rank, hle, -, htop, hunits, -⟩ := Binary.exists_rank_of_toInt? hn
  have hrank : Format.double.nearestRank n.natAbs 1 = rank :=
    Format.nearestRank_exact Nat.one_pos hle (by rw [hunits, Nat.mul_one])
  have hmax : n.natAbs ≤ significandMax := by
    unfold wholeBound at hlt
    unfold significandMax
    omega
  have htake : ∀ negative, takeUnsigned? negative (Decimal.ofNat n.natAbs ++ rest) =
      some (.ofRank negative rank, rest) :=
    fun _ => takeUnsigned?_ofNat hmax hrank htop hrest
  have hx : x.plainZero = .ofRank (n < 0) rank := by
    rw [← Binary.ofInt_of_toInt? hn, Binary.ofInt, Binary.ofFraction, hrank]
  rw [hwrite, hx, Decimal.ofInt]
  split
  · next hneg =>
    rw [List.cons_append, takeNumber?, htake]
    simp [hneg]
  · next hpos =>
    have hfalse : decide (n < 0) = false := by simpa using hpos
    rw [hfalse, ← htake false, takeNumber?]
    intro tail heq
    have hdigit : '-'.isDigit = true := by
      cases hdigits : Decimal.ofNat n.natAbs with
      | nil => exact absurd hdigits (Decimal.ofNat_ne_nil _)
      | cons c digits =>
          rw [hdigits, List.cons_append] at heq
          rw [← (List.cons.inj heq).1]
          exact Literal.isDigits_ofNat n.natAbs c (by rw [hdigits]; exact List.mem_cons_self)
    exact absurd hdigit (by decide)

/-! ## Strings -/

/-- The four digits of a control character spell its code. -/
theorem hexCode?_control {n : Nat} (h : n < 0x20) :
    hexCode? '0' '0' (Nat.digitChar (n / 16)) (Nat.digitChar (n % 16)) = some n := by
  have hall : ∀ n < 0x20,
      hexCode? '0' '0' (Nat.digitChar (n / 16)) (Nat.digitChar (n % 16)) = some n := by decide
  exact hall n h

/-- A character is read back from its escaped form. -/
theorem takeString?_writeChar (c : Char) (rest : List Char) :
    takeString? (writeChar c ++ rest) = addChar c (takeString? rest) := by
  unfold writeChar
  split
  case h_8 _ _ hbackslash _ _ _ _ _ =>
    split
    · next hcontrol =>
      have hlow : isLowSurrogate c.toNat = false := by
        simp only [isLowSurrogate, Bool.and_eq_false_iff, decide_eq_false_iff_not]
        omega
      have hhigh : isHighSurrogate c.toNat = false := by
        simp only [isHighSurrogate, Bool.and_eq_false_iff, decide_eq_false_iff_not]
        omega
      simp only [List.cons_append, List.nil_append, takeString?, hexCode?_control hcontrol, hlow,
        hhigh, Bool.false_eq_true, if_false, Char.ofNat_toNat]
    · next hplain =>
      rw [List.singleton_append, takeString?.eq_def]
      split <;> simp_all
  all_goals rfl

/-- A text is read back from its escaped form and the closing quote. -/
theorem takeString?_flatMap (text rest : List Char) :
    takeString? (text.flatMap writeChar ++ '"' :: rest) = some (text, rest) := by
  induction text with
  | nil => rfl
  | cons c text ih =>
      rw [List.flatMap_cons, List.append_assoc, takeString?_writeChar, ih]
      rfl

end Json

end RespClient
