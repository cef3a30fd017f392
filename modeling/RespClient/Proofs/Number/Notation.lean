import Mathlib.Data.List.DropRight
import Mathlib.Tactic.Ring
import RespClient.Number.Literal
import RespClient.Number.Notation
import RespClient.Proofs.Number.Decimal
import RespClient.Proofs.Number.Rounding

/-!
# Floating point numbers read back

`Literal.read?` gives back every number that `Layout.write` writes, in every layout and in every
format whose exponents are wide enough (`read?_write`). The text of a finite number is read as a
decimal equal to the shortest one (`scaled?_writeScaled`), which rounds to the number; the
length checks of the reader do not cut in there (`not_too_large`, `not_too_small`).
-/

set_option autoImplicit false

namespace RespClient

/-! ## Equal decimals -/

namespace Scaled

/-- Two decimals are equal when padding with zeros gives them the same digits and the
same exponent. -/
theorem num_mul_den_eq {d d' : Scaled} {a b : Nat}
    (hdigits : d.digits * tenTo a = d'.digits * tenTo b)
    (hexponent : d.exponent + b = d'.exponent + a) : d.num * d'.den = d'.num * d.den := by
  -- the zeros of the left side are a common factor of both
  have hpos : 0 < tenTo a := Nat.pow_pos (by decide)
  refine Nat.eq_of_mul_eq_mul_right hpos ?_
  have hpow : tenTo b * tenTo d.exponent.toNat * tenTo (-d'.exponent).toNat =
      tenTo a * tenTo d'.exponent.toNat * tenTo (-d.exponent).toNat := by
    show 10 ^ b * 10 ^ d.exponent.toNat * 10 ^ (-d'.exponent).toNat =
      10 ^ a * 10 ^ d'.exponent.toNat * 10 ^ (-d.exponent).toNat
    simp only [← Nat.pow_add]
    congr 1
    omega
  calc d.num * d'.den * tenTo a
      = d.digits * tenTo a * (tenTo d.exponent.toNat * tenTo (-d'.exponent).toNat) := by
        unfold num den; ring
    _ = d'.digits * (tenTo b * tenTo d.exponent.toNat * tenTo (-d'.exponent).toNat) := by
        rw [hdigits]; ring
    _ = d'.num * d.den * tenTo a := by rw [hpow]; unfold num den; ring

end Scaled

namespace Literal

/-! ## Runs of digits -/

/-- All characters of a text are decimal digits. -/
def IsDigits (text : List Char) : Prop := ∀ c ∈ text, c.isDigit = true

theorem isDigits_ofNat (n : Nat) : IsDigits (Decimal.ofNat n) := fun _ hc =>
  Decimal.isDigit_of_mem_ofNat hc

theorem isDigits_replicate_zero (n : Nat) : IsDigits (List.replicate n '0') := fun c hc => by
  rw [List.eq_of_mem_replicate hc]
  rfl

theorem IsDigits.append {s t : List Char} (hs : IsDigits s) (ht : IsDigits t) :
    IsDigits (s ++ t) := fun c hc => (List.mem_append.1 hc).elim (hs c) (ht c)

/-- Digits before anything else are taken whole. -/
theorem takeWhile_isDigit_append {s : List Char} (hs : IsDigits s) (t : List Char) :
    (s ++ t).takeWhile Char.isDigit = s ++ t.takeWhile Char.isDigit :=
  List.takeWhile_append_of_pos hs

theorem dropWhile_isDigit_append {s : List Char} (hs : IsDigits s) (t : List Char) :
    (s ++ t).dropWhile Char.isDigit = t.dropWhile Char.isDigit :=
  List.dropWhile_append_of_pos hs

theorem digitsValue_append_zeros (s : List Char) (n : Nat) :
    digitsValue (s ++ List.replicate n '0') = digitsValue s * tenTo n := by
  rw [digitsValue, Nat.ofDigitChars_append, Nat.ofDigitChars_replicate_zero, Nat.mul_comm]
  rfl

theorem digitsValue_zeros_append (s : List Char) (n : Nat) :
    digitsValue (List.replicate n '0' ++ s) = digitsValue s := by
  rw [digitsValue, Nat.ofDigitChars_append, Nat.ofDigitChars_replicate_zero, Nat.mul_zero]
  rfl

theorem digitsValue_ofNat (n : Nat) : digitsValue (Decimal.ofNat n) = n :=
  Nat.ofDigitChars_ten_toDigits

/-! ## The parts of a number -/

/-- Digits with no sign before them have the sign of a positive number. -/
theorem takeSign_of_isDigit {c : Char} {rest : List Char} (hc : c.isDigit = true) :
    takeSign (c :: rest) = (false, c :: rest) := by
  unfold takeSign
  split
  · next h => cases h; simp at hc
  · next h => cases h; simp at hc
  · rfl

theorem takeSign_digits {digits : List Char} (h : IsDigits digits) :
    takeSign digits = (false, digits) := by
  cases digits with
  | nil => rfl
  | cons c rest => exact takeSign_of_isDigit (h c List.mem_cons_self)

/-- A written exponent is read back. -/
theorem exponent?_ofInt (n : Int) (plus : List Char) (hplus : plus = [] ∨ plus = ['+'] ∧ 0 ≤ n) :
    exponent? ('e' :: (plus ++ Decimal.ofInt n)) = some n := by
  have hdigits := isDigits_ofNat n.natAbs
  have hne : (Decimal.ofNat n.natAbs).isEmpty = false := by
    simp [Decimal.ofNat]
  have hall : (Decimal.ofNat n.natAbs).all Char.isDigit = true := List.all_eq_true.2 hdigits
  have hsign : takeSign (plus ++ Decimal.ofInt n) = (decide (n < 0), Decimal.ofNat n.natAbs) := by
    unfold Decimal.ofInt
    rcases hplus with rfl | ⟨rfl, hpos⟩
    · split
      · next hneg => simp [takeSign, hneg]
      · next hneg => simp [takeSign_digits hdigits, hneg]
    · rw [if_neg (by omega)]
      simp [takeSign, hpos]
  simp only [exponent?, hsign, hne, hall, digitsValue_ofNat, decide_true, Bool.true_or, if_true,
    Bool.not_true, Bool.or_false, Bool.false_eq_true, if_false, decide_eq_true_eq,
    Option.some.injEq]
  split <;> omega

/-- A number without a point. -/
theorem scaled?_whole (whole rest : List Char) {e : Int} (hwhole : IsDigits whole)
    (hne : whole ≠ []) (hrest : ∀ c ∈ rest.head?, c.isDigit = false ∧ c ≠ '.')
    (he : exponent? rest = some e) :
    scaled? (whole ++ rest) = some ⟨digitsValue whole, e⟩ := by
  have htake : rest.takeWhile Char.isDigit = [] := by
    cases rest with
    | nil => rfl
    | cons c rest => simp [(hrest c rfl).1]
  have hdrop : rest.dropWhile Char.isDigit = rest := by
    cases rest with
    | nil => rfl
    | cons c rest => simp [(hrest c rfl).1]
  unfold scaled?
  simp only [takeWhile_isDigit_append hwhole, dropWhile_isDigit_append hwhole, htake, hdrop,
    List.append_nil]
  split
  · next more => exact absurd rfl (hrest '.' rfl).2
  · simp [hne, he]

/-- A number with a point. -/
theorem scaled?_point (whole part rest : List Char) {e : Int} (hwhole : IsDigits whole)
    (hpart : IsDigits part) (hne : whole ≠ []) (hrest : ∀ c ∈ rest.head?, c.isDigit = false)
    (he : exponent? rest = some e) :
    scaled? (whole ++ '.' :: (part ++ rest)) =
      some ⟨digitsValue (whole ++ part), e - part.length⟩ := by
  have htake : rest.takeWhile Char.isDigit = [] := by
    cases rest with
    | nil => rfl
    | cons c rest => simp [hrest c rfl]
  have hdrop : rest.dropWhile Char.isDigit = rest := by
    cases rest with
    | nil => rfl
    | cons c rest => simp [hrest c rfl]
  have hpoint : Char.isDigit '.' = false := rfl
  unfold scaled?
  simp only [takeWhile_isDigit_append hwhole, dropWhile_isDigit_append hwhole,
    List.takeWhile_cons, List.dropWhile_cons, hpoint, Bool.false_eq_true, if_false,
    List.append_nil, takeWhile_isDigit_append hpart, dropWhile_isDigit_append hpart, htake, hdrop]
  simp [hne, he]

end Literal

/-! ## Reading back what a layout writes -/

namespace Layout

open Literal

/-- A text is its digits without the zeros that end it, and these zeros. -/
theorem eq_rdropWhile_append_zeros (all : List Char) :
    ∃ n, all = all.rdropWhile (· == '0') ++ List.replicate n '0' := by
  have hzeros : ∀ c ∈ all.rtakeWhile (· == '0'), c = '0' := fun c hc => by
    simpa using List.mem_rtakeWhile_imp hc
  refine ⟨(all.rtakeWhile (· == '0')).length, ?_⟩
  rw [← List.eq_replicate_of_mem hzeros, List.rdropWhile_append_rtakeWhile]

variable {digits : List Char} {exponent : Int}

/-- The text is read as the decimal whose digits are given and whose first digit has the
given exponent, zeros after the digits allowed. -/
def ReadsAs (text digits : List Char) (exponent : Int) : Prop :=
  ∃ n, scaled? text = some ⟨digitsValue digits * tenTo n, exponent + 1 - digits.length - n⟩

theorem readsAs_positional (l : Layout) (hdigits : IsDigits digits) (hne : digits ≠ []) :
    ReadsAs (l.positional digits exponent) digits exponent := by
  unfold positional
  split
  -- below one: zeros stand between the point and the digits
  · next hneg =>
    have h := scaled?_point ['0'] (List.replicate (-exponent - 1).toNat '0' ++ digits) []
      (by simp [IsDigits]) ((isDigits_replicate_zero _).append hdigits) (by simp) (by simp) rfl
    refine ⟨0, ?_⟩
    rw [List.append_nil] at h
    refine Eq.trans h ?_
    have hvalue : digitsValue (['0'] ++ (List.replicate (-exponent - 1).toNat '0' ++ digits)) =
        digitsValue digits :=
      digitsValue_zeros_append digits ((-exponent - 1).toNat + 1)
    rw [hvalue]
    simp only [List.length_append, List.length_replicate, Nat.pow_eq, Nat.pow_zero, Nat.mul_one,
      Option.some.injEq, Scaled.mk.injEq, true_and]
    omega
  · next hpos =>
    simp only
    have hlength : 0 < digits.length := List.length_pos_iff.2 hne
    split
    -- a whole number: zeros may stand behind the digits
    · next hback =>
      have hle : digits.length ≤ exponent.toNat + 1 := List.drop_eq_nil_iff.1 hback
      rw [List.take_of_length_le hle]
      generalize hn : exponent.toNat + 1 - digits.length = n
      have hwhole := hdigits.append (isDigits_replicate_zero n)
      split
      · have h := scaled?_point _ ['0'] [] hwhole (by simp [IsDigits]) (by simp [hne])
          (by simp) rfl
        refine ⟨n + 1, h.trans ?_⟩
        have hzeros : digits ++ List.replicate n '0' ++ ['0'] =
            digits ++ List.replicate (n + 1) '0' := by
          rw [List.replicate_succ', List.append_assoc]
        rw [hzeros, digitsValue_append_zeros]
        simp only [List.length_singleton, Option.some.injEq, Scaled.mk.injEq, true_and]
        omega
      · have h := scaled?_whole _ [] hwhole (by simp [hne]) (by simp) rfl
        rw [List.append_nil] at h
        refine ⟨n, h.trans ?_⟩
        rw [digitsValue_append_zeros]
        simp only [Option.some.injEq, Scaled.mk.injEq, true_and]
        omega
    -- the point is among the digits
    · next hback =>
      have hlt : exponent.toNat + 1 < digits.length := by
        refine Nat.lt_of_not_le fun hle => ?_
        exact hback (List.drop_eq_nil_iff.2 hle)
      have hzeros : exponent.toNat + 1 - digits.length = 0 := by omega
      rw [hzeros, List.replicate_zero, List.append_nil]
      have h := scaled?_point (digits.take (exponent.toNat + 1))
        (digits.drop (exponent.toNat + 1)) []
        (fun c hc => hdigits c (List.mem_of_mem_take hc))
        (fun c hc => hdigits c (List.mem_of_mem_drop hc)) (by simp [hne]) (by simp) rfl
      rw [List.append_nil] at h
      refine ⟨0, h.trans ?_⟩
      rw [List.take_append_drop]
      simp only [List.length_drop, Nat.pow_eq, Nat.pow_zero, Nat.mul_one, Option.some.injEq,
        Scaled.mk.injEq, true_and]
      omega

theorem readsAs_scientific (l : Layout) (hdigits : IsDigits digits) (hne : digits ≠ []) :
    ReadsAs (l.scientific digits exponent) digits exponent := by
  unfold scientific
  simp only
  generalize hplus : (if l.plusSign && decide (0 ≤ exponent) then ['+'] else []) = plus
  have hexponent : exponent? ('e' :: (plus ++ Decimal.ofInt exponent)) = some exponent := by
    refine exponent?_ofInt exponent plus ?_
    subst hplus
    split
    · next h =>
      simp only [Bool.and_eq_true, decide_eq_true_eq] at h
      exact Or.inr ⟨rfl, h.2⟩
    · exact Or.inl rfl
  refine ⟨0, ?_⟩
  split
  · next first second rest =>
    have h := scaled?_point [first] (second :: rest) ('e' :: (plus ++ Decimal.ofInt exponent))
      (fun c hc => hdigits c (by simp_all)) (fun c hc => hdigits c (List.mem_cons_of_mem _ hc))
      (by simp) (by simp) hexponent
    simp only [List.cons_append, List.nil_append, List.append_assoc] at h ⊢
    rw [h]
    simp only [List.length_cons, Nat.pow_eq, Nat.pow_zero, Nat.mul_one, Option.some.injEq,
      Scaled.mk.injEq, true_and]
    omega
  · next hshort =>
    have hone : digits.length = 1 := by
      match digits, hne, hshort with
      | [_], _, _ => rfl
      | first :: second :: rest, _, hshort => exact absurd rfl (hshort first second rest)
    have h := scaled?_whole digits ('e' :: (plus ++ Decimal.ofInt exponent)) hdigits hne
      (by simp) hexponent
    rw [List.append_assoc, List.cons_append, h, hone]
    simp only [Nat.pow_eq, Nat.pow_zero, Nat.mul_one, Option.some.injEq, Scaled.mk.injEq, true_and]
    omega

/-- A positive decimal is written as a text that is read as an equal decimal. -/
theorem scaled?_writeScaled (l : Layout) (d : Scaled) (hpos : 0 < d.digits) :
    ∃ d' : Scaled, scaled? (l.writeScaled d) = some d' ∧ 0 < d'.digits ∧
      d.num * d'.den = d'.num * d.den := by
  -- both layouts write the digits without the zeros that end them
  obtain ⟨n, hall⟩ := eq_rdropWhile_append_zeros (Decimal.ofNat d.digits)
  generalize hsignificant : (Decimal.ofNat d.digits).rdropWhile (· == '0') = digits at hall
  have hdigits : IsDigits digits := fun c hc =>
    isDigits_ofNat d.digits c (by rw [hall]; exact List.mem_append_left _ hc)
  have hvalue : digitsValue digits * tenTo n = d.digits := by
    rw [← digitsValue_append_zeros, ← hall, digitsValue_ofNat]
  have hpositive : 0 < digitsValue digits := Nat.pos_of_ne_zero fun hzero => by
    rw [hzero, Nat.zero_mul] at hvalue
    omega
  have hne : digits ≠ [] := by
    rintro rfl
    exact Nat.lt_irrefl 0 hpositive
  have hlength : (Decimal.ofNat d.digits).length = digits.length + n := by
    rw [hall, List.length_append, List.length_replicate]
  have hreads : ReadsAs (l.writeScaled d) digits
      (d.exponent + ((Decimal.ofNat d.digits).length - 1 : Nat)) := by
    subst hsignificant
    unfold writeScaled
    simp only
    split
    · exact l.readsAs_positional hdigits hne
    · exact l.readsAs_scientific hdigits hne
  obtain ⟨m, hm⟩ := hreads
  refine ⟨_, hm, Nat.mul_pos hpositive (Nat.pow_pos (by decide)), ?_⟩
  refine Scaled.num_mul_den_eq (a := m) (b := n) ?_ ?_
  · show d.digits * tenTo m = digitsValue digits * tenTo m * tenTo n
    rw [Nat.mul_right_comm, hvalue]
  · have hlen : 0 < digits.length := List.length_pos_iff.2 hne
    simp only [hlength]
    omega

end Layout

namespace Literal

/-! ## From a decimal back to the number -/

section

variable {f : Format} {rank : Nat} {d : Scaled}

theorem pow_le_digits (hpos : 0 < d.digits) :
    tenTo ((Decimal.ofNat d.digits).length - 1) ≤ d.digits := by
  have hlength : 0 < (Decimal.ofNat d.digits).length := Nat.length_toDigits_pos
  cases hk : (Decimal.ofNat d.digits).length - 1 with
  | zero => exact hpos
  | succ k =>
      refine Nat.le_of_not_lt fun hlt => ?_
      have := (Nat.length_toDigits_le_iff (b := 10) (by decide) (Nat.succ_pos k)).2 hlt
      have heq : (Decimal.ofNat d.digits).length = (Nat.toDigits 10 d.digits).length := rfl
      omega

theorem digits_lt_pow (d : Scaled) : d.digits < tenTo (Decimal.ofNat d.digits).length :=
  (Nat.length_toDigits_le_iff (by decide) Nat.length_toDigits_pos).1 (Nat.le_refl _)

/-- A decimal that rounds to a finite rank is not too long for the format. -/
theorem not_too_large (hpos : 0 < d.digits) (htop : rank < f.top)
    (h : f.RoundsTo rank d.num d.den)
    (hwide : f.HasWideExponent) :
    ¬ (twoTo f.exponent : Int) < (Decimal.ofNat d.digits).length + d.exponent := by
  intro hlong
  have hrank : f.units rank < f.units f.top := f.units_strictMono htop
  have hsucc : f.units (rank + 1) ≤ f.units f.top := f.units_strictMono.monotone htop
  have hden := d.den_pos
  have hvalue : d.num * twoTo f.scale < f.units f.top * d.den := by
    have hmul := Nat.mul_lt_mul_of_pos_right
      (show f.units rank + f.units (rank + 1) < 2 * f.units f.top by omega) hden
    have heq : 2 * f.units f.top * d.den = 2 * (f.units f.top * d.den) := by ring
    have heq' : 2 * d.num * twoTo f.scale = 2 * (d.num * twoTo f.scale) := by ring
    have hhigh := h.2
    omega
  -- the length check bounds the decimal from below
  have hnum : tenTo (twoTo f.exponent) * d.den ≤ d.num := by
    refine le_trans ?_ (Nat.mul_le_mul_right (tenTo d.exponent.toNat) (pow_le_digits hpos))
    show 10 ^ twoTo f.exponent * 10 ^ (-d.exponent).toNat ≤
      10 ^ ((Decimal.ofNat d.digits).length - 1) * 10 ^ d.exponent.toNat
    rw [← Nat.pow_add, ← Nat.pow_add]
    exact Nat.pow_le_pow_right (by decide) (by omega)
  have hbound : f.units f.top * d.den ≤ d.num * twoTo f.scale := by
    calc f.units f.top * d.den
        ≤ twoTo f.scale * tenTo (twoTo f.exponent) * d.den :=
          Nat.mul_le_mul_right _ hwide.units_top_le
      _ = tenTo (twoTo f.exponent) * d.den * twoTo f.scale := by ring
      _ ≤ d.num * twoTo f.scale := Nat.mul_le_mul_right _ hnum
  omega

/-- A decimal that rounds to a positive rank is not too short for the format. -/
theorem not_too_small (hpos : 0 < rank) (h : f.RoundsTo rank d.num d.den)
    (hwide : f.HasWideExponent) :
    ¬ (Decimal.ofNat d.digits).length + d.exponent < -(twoTo f.exponent : Int) := by
  intro hshort
  have hunits : 0 < f.units rank := lt_of_le_of_lt (Nat.zero_le _) (f.units_strictMono hpos)
  have hden : d.den ≤ d.num * (2 * twoTo f.scale) := by
    have hone := Nat.mul_le_mul_right d.den (show 1 ≤ f.units (rank - 1) + f.units rank by omega)
    have heq : 2 * d.num * twoTo f.scale = d.num * (2 * twoTo f.scale) := by ring
    have hlow := h.1
    omega
  have hpow : 2 * twoTo f.scale ≤ tenTo (twoTo f.exponent) := by
    calc 2 * twoTo f.scale = 2 ^ (f.scale + 1) := (Nat.pow_succ').symm
      _ ≤ 2 ^ twoTo f.exponent := Nat.pow_le_pow_right (by decide) hwide.2
      _ ≤ 10 ^ twoTo f.exponent := Nat.pow_le_pow_left (by decide) _
  -- the length check bounds the decimal from above
  have hnum : d.num * tenTo (twoTo f.exponent) < d.den := by
    have hdigits := Nat.mul_lt_mul_of_pos_right (digits_lt_pow d)
      (show 0 < tenTo d.exponent.toNat * tenTo (twoTo f.exponent) from
        Nat.mul_pos (Nat.pow_pos (by decide)) (Nat.pow_pos (by decide)))
    rw [← Nat.mul_assoc] at hdigits
    refine lt_of_lt_of_le hdigits ?_
    show 10 ^ (Decimal.ofNat d.digits).length * (10 ^ d.exponent.toNat * 10 ^ twoTo f.exponent) ≤
      10 ^ (-d.exponent).toNat
    rw [← Nat.pow_add, ← Nat.pow_add]
    exact Nat.pow_le_pow_right (by decide) (by omega)
  have := Nat.mul_le_mul_left d.num hpow
  omega

/-- A decimal that rounds to a positive finite rank is the number of that rank. -/
theorem ofScaled_eq (negative : Bool) (hdigits : 0 < d.digits) (hpos : 0 < rank)
    (htop : rank < f.top) (h : f.RoundsTo rank d.num d.den)
    (hwide : f.HasWideExponent) :
    (ofScaled negative d : Binary f) = Binary.ofRank negative rank := by
  unfold ofScaled
  simp only
  rw [if_neg (by omega), if_neg (not_too_large hdigits htop h hwide),
    if_neg (not_too_small hpos h hwide), Binary.ofFraction,
    Format.nearestRank_eq d.den_pos hpos htop h]

end

theorem ofRank_eq {f : Format} {negative : Bool} {rank : Nat} (h : rank ≤ f.top) :
    Binary.ofRank negative rank = .number negative rank h := by
  unfold Binary.ofRank
  congr 1
  omega

theorem scaled?_zeroText (l : Layout) :
    ∃ d, scaled? l.zeroText = some d ∧ d.digits = 0 := by
  unfold Layout.zeroText
  split
  · exact ⟨⟨0, -1⟩, rfl, rfl⟩
  · exact ⟨⟨0, 0⟩, rfl, rfl⟩

/-- The size of a finite number is read back from its text. -/
theorem ofScaled_writeRank {f : Format} (l : Layout) (negative : Bool) {rank : Nat}
    (htop : rank < f.top) (hwide : f.HasWideExponent) :
    ∃ d, scaled? (l.writeRank f rank) = some d ∧
      ofScaled negative d = Binary.number negative rank htop.le := by
  unfold Layout.writeRank
  split
  · next hzero =>
    subst hzero
    obtain ⟨d, hd, hdigits⟩ := scaled?_zeroText l
    refine ⟨d, hd, ?_⟩
    rw [ofScaled, if_pos hdigits, ofRank_eq]
  · next hne =>
    have hpos : 0 < rank := Nat.pos_of_ne_zero hne
    have hrounds := f.roundsTo_shortest l.tie hpos
    have hdigits := hrounds.digits_pos hpos
    obtain ⟨d, hd, hd_pos, heq⟩ := l.scaled?_writeScaled _ hdigits
    refine ⟨d, hd, ?_⟩
    rw [ofScaled_eq negative hd_pos hpos htop
      (hrounds.congr (Scaled.den_pos _) (Scaled.den_pos _) heq) hwide, ofRank_eq]

/-- A text that is read as an unsigned decimal does not begin with a sign. -/
theorem takeSign_of_scaled? {text : List Char} {d : Scaled} (h : scaled? text = some d) :
    takeSign text = (false, text) := by
  unfold takeSign
  split
  · simp [scaled?] at h
  · simp [scaled?] at h
  · rfl

/-- Every number of a format is read back from its text on the wire. -/
theorem read?_write {f : Format} (l : Layout) (x : Binary f)
    (hwide : f.HasWideExponent) :
    read? f (l.write ['n', 'a', 'n'] ['i', 'n', 'f'] x) = some x := by
  cases x with
  | nan => rfl
  | number negative rank hrank =>
      unfold Layout.write
      simp only
      by_cases htop : rank = f.top
      · subst htop
        have hinf : (Binary.infinity negative : Binary f) = .number negative f.top hrank :=
          ofRank_eq hrank
        rw [if_pos rfl, ← hinf]
        cases negative <;> rfl
      · rw [if_neg htop]
        obtain ⟨d, hd, hback⟩ := ofScaled_writeRank l negative
          (lt_of_le_of_ne hrank htop) hwide
        cases negative with
        | true => simp only [if_true, read?, takeSign, hd, hback]
        | false =>
            rw [if_neg (by decide)]
            simp only [read?, takeSign_of_scaled? hd, hd, hback]

end Literal

namespace Layout

open Literal

/-! ## The characters that a layout writes -/

theorem isVisible_of_isDigits {text : List Char} (h : IsDigits text) :
    ∀ c ∈ text, Utf8.IsVisible c := fun c hc => Utf8.isVisible_of_isDigit (h c hc)

theorem isVisible_positional (l : Layout) {digits : List Char} {exponent : Int}
    (hdigits : IsDigits digits) : ∀ c ∈ l.positional digits exponent, Utf8.IsVisible c := by
  have hzeros := fun n => isVisible_of_isDigits (isDigits_replicate_zero n)
  have htake := isVisible_of_isDigits fun c hc =>
    hdigits c (List.mem_of_mem_take (i := exponent.toNat + 1) hc)
  have hdrop := isVisible_of_isDigits fun c hc =>
    hdigits c (List.mem_of_mem_drop (i := exponent.toNat + 1) hc)
  have hzero : Utf8.IsVisible '0' := by decide
  have hpoint : Utf8.IsVisible '.' := by decide
  unfold positional
  split
  · exact List.forall_mem_cons.2 ⟨hzero, List.forall_mem_cons.2 ⟨hpoint,
      List.forall_mem_append.2 ⟨hzeros _, isVisible_of_isDigits hdigits⟩⟩⟩
  · have hfront := List.forall_mem_append.2
      ⟨htake, hzeros (exponent.toNat + 1 - digits.length)⟩
    simp only
    split
    · split
      · exact List.forall_mem_append.2 ⟨hfront, by simp [hzero, hpoint]⟩
      · exact hfront
    · exact List.forall_mem_append.2 ⟨hfront, List.forall_mem_cons.2 ⟨hpoint, hdrop⟩⟩

theorem isVisible_scientific (l : Layout) {digits : List Char} {exponent : Int}
    (hdigits : IsDigits digits) : ∀ c ∈ l.scientific digits exponent, Utf8.IsVisible c := by
  have hpoint : Utf8.IsVisible '.' := by decide
  have hexponent : Utf8.IsVisible 'e' := by decide
  have hplus : Utf8.IsVisible '+' := by decide
  have hvisible := isVisible_of_isDigits hdigits
  unfold scientific
  simp only
  refine List.forall_mem_append.2 ⟨List.forall_mem_append.2 ⟨?_,
    List.forall_mem_cons.2 ⟨hexponent, ?_⟩⟩, fun c hc => Decimal.isVisible_of_mem_ofInt hc⟩
  · split
    · exact List.forall_mem_cons.2 ⟨hvisible _ (by simp), List.forall_mem_cons.2 ⟨hpoint,
        fun c hc => hvisible c (List.mem_cons_of_mem _ hc)⟩⟩
    · exact hvisible
  · split
    · simp [hplus]
    · simp

/-- Numbers are written with visible characters. -/
theorem isVisible_write (l : Layout) {nan inf : List Char} {f : Format} (x : Binary f)
    (hnan : ∀ c ∈ nan, Utf8.IsVisible c) (hinf : ∀ c ∈ inf, Utf8.IsVisible c) :
    ∀ c ∈ l.write nan inf x, Utf8.IsVisible c := by
  cases x with
  | nan => exact hnan
  | number negative rank hrank =>
      have hsize : ∀ c ∈ if rank = f.top then inf else l.writeRank f rank, Utf8.IsVisible c := by
        split
        · exact hinf
        · unfold writeRank
          split
          · unfold zeroText
            split
            · exact Utf8.isVisible_of_all rfl
            · exact Utf8.isVisible_of_all rfl
          · have hdigits : IsDigits
                ((Decimal.ofNat (f.shortest l.tie rank).digits).rdropWhile (· == '0')) :=
              fun c hc => isDigits_ofNat _ c ((List.rdropWhile_prefix _ _).subset hc)
            unfold writeScaled
            simp only
            split
            · exact l.isVisible_positional hdigits
            · exact l.isVisible_scientific hdigits
      have hminus : Utf8.IsVisible '-' := by decide
      unfold write
      simp only
      split
      · exact List.forall_mem_cons.2 ⟨hminus, hsize⟩
      · exact hsize

end Layout

end RespClient
