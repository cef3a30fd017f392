import Mathlib.Order.Monotone.Basic
import Mathlib.Tactic.Linarith
import Mathlib.Tactic.Ring
import RespClient.Number.Shortest

/-!
# Rounding to the nearest rank

The values of ranks increase (`units_strictMono`), so `floorRank` finds the greatest rank that a
fraction reaches (`floorRank_spec`) and `nearestRank` the rank that the fraction rounds to
(`nearestRank_eq`), ties to even ranks. `RoundsTo` says what that means without the search. The
shortest decimal of a positive rank rounds to the rank (`roundsTo_shortest`), on whatever power of
ten its search ends.
-/

set_option autoImplicit false

namespace RespClient

theorem Scaled.den_pos (d : Scaled) : 0 < d.den := Nat.pow_pos (by decide)

namespace Format

/-- Each rank has a greater value than the rank before it. -/
theorem units_lt_succ (f : Format) (rank : Nat) : f.units rank < f.units (rank + 1) := by
  have hp : 0 < twoTo f.fraction := Nat.two_pow_pos _
  unfold units
  generalize twoTo f.fraction = p at hp ⊢
  by_cases hlow : rank < p
  · rw [if_pos hlow]
    split
    · omega
    -- the last subnormal rank, before the first normal one
    · have heq : rank + 1 = p := by omega
      rw [heq, Nat.mod_self, Nat.div_self hp]
      show rank < (p + 0) * 1
      omega
  · rw [if_neg hlow, if_neg (by omega)]
    have hq : 1 ≤ rank / p := (Nat.one_le_div_iff hp).2 (by omega)
    have hm : rank % p < p := Nat.mod_lt _ hp
    have hrank : rank = p * (rank / p) + rank % p := (Nat.div_add_mod rank p).symm
    generalize rank / p = q at hq hrank
    generalize rank % p = m at hm hrank
    have hpow : 0 < twoTo (q - 1) := Nat.two_pow_pos _
    subst hrank
    by_cases hlast : m + 1 = p
    -- the last rank of a binade: the next one has fraction zero and twice the unit
    · have hdiv : (p * q + m + 1) / p = q + 1 := by
        rw [Nat.add_assoc, hlast, ← Nat.mul_succ, Nat.mul_div_cancel_left _ hp]
      have hmod : (p * q + m + 1) % p = 0 := by
        rw [Nat.add_assoc, hlast, ← Nat.mul_succ, Nat.mul_mod_right]
      have htwo : twoTo (q + 1 - 1) = 2 * twoTo (q - 1) := by
        show 2 ^ (q + 1 - 1) = 2 * 2 ^ (q - 1)
        rw [← Nat.pow_succ']
        congr 1
        omega
      rw [hdiv, hmod, htwo]
      nlinarith
    -- two ranks of one binade
    · have hdiv : (p * q + m + 1) / p = q := by
        rw [Nat.add_assoc, Nat.mul_add_div hp, Nat.div_eq_of_lt (by omega), Nat.add_zero]
      have hmod : (p * q + m + 1) % p = m + 1 := by
        rw [Nat.add_assoc, Nat.mul_add_mod, Nat.mod_eq_of_lt (by omega)]
      rw [hdiv, hmod]
      exact Nat.mul_lt_mul_of_pos_right (by omega) hpow

theorem units_strictMono (f : Format) : StrictMono f.units :=
  strictMono_nat_of_lt_succ f.units_lt_succ

/-- The search ends at the greatest rank that fits, when all ranks below a rank that
fits do and the ranks that the digits cannot reach do not. -/
theorem search_spec (fits : Nat → Bool) (hdown : ∀ {a b}, a ≤ b → fits b = true → fits a = true) :
    ∀ count rank, fits rank = true → fits (rank + twoTo count) = false →
      fits (search fits count rank) = true ∧ fits (search fits count rank + 1) = false
  | 0, rank, hfits, hbeyond => ⟨hfits, hbeyond⟩
  | count + 1, rank, hfits, hbeyond => by
      have htwo : twoTo (count + 1) = twoTo count + twoTo count := by
        show 2 ^ (count + 1) = 2 ^ count + 2 ^ count
        omega
      unfold search
      cases hmid : fits (rank + twoTo count) with
      | true =>
          rw [if_pos rfl]
          exact search_spec fits hdown count _ hmid (by rw [Nat.add_assoc, ← htwo]; exact hbeyond)
      | false =>
          rw [if_neg (by decide)]
          exact search_spec fits hdown count rank hfits hmid

theorem top_lt_two_pow (f : Format) : f.top < twoTo (f.fraction + f.exponent) := by
  have hsplit : twoTo (f.fraction + f.exponent) = twoTo f.exponent * twoTo f.fraction := by
    show 2 ^ (f.fraction + f.exponent) = 2 ^ f.exponent * 2 ^ f.fraction
    rw [Nat.pow_add, Nat.mul_comm]
  have hexp : 0 < twoTo f.exponent := Nat.two_pow_pos _
  rw [hsplit]
  exact Nat.mul_lt_mul_of_pos_right (by omega) (Nat.two_pow_pos _)

/-- The floor rank of a fraction is the greatest rank, up to infinity, whose value the
fraction reaches. -/
theorem floorRank_spec (f : Format) (num den : Nat) :
    f.floorRank num den ≤ f.top ∧
      f.units (f.floorRank num den) * den ≤ num * twoTo f.scale ∧
      (f.floorRank num den < f.top →
        num * twoTo f.scale < f.units (f.floorRank num den + 1) * den) := by
  have hzero : f.units 0 = 0 := if_pos (Nat.two_pow_pos _)
  have hmono := f.units_strictMono.monotone
  obtain ⟨hfits, hnext⟩ := search_spec
    (fun rank => rank ≤ f.top && f.units rank * den ≤ num * twoTo f.scale)
    (by
      intro a b hab hb
      simp only [Bool.and_eq_true, decide_eq_true_eq] at hb ⊢
      exact ⟨hab.trans hb.1, (Nat.mul_le_mul_right den (hmono hab)).trans hb.2⟩)
    (f.fraction + f.exponent) 0 (by simp [hzero])
    -- the digits tested reach past infinity
    (by
      have := f.top_lt_two_pow
      simp only [Nat.zero_add, Bool.and_eq_false_iff, decide_eq_false_iff_not]
      exact Or.inl (by omega))
  simp only [Bool.and_eq_true, decide_eq_true_eq] at hfits
  simp only [Bool.and_eq_false_iff, decide_eq_false_iff_not] at hnext
  refine ⟨hfits.1, hfits.2, fun hlt => ?_⟩
  rcases hnext with h | h
  · exact absurd hlt h
  · exact Nat.lt_of_not_le h

/-- The fraction `num / den` rounds to the rank: it lies between the middles to the two
neighbouring values, a middle itself included when the rank is even. -/
def RoundsTo (f : Format) (rank num den : Nat) : Prop :=
  let value := 2 * num * twoTo f.scale
  let low := (f.units (rank - 1) + f.units rank) * den
  let high := (f.units rank + f.units (rank + 1)) * den
  (low < value ∨ low = value ∧ rank % 2 = 0) ∧ (value < high ∨ value = high ∧ rank % 2 = 0)

theorem roundsTo_eq_true_iff {f : Format} {rank : Nat} {d : Scaled} :
    f.roundsTo rank d = true ↔ f.RoundsTo rank d.num d.den := by
  unfold roundsTo RoundsTo
  split
  · next heven =>
    simp only [Bool.and_eq_true, decide_eq_true_eq, heven, and_true]
    omega
  · next hodd =>
    simp only [Bool.and_eq_true, decide_eq_true_eq, hodd, and_false, or_false]

/-- Equal fractions round alike. -/
theorem RoundsTo.congr {f : Format} {rank num den num' den' : Nat} (h : f.RoundsTo rank num den)
    (hden : 0 < den) (hden' : 0 < den') (heq : num * den' = num' * den) :
    f.RoundsTo rank num' den' := by
  have hvalue : 2 * num' * twoTo f.scale * den = 2 * num * twoTo f.scale * den' := by
    calc 2 * num' * twoTo f.scale * den = 2 * twoTo f.scale * (num' * den) := by ring
      _ = 2 * num * twoTo f.scale * den' := by rw [← heq]; ring
  have hscale : ∀ n : Nat, n * den' * den = n * den * den' := fun n => by ring
  have hlt : ∀ {a b a' b' : Nat}, a * den = a' * den' → b * den = b' * den' → a' < b' → a < b := by
    intro a b a' b' ha hb hab
    refine Nat.lt_of_mul_lt_mul_right (a := den) ?_
    rw [ha, hb]
    exact Nat.mul_lt_mul_of_pos_right hab hden'
  have heq' : ∀ {a b a' b' : Nat}, a * den = a' * den' → b * den = b' * den' → a' = b' → a = b := by
    intro a b a' b' ha hb hab
    refine Nat.eq_of_mul_eq_mul_right hden ?_
    rw [ha, hb, hab]
  obtain ⟨hlow, hhigh⟩ := h
  exact ⟨hlow.imp (hlt (hscale _) hvalue) (And.imp_left (heq' (hscale _) hvalue)),
    hhigh.imp (hlt hvalue (hscale _)) (And.imp_left (heq' hvalue (hscale _)))⟩

/-- Zero rounds to no positive rank. -/
theorem RoundsTo.digits_pos {f : Format} {rank : Nat} {d : Scaled}
    (h : f.RoundsTo rank d.num d.den) (hpos : 0 < rank) : 0 < d.digits := by
  refine Nat.pos_of_ne_zero fun hzero => ?_
  have hnum : d.num = 0 := by rw [Scaled.num, hzero, Nat.zero_mul]
  have hunits : 0 < f.units rank := lt_of_le_of_lt (Nat.zero_le _) (f.units_strictMono hpos)
  have hlow := Nat.mul_pos (show 0 < f.units (rank - 1) + f.units rank by omega) d.den_pos
  have h1 := h.1
  simp only [hnum, Nat.mul_zero, Nat.zero_mul] at h1
  omega

/-- The rank nearest to a fraction is the one that the fraction rounds to. -/
theorem nearestRank_eq {f : Format} {rank num den : Nat} (hden : 0 < den) (hpos : 0 < rank)
    (htop : rank < f.top) (h : f.RoundsTo rank num den) : f.nearestRank num den = rank := by
  obtain ⟨hle, hfloor, hnext⟩ := f.floorRank_spec num den
  obtain ⟨hlow, hhigh⟩ := h
  have hbelow : f.units (rank - 1) < f.units rank := f.units_strictMono (by omega)
  have habove : f.units rank < f.units (rank + 1) := f.units_lt_succ rank
  have hmul : ∀ {a b : Nat}, a < b → f.units a * den < f.units b * den := fun hab =>
    Nat.mul_lt_mul_of_pos_right (f.units_strictMono hab) hden
  have hlow' := hmul (show rank - 1 < rank by omega)
  have hhigh' := hmul (show rank < rank + 1 by omega)
  have hvalue : 2 * num * twoTo f.scale = 2 * (num * twoTo f.scale) := by ring
  rw [hvalue, Nat.add_mul] at hlow hhigh
  unfold nearestRank
  generalize f.floorRank num den = floor at hle hfloor hnext
  generalize num * twoTo f.scale = value at hlow hhigh hfloor hnext
  -- the floor is the rank itself or the one before it
  have hfloor_le : floor ≤ rank := by
    by_contra hlt
    have := Nat.mul_le_mul_right den
      (f.units_strictMono.monotone (show rank + 1 ≤ floor by omega))
    omega
  have hle_floor : rank - 1 ≤ floor := by
    by_contra hlt
    have := hnext (by omega)
    have := Nat.mul_le_mul_right den
      (f.units_strictMono.monotone (show floor + 1 ≤ rank - 1 by omega))
    omega
  rw [if_neg (by omega)]
  simp only [Nat.add_mul]
  rcases (show floor = rank ∨ floor + 1 = rank by omega) with rfl | hsucc
  -- the fraction is below the upper middle, or on it and the rank is even
  · rcases hhigh with hlt | ⟨heq, heven⟩
    · rw [if_pos hlt]
    · rw [if_neg (by omega), if_neg (by omega), if_pos heven]
  -- the fraction is above the lower middle, or on it and the rank before is odd
  · have hsub : rank - 1 = floor := by omega
    rw [hsub] at hlow
    rw [hsucc]
    rcases hlow with hlt | ⟨heq, heven⟩
    · rw [if_neg (by omega), if_pos hlt]
    · rw [if_neg (by omega), if_neg (by omega), if_neg (by omega)]

/-! ## Shortest decimals -/

/-- The exact value of a positive rank rounds to the rank. -/
theorem roundsTo_exact (f : Format) {rank : Nat} (hpos : 0 < rank) :
    f.roundsTo rank ⟨f.units rank * fiveTo f.scale, -(f.scale : Int)⟩ = true := by
  rw [roundsTo_eq_true_iff]
  have hnum : Scaled.num ⟨f.units rank * fiveTo f.scale, -(f.scale : Int)⟩ =
      f.units rank * fiveTo f.scale := by
    show f.units rank * fiveTo f.scale * 10 ^ (-(f.scale : Int)).toNat = _
    rw [show (-(f.scale : Int)).toNat = 0 by omega, Nat.pow_zero, Nat.mul_one]
  have hden : Scaled.den ⟨f.units rank * fiveTo f.scale, -(f.scale : Int)⟩ =
      fiveTo f.scale * twoTo f.scale := by
    show 10 ^ (- -(f.scale : Int)).toNat = 5 ^ f.scale * 2 ^ f.scale
    rw [show (- -(f.scale : Int)).toNat = f.scale by omega, ← Nat.mul_pow]
  have hvalue : 2 * (f.units rank * fiveTo f.scale) * twoTo f.scale =
      (f.units rank + f.units rank) * (fiveTo f.scale * twoTo f.scale) := by ring
  have hunit : 0 < fiveTo f.scale * twoTo f.scale :=
    Nat.mul_pos (Nat.pow_pos (by decide)) (Nat.pow_pos (by decide))
  have hbelow : f.units (rank - 1) < f.units rank := f.units_strictMono (by omega)
  have habove := f.units_lt_succ rank
  unfold RoundsTo
  rw [hnum, hden]
  simp only
  rw [hvalue]
  exact ⟨Or.inl (Nat.mul_lt_mul_of_pos_right (by omega) hunit),
    Or.inl (Nat.mul_lt_mul_of_pos_right (by omega) hunit)⟩

/-- Whatever power of ten ends the search, the decimal found rounds to the rank. -/
theorem searchDecimal_roundsTo (f : Format) (tie : Tie) {rank : Nat} (hpos : 0 < rank) :
    ∀ count exponent, f.roundsTo rank (f.searchDecimal tie rank count exponent) = true
  | 0, _ => f.roundsTo_exact hpos
  | count + 1, exponent => by
      unfold searchDecimal
      simp only
      split
      · split <;> assumption
      · assumption
      · assumption
      · exact searchDecimal_roundsTo f tie hpos count (exponent - 1)

/-- The shortest decimal of a positive rank rounds to the rank. -/
theorem roundsTo_shortest (f : Format) (tie : Tie) {rank : Nat} (hpos : 0 < rank) :
    f.RoundsTo rank (f.shortest tie rank).num (f.shortest tie rank).den :=
  roundsTo_eq_true_iff.1 (f.searchDecimal_roundsTo tie hpos 22 (f.decimalCeiling rank))

/-! ## Formats whose numbers are settled by length -/

theorem units_top_le (f : Format) :
    f.units f.top ≤ twoTo f.fraction * twoTo (twoTo f.exponent) := by
  have hp : 0 < twoTo f.fraction := Nat.two_pow_pos _
  unfold units
  split
  · next hlow => exact hlow.le.trans (Nat.le_mul_of_pos_right _ (Nat.two_pow_pos _))
  · rw [top, Nat.mul_mod_left, Nat.mul_div_cancel _ hp, Nat.add_zero]
    exact Nat.mul_le_mul_left _ (Nat.pow_le_pow_right (by decide) (by omega))

/-- The exponent field of the format is wide enough for the reader of decimals to settle very
long and very short ones by their length. -/
def HasWideExponent (f : Format) : Prop := f.fraction ≤ f.scale ∧ f.scale < twoTo f.exponent

theorem double_hasWideExponent : double.HasWideExponent := by
  unfold HasWideExponent
  decide

theorem HasWideExponent.units_top_le {f : Format} (h : f.HasWideExponent) :
    f.units f.top ≤ twoTo f.scale * tenTo (twoTo f.exponent) :=
  f.units_top_le.trans (Nat.mul_le_mul (Nat.pow_le_pow_right (by decide) h.1)
    (Nat.pow_le_pow_left (by decide) _))

end Format

end RespClient
