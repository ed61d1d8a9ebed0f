import Pocketdex.Proofs.DecimalTexts
import Pocketdex.Utils.DoubleLaws

/-! Which decimals are scaled exactly when the scaling is done with doubles. -/

namespace Pocketdex

open Double (HasLog roundAt unitAt nearest)

/-- The weight of the last of fifty-three bits of a decimal, scaled like the decimal. -/
def scaledStep (scaled : ℕ) : ℚ := unitAt (Int.log 2 ((scaled : ℚ) / 10 ^ 18)) * 10 ^ 18

/-- By how much the closest multiple of that step misses the scaled value. -/
def scaledMiss (scaled : ℕ) : ℚ :=
  Double.roundEven (scaled / scaledStep scaled) * scaledStep scaled - scaled

/-- The weight of the last of fifty-three bits of an integer, and one for a smaller integer. -/
def lastBit (scaled : ℕ) : ℕ := 2 ^ (scaled.log2 - 52)

/-- An integer of fifty-three bits that the step misses by no more than half of the last one, and by
less if that is odd. -/
def HalfBitMissed (scaled : ℕ) : Prop :=
  ∃ bits : ℕ, scaled = bits * lastBit scaled ∧
    (|scaledMiss scaled| < (lastBit scaled : ℚ) / 2 ∨
      (|scaledMiss scaled| = (lastBit scaled : ℚ) / 2 ∧ bits % 2 = 0))

/-- What a decimal needs to be scaled exactly: the more bits it has, the less it may be missed. -/
def ScalesExactly (scaled : ℕ) : Prop :=
  scaled < 2 ^ 51 ∨ (scaled < 2 ^ 52 ∧ scaledMiss scaled ≤ 1 / 4) ∨
    (2 ^ 52 ≤ scaled ∧ scaled.log2 < 1024 ∧ HalfBitMissed scaled)

/-- A decimal scaled with doubles, from its scaled value on. -/
def scaledDouble (scaled : ℕ) : Except String Int :=
  ((Double.ofRat (scaled / 10 ^ 18)).mul (.finite (10 ^ 18))).round.toBigInt

section Scaling

variable {scaled : ℕ}

/-- A scaled value is in the range of its logarithm. -/
theorem hasLog_scaled (positive : 0 < scaled) : HasLog (scaled : ℚ) scaled.log2 := by
  constructor
  · exact_mod_cast Nat.log2_self_le positive.ne'
  · exact_mod_cast Nat.lt_log2_self

/-- A scaled value of few bits is below the overflow. -/
theorem scaled_lt (positive : 0 < scaled) (small : scaled.log2 < 1024) :
    (scaled : ℚ) < 2 ^ (1024 : ℤ) :=
  (hasLog_scaled positive).below.trans_le (zpow_le_zpow_right₀ (by norm_num) (by omega))

/-- Few bits are below a small power of two. -/
theorem log2_lt {bits : ℕ} (positive : 0 < scaled) (small : scaled < 2 ^ bits) :
    scaled.log2 < bits := (Nat.log2_lt positive.ne').mpr small

/-- The closest multiple is the double closest to the decimal, and is rounded once more. -/
theorem nearest_mul (scaled : ℕ) :
    nearest (scaled / 10 ^ 18) * 10 ^ 18 = scaled + scaledMiss scaled := by
  have count : (scaled : ℚ) / scaledStep scaled =
      scaled / 10 ^ 18 / unitAt (Int.log 2 ((scaled : ℚ) / 10 ^ 18)) := by
    rw [scaledStep, mul_comm, div_div]
  rw [scaledMiss, count, nearest, roundAt, scaledStep]
  ring

/-- The miss is small beside the scaled value. -/
theorem abs_scaledMiss_le (positive : 0 < scaled) : |scaledMiss scaled| ≤ scaled / 2 ^ 53 := by
  have pos : (0 : ℚ) < scaled / 10 ^ 18 := by positivity
  have near := Double.abs_nearest_sub_le pos
  have split : scaledMiss scaled = (nearest (scaled / 10 ^ 18) - scaled / 10 ^ 18) * 10 ^ 18 := by
    linarith [nearest_mul scaled]
  rw [split, abs_mul, abs_of_pos (by norm_num : (0 : ℚ) < 10 ^ 18)]
  calc |nearest ((scaled : ℚ) / 10 ^ 18) - (scaled : ℚ) / 10 ^ 18| * 10 ^ 18
      ≤ (scaled : ℚ) / 10 ^ 18 / 2 ^ 53 * 10 ^ 18 :=
        mul_le_mul_of_nonneg_right near (by norm_num)
    _ = (scaled : ℚ) / 2 ^ 53 := by ring

/-- A decimal is not too small for fifty-three bits. -/
theorem normal_scaled (positive : 0 < scaled) : (2 : ℚ) ^ (-1022 : ℤ) ≤ scaled / 10 ^ 18 := by
  have one : (1 : ℚ) ≤ scaled := by exact_mod_cast positive
  calc (2 : ℚ) ^ (-1022 : ℤ) ≤ 2 ^ (-60 : ℤ) := zpow_le_zpow_right₀ (by norm_num) (by norm_num)
    _ ≤ 1 / 10 ^ 18 := by norm_num
    _ ≤ scaled / 10 ^ 18 := div_le_div_of_nonneg_right one (by norm_num)

/-- A scaled value that is no overflow comes back as what its double stands for. -/
theorem scaledDouble_eq (positive : 0 < scaled) (small : scaled.log2 < 1024) :
    scaledDouble scaled = (Double.ofRat (scaled + scaledMiss scaled)).round.toBigInt := by
  have less : (scaled : ℚ) / 10 ^ 18 < 2 ^ (1023 : ℤ) := by
    have cast := scaled_lt positive small
    have twice : (2 : ℚ) ^ (1024 : ℤ) = 2 ^ (1023 : ℤ) * 2 := by
      rw [← zpow_add_one₀ (by norm_num)]
      norm_num
    rw [twice] at cast
    rw [div_lt_iff₀ (by norm_num)]
    have power : (0 : ℚ) < 2 ^ (1023 : ℤ) := zpow_pos (by norm_num) _
    generalize (2 : ℚ) ^ (1023 : ℤ) = large at cast power ⊢
    linarith
  rw [scaledDouble, Double.ofRat_eq_nearest (normal_scaled positive) less, Double.mul,
    nearest_mul]

/-- Fewer than fifty-two bits are always scaled exactly. -/
theorem scaledDouble_low (positive : 0 < scaled) (small : scaled < 2 ^ 51) :
    scaledDouble scaled = .ok scaled := by
  have less : scaled.log2 < 1024 := (log2_lt positive small).trans (by omega)
  have missed := abs_le.mp (abs_scaledMiss_le positive)
  have one : (1 : ℚ) ≤ scaled := by exact_mod_cast positive
  have high : (scaled : ℚ) ≤ 2 ^ 51 - 1 := by
    have cast : scaled + 1 ≤ 2 ^ 51 := small
    have cast : (scaled : ℚ) + 1 ≤ 2 ^ 51 := by exact_mod_cast cast
    linarith
  have pos : (0 : ℚ) < scaled + scaledMiss scaled := by linarith
  have range := Double.hasLog_log pos
  -- The value stays below two to the fifty-one, where the last bit is a quarter.
  have bound : Int.log 2 (scaled + scaledMiss scaled) < 51 := by
    rw [← Int.lt_zpow_iff_log_lt (by norm_num) pos]
    norm_num
    linarith
  have normal : -1 ≤ Int.log 2 (scaled + scaledMiss scaled) := by
    rw [← Int.zpow_le_iff_le_log (by norm_num) pos]
    norm_num
    linarith
  have bit : unitAt (Int.log 2 (scaled + scaledMiss scaled)) ≤ 1 / 4 := by
    calc unitAt (Int.log 2 (scaled + scaledMiss scaled))
        ≤ 2 ^ (-2 : ℤ) := zpow_le_zpow_right₀ (by norm_num) (by omega)
      _ = 1 / 4 := by norm_num
  have moved := abs_le.mp (Double.abs_roundAt_sub_le
    (Int.log 2 (scaled + scaledMiss scaled)) (scaled + scaledMiss scaled))
  rw [scaledDouble_eq positive less, range.ofRat_eq_roundAt (by omega) (by omega),
    Double.round_toBigInt, Except.ok.injEq, Int.floor_eq_iff]
  push_cast
  constructor <;> linarith

/-- With fifty-two bits, the last one a half, only rounding up to the next half is noticed. -/
theorem scaledDouble_mid_iff (large : 2 ^ 51 ≤ scaled) (small : scaled < 2 ^ 52) :
    scaledDouble scaled = .ok scaled ↔ scaledMiss scaled ≤ 1 / 4 := by
  have positive : 0 < scaled := by omega
  have less : scaled.log2 < 1024 := (log2_lt positive small).trans (by omega)
  have missed := abs_le.mp (abs_scaledMiss_le positive)
  have low : (2 : ℚ) ^ 51 ≤ scaled := by exact_mod_cast large
  have high : (scaled : ℚ) ≤ 2 ^ 52 - 1 := by
    have cast : scaled + 1 ≤ 2 ^ 52 := small
    have cast : (scaled : ℚ) + 1 ≤ 2 ^ 52 := by exact_mod_cast cast
    linarith
  rw [scaledDouble_eq positive less]
  rcases le_or_gt ((2 : ℚ) ^ 51) (scaled + scaledMiss scaled) with inside | outside
  · have range : HasLog (scaled + scaledMiss scaled) 51 := ⟨by exact_mod_cast inside, by
      norm_num
      linarith⟩
    have bit : unitAt 51 = 1 / 2 := by norm_num [unitAt]
    -- The double is the scaled value or one of the halves beside it.
    have rounds : ∀ halves : ℤ, |(scaled + scaledMiss scaled) - halves * (1 / 2)| < 1 / 4 ∨
        (|(scaled + scaledMiss scaled) - halves * (1 / 2)| = 1 / 4 ∧ halves % 2 = 0) →
        roundAt 51 (scaled + scaledMiss scaled) = halves * (1 / 2) := by
      intro halves close
      have rounded := Double.roundAt_eq_iff 51 halves (scaled + scaledMiss scaled)
      rw [bit] at rounded
      refine rounded.mpr ?_
      norm_num at close ⊢
      exact close
    rw [range.ofRat_eq_roundAt (by norm_num) (by norm_num), Double.round_toBigInt,
      Except.ok.injEq, Int.floor_eq_iff]
    constructor
    · rintro ⟨-, below⟩
      by_contra past
      have up := rounds (2 * scaled + 1) (Or.inl (by
        push_cast
        rw [abs_lt]
        constructor <;> linarith))
      rw [up] at below
      push_cast at below
      linarith
    · intro close
      rcases lt_or_ge (scaledMiss scaled) (-(1 / 4)) with before | near
      · have down := rounds (2 * scaled - 1) (Or.inl (by
          push_cast
          rw [abs_lt]
          constructor <;> linarith))
        rw [down]
        push_cast
        constructor <;> linarith
      · have within : |scaledMiss scaled| ≤ 1 / 4 := abs_le.mpr ⟨near, close⟩
        have same := rounds (2 * scaled) (by
          have moved : (scaled + scaledMiss scaled : ℚ) - ((2 * scaled : ℤ) : ℚ) * (1 / 2) =
              scaledMiss scaled := by
            push_cast
            ring
          rw [moved]
          exact (lt_or_eq_of_le within).imp_right fun tie => ⟨tie, by omega⟩)
        rw [same]
        push_cast
        constructor <;> linarith
  · -- Below the smallest of them the last bit is a quarter, and the miss is no more.
    have edge : (scaled : ℚ) < 2 ^ 51 + 1 := by linarith
    have range : HasLog (scaled + scaledMiss scaled) 50 := ⟨by
      norm_num
      linarith, by exact_mod_cast outside⟩
    have bit : unitAt 50 = 1 / 4 := by norm_num [unitAt]
    have moved := abs_le.mp (Double.abs_roundAt_sub_le 50 (scaled + scaledMiss scaled))
    rw [bit] at moved
    rw [range.ofRat_eq_roundAt (by norm_num) (by norm_num), Double.round_toBigInt,
      Except.ok.injEq, Int.floor_eq_iff]
    push_cast
    refine ⟨fun _ => by linarith, fun _ => ?_⟩
    constructor <;> linarith

/-- The double closest to a power of two, scaled down, is above it. -/
theorem scaledMiss_two_pow (log : ℕ) : 0 ≤ scaledMiss (2 ^ log) := by
  have down : ∀ bits : ℕ, (2 : ℚ) ^ ((log : ℤ) - bits) = 2 ^ log / 2 ^ bits := by
    intro bits
    rw [zpow_sub₀ (by norm_num), zpow_natCast, zpow_natCast]
  have unit : unitAt (log - 60) = 2 ^ log / 2 ^ 112 := by
    rw [← down 112, unitAt]
    congr 1
    push_cast
    ring
  have power : (0 : ℚ) < 2 ^ log := by positivity
  have value : ((2 ^ log : ℕ) : ℚ) / 10 ^ 18 = 2 ^ 112 / 10 ^ 18 * unitAt (log - 60) := by
    rw [unit]
    push_cast
    field_simp
  have range : HasLog (((2 ^ log : ℕ) : ℚ) / 10 ^ 18) (log - 60) := by
    constructor
    · have edge := down 60
      push_cast at edge ⊢
      rw [edge]
      exact div_le_div_of_nonneg_left power.le (by norm_num) (by norm_num)
    · have edge := down 59
      push_cast at edge ⊢
      rw [show (log : ℤ) - 60 + 1 = log - 59 by ring, edge]
      exact div_lt_div_of_pos_left power (by norm_num) (by norm_num)
  -- The digits of the double do not depend on the power.
  have digits : Double.roundEven (2 ^ 112 / 10 ^ 18) = 5192296858534828 := by
    rw [Double.roundEven_eq_iff]
    left
    rw [abs_lt]
    norm_num
  have double : nearest (((2 ^ log : ℕ) : ℚ) / 10 ^ 18) =
      5192296858534828 * unitAt (log - 60) := by
    rw [nearest, range.log_eq, roundAt, value, mul_div_cancel_right₀ _ (Double.unitAt_pos _).ne',
      digits]
    norm_num
  have moved := nearest_mul (2 ^ log)
  rw [double, unit] at moved
  push_cast at moved
  have above : (2 : ℚ) ^ log ≤ 5192296858534828 * (2 ^ log / 2 ^ 112) * 10 ^ 18 := by
    rw [mul_div_assoc', div_mul_eq_mul_div, le_div_iff₀ (by norm_num)]
    linarith
  linarith

section High

variable (large : 2 ^ 52 ≤ scaled)
include large

theorem pos_of_large : 0 < scaled := by omega

/-- The last bit of the scaled value, as doubles have it. -/
theorem lastBit_eq : (lastBit scaled : ℚ) = unitAt scaled.log2 := by
  have bits : 52 ≤ scaled.log2 := (Nat.le_log2 (by omega)).mpr large
  rw [lastBit, unitAt]
  push_cast
  rw [← zpow_natCast, Nat.cast_sub bits]
  rfl

/-- The miss is less than the last bit. -/
theorem abs_scaledMiss_lt : |scaledMiss scaled| < lastBit scaled := by
  have missed := abs_scaledMiss_le (pos_of_large large)
  have range := hasLog_scaled (pos_of_large large)
  rw [lastBit_eq large]
  calc |scaledMiss scaled| ≤ scaled / 2 ^ 53 := missed
    _ < unitAt scaled.log2 := by
      rw [div_lt_iff₀ (by norm_num), ← Double.two_zpow_succ]
      exact range.below

/-- A multiple of the last bit keeps a distance of it from the next power of two. -/
theorem multiple_le {integer : ℤ} (multiple : (scaled : ℚ) = integer * unitAt scaled.log2) :
    (scaled : ℚ) + unitAt scaled.log2 ≤ 2 ^ ((scaled.log2 : ℤ) + 1) := by
  have below := (hasLog_scaled (pos_of_large large)).below
  have top : (2 : ℚ) ^ ((scaled.log2 : ℤ) + 1) = ((2 ^ 53 : ℤ) : ℚ) * unitAt scaled.log2 := by
    rw [Double.two_zpow_succ, mul_comm]
    norm_num
  rw [top, multiple] at below ⊢
  exact Double.add_unit_le (Double.unitAt_pos _) below

omit large in
/-- A multiple above the power of two below it keeps that distance from it, too. -/
theorem le_multiple {integer : ℤ} (multiple : (scaled : ℚ) = integer * unitAt scaled.log2)
    (above : (2 : ℚ) ^ (scaled.log2 : ℤ) < scaled) :
    (2 : ℚ) ^ (scaled.log2 : ℤ) + unitAt scaled.log2 ≤ scaled := by
  have bottom : (2 : ℚ) ^ (scaled.log2 : ℤ) = ((2 ^ 52 : ℤ) : ℚ) * unitAt scaled.log2 := by
    have top := Double.two_zpow_succ scaled.log2
    rw [zpow_add_one₀ (by norm_num)] at top
    push_cast
    linarith
  generalize named : unitAt (scaled.log2 : ℤ) = unit at multiple bottom ⊢
  have positive : 0 < unit := named ▸ Double.unitAt_pos _
  rw [bottom, multiple] at above ⊢
  exact Double.add_unit_le positive above

/-- In the range of the scaled value, it is rounded to it when it is missed by half of a bit. -/
theorem roundAt_scaled_iff :
    roundAt scaled.log2 (scaled + scaledMiss scaled) = ((scaled : ℤ) : ℚ) ↔
      HalfBitMissed scaled := by
  have unit := lastBit_eq large
  have positive := Double.unitAt_pos scaled.log2
  have moved : ∀ integer : ℤ, (scaled : ℚ) = integer * unitAt scaled.log2 →
      (scaled + scaledMiss scaled : ℚ) - integer * unitAt scaled.log2 = scaledMiss scaled := by
    intro integer multiple
    rw [← multiple]
    ring
  constructor
  · intro rounded
    -- What is rounded to is a multiple of the last bit.
    have multiple : (scaled : ℚ) = Double.roundEven ((scaled + scaledMiss scaled) /
        unitAt scaled.log2) * unitAt scaled.log2 := by
      rw [← roundAt, rounded]
      push_cast
      rfl
    generalize named : Double.roundEven ((scaled + scaledMiss scaled) / unitAt scaled.log2) =
      integer at multiple
    have close := (Double.roundAt_eq_iff scaled.log2 integer (scaled + scaledMiss scaled)).mp
      (by rw [roundAt, named])
    rw [moved integer multiple, ← unit] at close
    have nonneg : 0 ≤ integer := by
      by_contra negative
      have cast : (integer : ℚ) < 0 := by exact_mod_cast not_le.mp negative
      have less := mul_neg_of_neg_of_pos cast positive
      have count : (0 : ℚ) ≤ scaled := by positivity
      linarith
    obtain ⟨bits, rfl⟩ := Int.eq_ofNat_of_zero_le nonneg
    refine ⟨bits, ?_, close.imp_right fun tie => ⟨tie.1, by omega⟩⟩
    rw [← unit] at multiple
    exact_mod_cast multiple
  · rintro ⟨bits, multiple, close⟩
    have cast : (scaled : ℚ) = ((bits : ℤ) : ℚ) * unitAt scaled.log2 := by
      rw [← unit]
      exact_mod_cast multiple
    have rounded := Double.roundAt_eq_iff scaled.log2 bits (scaled + scaledMiss scaled)
    rw [moved bits cast, ← cast, ← unit] at rounded
    rw [Int.cast_natCast, rounded]
    exact close.imp_right fun tie => ⟨tie.1, by omega⟩

/-- A double missed by half a bit is a multiple of the last one. -/
theorem HalfBitMissed.multiple (missed : HalfBitMissed scaled) :
    ∃ integer : ℤ, (scaled : ℚ) = integer * unitAt scaled.log2 := by
  obtain ⟨count, multiple, -⟩ := missed
  refine ⟨count, ?_⟩
  rw [← lastBit_eq large]
  exact_mod_cast multiple

/-- Past the next power of two, nothing is rounded to the scaled value. -/
theorem scaledDouble_past (small : scaled.log2 < 1024)
    (past : (2 : ℚ) ^ ((scaled.log2 : ℤ) + 1) ≤ scaled + scaledMiss scaled) :
    scaledDouble scaled ≠ .ok scaled ∧ ¬HalfBitMissed scaled := by
  have bits : 52 ≤ scaled.log2 := (Nat.le_log2 (by omega)).mpr large
  have missed := abs_lt.mp (abs_scaledMiss_lt large)
  rw [lastBit_eq large] at missed
  -- A multiple of the last bit would be missed by more than it.
  have apart : ∀ integer : ℤ, (scaled : ℚ) ≠ integer * unitAt scaled.log2 := by
    intro integer multiple
    have bound := multiple_le large multiple
    linarith
  refine ⟨fun converted => ?_, fun half => ?_⟩
  · have next : HasLog (scaled + scaledMiss scaled) (scaled.log2 + 1) := by
      refine ⟨past, ?_⟩
      have below := (hasLog_scaled (pos_of_large large)).below
      have positive := Double.unitAt_pos scaled.log2
      rw [zpow_add_one₀ (by norm_num)]
      rw [Double.two_zpow_succ] at below past ⊢
      linarith
    rw [scaledDouble_eq (by omega) small, next.round_ofRat_iff (by omega)] at converted
    -- There the last bit weighs twice as much, so what is rounded to is such a multiple.
    refine apart (2 * Double.roundEven ((scaled + scaledMiss scaled) /
      unitAt (scaled.log2 + 1))) ?_
    have rounded := converted.1
    rw [roundAt, Double.unitAt_succ, Int.cast_natCast] at rounded
    rw [Double.unitAt_succ]
    push_cast
    linarith
  · obtain ⟨integer, multiple⟩ := half.multiple large
    exact apart integer multiple

/-- Nor is it below the power of two before it. -/
theorem scaledDouble_below (small : scaled.log2 < 1024)
    (below : (scaled + scaledMiss scaled : ℚ) < 2 ^ (scaled.log2 : ℤ)) :
    scaledDouble scaled ≠ .ok scaled ∧ ¬HalfBitMissed scaled := by
  have above := (hasLog_scaled (pos_of_large large)).above
  have missed := abs_lt.mp (abs_scaledMiss_lt large)
  rw [lastBit_eq large] at missed
  -- A power of two is not missed below, so the scaled value is above one.
  have different : (2 : ℚ) ^ (scaled.log2 : ℤ) ≠ scaled := by
    intro same
    have power : 2 ^ scaled.log2 = scaled := by exact_mod_cast same
    have above := scaledMiss_two_pow scaled.log2
    rw [power] at above
    linarith
  have past := lt_of_le_of_ne above different
  refine ⟨fun converted => ?_, fun half => ?_⟩
  · have positive : (1 : ℚ) ≤ scaled + scaledMiss scaled := by
      have few := abs_le.mp (abs_scaledMiss_le (pos_of_large large))
      have many : (2 : ℚ) ^ 52 ≤ scaled := by exact_mod_cast large
      linarith
    have pos : (0 : ℚ) < scaled + scaledMiss scaled := by linarith
    have range := Double.hasLog_log pos
    have normal : 0 ≤ Int.log 2 (scaled + scaledMiss scaled) := by
      rw [← Int.zpow_le_iff_le_log (by norm_num) pos]
      norm_num
      exact positive
    have less : Int.log 2 (scaled + scaledMiss scaled) < scaled.log2 := by
      rw [← Int.lt_zpow_iff_log_lt (by norm_num) pos]
      exact_mod_cast below
    rw [scaledDouble_eq (by omega) small, range.ofRat_eq_roundAt (by omega) (by omega),
      Double.round_toBigInt, Except.ok.injEq, Int.floor_eq_iff] at converted
    -- What is rounded to is the power of two at most, and the scaled value one more at least.
    have rounded : roundAt (Int.log 2 (scaled + scaledMiss scaled)) (scaled + scaledMiss scaled) ≤
        2 ^ (scaled.log2 : ℤ) :=
      range.roundAt_le.trans (zpow_le_zpow_right₀ (by norm_num) (by omega))
    have next : (2 : ℚ) ^ (scaled.log2 : ℤ) + 1 ≤ scaled := by
      have cast : 2 ^ scaled.log2 < scaled := by exact_mod_cast past
      exact_mod_cast cast
    have reached := converted.1
    rw [Int.cast_natCast] at reached
    linarith
  · obtain ⟨integer, multiple⟩ := half.multiple large
    have bound := le_multiple multiple past
    linarith

/-- With more bits, the double is rounded to the scaled value when it misses it by half a bit. -/
theorem scaledDouble_high_iff (small : scaled.log2 < 1024) :
    scaledDouble scaled = .ok scaled ↔ HalfBitMissed scaled := by
  have bits : 52 ≤ scaled.log2 := (Nat.le_log2 (by omega)).mpr large
  rcases lt_or_ge ((scaled : ℚ) + scaledMiss scaled) (2 ^ (scaled.log2 : ℤ)) with below | above
  · obtain ⟨apart, missed⟩ := scaledDouble_below large small below
    exact iff_of_false apart missed
  rcases le_or_gt ((2 : ℚ) ^ ((scaled.log2 : ℤ) + 1)) (scaled + scaledMiss scaled) with past | inside
  · obtain ⟨apart, missed⟩ := scaledDouble_past large small past
    exact iff_of_false apart missed
  -- In the range of the scaled value it is rounded with the same last bit.
  have middle : HasLog (scaled + scaledMiss scaled) scaled.log2 := ⟨above, inside⟩
  have finite : |((scaled : ℤ) : ℚ)| < 2 ^ (1024 : ℤ) := by
    rw [abs_of_nonneg (by positivity), Int.cast_natCast]
    exact scaled_lt (by omega) small
  rw [scaledDouble_eq (by omega) small, middle.round_ofRat_iff (by exact_mod_cast bits),
    roundAt_scaled_iff large]
  exact and_iff_left finite

end High

/-- No scaled value past the largest double is reached. -/
theorem scaledDouble_huge (positive : 0 < scaled) (huge : 1024 ≤ scaled.log2) :
    scaledDouble scaled ≠ .ok scaled := by
  have pos : (0 : ℚ) < scaled / 10 ^ 18 := by positivity
  have range := Double.hasLog_log pos
  have normal : -1022 ≤ Int.log 2 ((scaled : ℚ) / 10 ^ 18) := by
    rw [← Int.zpow_le_iff_le_log (by norm_num) pos]
    exact_mod_cast normal_scaled positive
  have large : (2 : ℚ) ^ (1024 : ℤ) ≤ scaled :=
    (zpow_le_zpow_right₀ (by norm_num) (by omega)).trans (hasLog_scaled positive).above
  unfold scaledDouble
  rw [range.ofRat_eq normal, ← nearest]
  split
  · -- What is scaled is large enough to be an integer, and as a double it is smaller.
    intro converted
    have missed := abs_le.mp (abs_scaledMiss_le positive)
    -- The miss is at most a fraction of the amount, so that the sum is still large.
    have many : (2 : ℚ) ^ (52 : ℤ) ≤ scaled + scaledMiss scaled := by
      have few : (2 : ℚ) ^ (53 : ℤ) ≤ 2 ^ (1024 : ℤ) :=
        zpow_le_zpow_right₀ (by norm_num) (by norm_num)
      have half : (scaled : ℚ) / 2 ^ 53 ≤ scaled / 2 :=
        div_le_div_of_nonneg_left (by positivity) (by norm_num) (by norm_num)
      have enough : (2 : ℚ) ^ 53 ≤ scaled := by exact_mod_cast few.trans large
      have power : (2 : ℚ) ^ (52 : ℤ) = 2 ^ 52 := by norm_num
      rw [power]
      linarith only [missed.1, half, enough]
    have sum : (0 : ℚ) < scaled + scaledMiss scaled :=
      (zpow_pos (by norm_num) _).trans_le many
    have log : 52 ≤ Int.log 2 (scaled + scaledMiss scaled) := by
      rw [← Int.zpow_le_iff_le_log (by norm_num) sum]
      exact_mod_cast many
    rw [Double.mul, nearest_mul, (Double.hasLog_log sum).round_ofRat_iff log] at converted
    have small := converted.2
    rw [abs_of_nonneg (by positivity), Int.cast_natCast] at small
    exact absurd large (not_le.mpr small)
  · -- An infinite quotient is not converted at all.
    intro converted
    simp [Double.mul, Double.round, Double.toBigInt] at converted

/-- A decimal is scaled exactly with doubles when its double is close enough. -/
theorem scaledDouble_iff (scaled : ℕ) :
    scaledDouble scaled = .ok scaled ↔ ScalesExactly scaled := by
  unfold ScalesExactly
  rcases Nat.eq_zero_or_pos scaled with rfl | positive
  · refine iff_of_true ?_ (Or.inl (by norm_num))
    norm_num [scaledDouble, Double.ofRat, Double.mul, Double.round, Double.toBigInt]
  rcases lt_or_ge scaled (2 ^ 51) with low | notLow
  · exact iff_of_true (scaledDouble_low positive low) (Or.inl low)
  rcases lt_or_ge scaled (2 ^ 52) with mid | high
  · rw [scaledDouble_mid_iff notLow mid]
    constructor
    · exact fun near => Or.inr (Or.inl ⟨mid, near⟩)
    · rintro (low | ⟨-, near⟩ | ⟨high, -⟩)
      · omega
      · exact near
      · omega
  -- The other two bounds are on smaller values.
  have only : ∀ missed : Prop, (scaled < 2 ^ 51 ∨ (scaled < 2 ^ 52 ∧ scaledMiss scaled ≤ 1 / 4) ∨
      (2 ^ 52 ≤ scaled ∧ missed)) ↔ missed := by
    intro missed
    constructor
    · rintro (low | ⟨mid, -⟩ | ⟨-, found⟩)
      · omega
      · omega
      · exact found
    · exact fun found => Or.inr (Or.inr ⟨high, found⟩)
  rw [only]
  rcases lt_or_ge scaled.log2 1024 with small | huge
  · rw [scaledDouble_high_iff high small]
    exact (and_iff_right small).symm
  · exact iff_of_false (scaledDouble_huge positive huge) fun found =>
      absurd found.1 (not_lt.mpr huge)

end Scaling

namespace DecimalText

/-- A coin with a decimal amount is parsed into the scaled decimal. -/
def ParsedScaled (dec : DecimalText) (denom : String) : Prop :=
  ∃ amount, cosmosDecimalToBigInt dec.text = .ok amount ∧
    ∀ convert : String → Int, convert dec.text = amount →
      parseCoins convert (dec.text ++ denom) = .ok [⟨toString dec.scaled, denom⟩]

/-- Both ways of scaling a decimal give the numeral of its scaled value. -/
structure ScalingsAgree (dec : DecimalText) (denom : String) : Prop where
  onDigits : decToScaledInt dec.text = toString dec.scaled
  throughDoubles : dec.frac ≠ none → dec.ParsedScaled denom

variable {dec : DecimalText}

/-- A decimal with a point is converted as its scaled value is. -/
theorem cosmosDecimalToBigInt_text (pointed : dec.frac ≠ none) :
    cosmosDecimalToBigInt dec.text = scaledDouble dec.scaled := by
  have value : (dec.scaled : ℚ) / 10 ^ 18 = dec.value := by
    rw [scaled_eq, mul_div_cancel_right₀ _ (by norm_num)]
  rw [scaledDouble, value, cosmosDecimalToBigInt, ofText_text pointed]

/-- What is parsed is the scaled decimal when what is converted is. -/
theorem parsedScaled_iff (pointed : dec.frac ≠ none) {denom : String}
    (valid : isDenom denom.toList = true) :
    dec.ParsedScaled denom ↔ scaledDouble dec.scaled = .ok dec.scaled := by
  unfold ParsedScaled
  rw [cosmosDecimalToBigInt_text pointed]
  constructor
  · rintro ⟨amount, converted, parsed⟩
    have coins := parsed (fun _ => amount) rfl
    rw [parseCoin_text pointed valid] at coins
    -- The texts of two integers differ when the integers do.
    have listed : toString amount = toString dec.scaled := by
      simpa using coins
    have text : toString amount = toString (dec.scaled : Int) := listed
    have same := bigInt_int amount
    rw [text, bigInt_int, Except.ok.injEq] at same
    rw [converted, same]
  · intro converted
    refine ⟨dec.scaled, converted, fun convert told => ?_⟩
    rw [parseCoin_text pointed valid, told]
    rfl

/-- A decimal is always scaled exactly on its digits, and through doubles exactly when it is close
enough to one. -/
theorem scalings_agree_iff (dec : DecimalText) {denom : String}
    (valid : isDenom denom.toList = true) :
    (dec.scaled : ℚ) = dec.value * 10 ^ 18 ∧ decToScaledInt dec.text = toString dec.scaled ∧
      (dec.ScalingsAgree denom ↔ (dec.frac ≠ none → ScalesExactly dec.scaled)) := by
  refine ⟨scaled_eq dec, decToScaledInt_text dec, ?_⟩
  constructor
  · intro agree pointed
    exact (scaledDouble_iff _).mp ((parsedScaled_iff pointed valid).mp
      (agree.throughDoubles pointed))
  · intro exactly
    exact ⟨decToScaledInt_text dec, fun pointed => (parsedScaled_iff pointed valid).mpr
      ((scaledDouble_iff _).mpr (exactly pointed))⟩

/-- Twenty digits of a reward. -/
def reward : DecimalText where
  int := "12"
  frac := some "345678901234567890"
  intDigits := by decide
  fracDigits := by
    intro digits same
    cases same
    exact ⟨List.all_eq_true.mp (by decide), by decide⟩

theorem scalings_agree_iff_reward : isDenom "upokt".toList = true ∧
    (reward.scaled : ℚ) = reward.value * 10 ^ 18 ∧
      decToScaledInt reward.text = toString reward.scaled ∧
      (reward.ScalingsAgree "upokt" ↔ (reward.frac ≠ none → ScalesExactly reward.scaled)) :=
  ⟨by decide, scalings_agree_iff reward (by decide)⟩

/-- Only its first seventeen digits survive the scaling through doubles. -/
theorem scalings_disagree : ¬∀ (dec : DecimalText) (denom : String),
    isDenom denom.toList = true → dec.ScalingsAgree denom := by
  intro agree
  obtain ⟨amount, converted, parsed⟩ :=
    (agree reward "upokt" (by decide)).throughDoubles (by decide)
  have lost : cosmosDecimalToBigInt reward.text = .ok 12345678901234567168 := by decide +kernel
  rw [lost, Except.ok.injEq] at converted
  have coins := parsed (fun _ => amount) rfl
  rw [← converted] at coins
  exact absurd coins (by decide +kernel)

end DecimalText

end Pocketdex
