import Pocketdex.Utils.Double

/-! Where the rounding of doubles ends up: which values are rounded to which double. -/

namespace Pocketdex

namespace Double

/-- The integer a value is rounded to is closest to it, and even if another one is as close. -/
theorem roundEven_close (value : ℚ) : |value - roundEven value| < 1 / 2 ∨
    (|value - roundEven value| = 1 / 2 ∧ roundEven value % 2 = 0) := by
  have above : (⌊value⌋ : ℚ) ≤ value := Int.floor_le value
  have below : value < ⌊value⌋ + 1 := Int.lt_floor_add_one value
  unfold roundEven
  simp only
  split
  · -- The value is past the middle, or in it above an odd integer.
    rename_i up
    push_cast
    rw [abs_of_nonpos (by linarith : value - (⌊value⌋ + 1) ≤ 0)]
    rcases up with past | ⟨tie, odd⟩
    · exact Or.inl (by linarith)
    · exact Or.inr ⟨by linarith, by omega⟩
  · rename_i down
    rw [abs_of_nonneg (by linarith : 0 ≤ value - ⌊value⌋)]
    rcases lt_trichotomy (value - ⌊value⌋) (1 / 2) with before | tie | past
    · exact Or.inl before
    · have even : ¬⌊value⌋ % 2 = 1 := fun odd => down (Or.inr ⟨tie, odd⟩)
      exact Or.inr ⟨tie, by omega⟩
    · exact absurd (Or.inl past) down

/-- A value is rounded to the integer it is closest to, the even one of two. -/
theorem roundEven_eq_iff {value : ℚ} {integer : ℤ} : roundEven value = integer ↔
    |value - integer| < 1 / 2 ∨ (|value - integer| = 1 / 2 ∧ integer % 2 = 0) := by
  constructor
  · intro rounded
    subst rounded
    exact roundEven_close value
  · intro close
    have other := roundEven_close value
    have near : |value - integer| ≤ 1 / 2 := close.elim le_of_lt fun tie => tie.1.le
    have same : |value - roundEven value| ≤ 1 / 2 := other.elim le_of_lt fun tie => tie.1.le
    rw [abs_le] at near same
    -- Two integers this close are the same or next to each other.
    have high : roundEven value - integer ≤ 1 := by
      have cast : ((roundEven value - integer : ℤ) : ℚ) ≤ 1 := by
        push_cast
        linarith
      exact_mod_cast cast
    have low : -1 ≤ roundEven value - integer := by
      have cast : (-1 : ℚ) ≤ ((roundEven value - integer : ℤ) : ℚ) := by
        push_cast
        linarith
      exact_mod_cast cast
    by_contra different
    -- Next to each other both are a half away, and then both are even.
    have apart : (1 : ℚ) ≤ |((roundEven value - integer : ℤ) : ℚ)| := by
      exact_mod_cast Int.one_le_abs (sub_ne_zero.mpr different)
    have sum : |((roundEven value - integer : ℤ) : ℚ)| ≤
        |value - integer| + |value - roundEven value| := by
      push_cast
      rw [abs_sub_comm value (roundEven value)]
      exact (congrArg abs (by ring)).trans_le
        (abs_add_le (value - integer) (roundEven value - value))
    rcases close with less | ⟨-, even⟩ <;> rcases other with fewer | ⟨-, evenToo⟩
    · linarith
    · linarith [abs_le.mpr same]
    · linarith [abs_le.mpr near]
    · omega

/-- An integer is rounded to itself. -/
theorem roundEven_intCast (integer : ℤ) : roundEven integer = integer :=
  roundEven_eq_iff.mpr (Or.inl (by simp))

/-- Rounding to an integer does not depend on the sign. -/
theorem roundEven_neg (value : ℚ) : roundEven (-value) = -roundEven value := by
  rw [roundEven_eq_iff]
  have mirrored : |-value - ((-roundEven value : ℤ) : ℚ)| = |value - roundEven value| := by
    rw [← abs_neg]
    congr 1
    push_cast
    ring
  rw [mirrored]
  exact (roundEven_close value).imp_right fun tie => ⟨tie.1, by omega⟩

/-- The opposite of a double is one. -/
theorem ofRat_neg {value : ℚ} (double : ofRat value = .finite value) :
    ofRat (-value) = .finite (-value) := by
  unfold ofRat at double ⊢
  by_cases zero : value = 0
  · simp [zero]
  rw [if_neg zero] at double
  rw [if_neg (neg_ne_zero.mpr zero), abs_neg]
  simp only [neg_div, roundEven_neg, Int.cast_neg, neg_mul, abs_neg] at double ⊢
  split at double
  · rename_i small
    injection double with same
    rw [if_pos small, same]
  · simp at double

section Scaled

variable {value unit : ℚ}

/-- A value is rounded to a multiple of a unit it is closest to, to the even one of two. -/
theorem roundEven_div_eq_iff (positive : 0 < unit) {integer : ℤ} :
    roundEven (value / unit) = integer ↔ |value - integer * unit| < unit / 2 ∨
      (|value - integer * unit| = unit / 2 ∧ integer % 2 = 0) := by
  have scaled : |value - integer * unit| = |value / unit - integer| * unit := by
    have split : value - integer * unit = (value / unit - integer) * unit := by
      field_simp
    rw [split, abs_mul, abs_of_pos positive]
  have half : unit / 2 = 1 / 2 * unit := by ring
  rw [roundEven_eq_iff, scaled, half, mul_lt_mul_iff_left₀ positive,
    mul_left_inj' positive.ne']

/-- Between two multiples of a unit there is at least one unit. -/
theorem add_unit_le (positive : 0 < unit) {less more : ℤ}
    (smaller : (less : ℚ) * unit < more * unit) : (less : ℚ) * unit + unit ≤ more * unit := by
  rw [mul_lt_mul_iff_left₀ positive] at smaller
  have next : (less : ℚ) + 1 ≤ more := by
    have cast : less < more := by exact_mod_cast smaller
    exact_mod_cast cast
  calc (less : ℚ) * unit + unit = (less + 1) * unit := by ring
    _ ≤ more * unit := mul_le_mul_of_nonneg_right next positive.le

end Scaled

/-- The weight of the last of fifty-three bits, for a value between two powers of two. -/
def unitAt (log : ℤ) : ℚ := 2 ^ (log - 52)

theorem unitAt_pos (log : ℤ) : 0 < unitAt log := zpow_pos (by norm_num) _

/-- Fifty-three bits fill the range of a logarithm. -/
theorem two_zpow_succ (log : ℤ) : (2 : ℚ) ^ (log + 1) = unitAt log * 2 ^ 53 := by
  rw [unitAt, ← zpow_natCast, ← zpow_add₀ (by norm_num)]
  congr 1
  push_cast
  ring

/-- The last bit weighs twice as much past the next power of two. -/
theorem unitAt_succ (log : ℤ) : unitAt (log + 1) = 2 * unitAt log := by
  rw [unitAt, unitAt, ← zpow_one_add₀ (by norm_num)]
  congr 1
  ring

/-- The multiple of that weight closest to a value. -/
def roundAt (log : ℤ) (value : ℚ) : ℚ := roundEven (value / unitAt log) * unitAt log

/-- A multiple of that weight is what a value is rounded to when it is closest to it. -/
theorem roundAt_eq_iff (log integer : ℤ) (value : ℚ) :
    roundAt log value = integer * unitAt log ↔
      |value - integer * unitAt log| < unitAt log / 2 ∨
        (|value - integer * unitAt log| = unitAt log / 2 ∧ integer % 2 = 0) := by
  rw [roundAt, mul_left_inj' (unitAt_pos log).ne', Int.cast_inj,
    roundEven_div_eq_iff (unitAt_pos log)]

/-- Rounding to fifty-three bits moves a value by a half of the last one at most. -/
theorem abs_roundAt_sub_le (log : ℤ) (value : ℚ) :
    |roundAt log value - value| ≤ unitAt log / 2 := abs_roundEven_mul_sub_le value (unitAt_pos log)

/-- A value is in the range of a binary logarithm. -/
structure HasLog (value : ℚ) (log : ℤ) : Prop where
  above : (2 : ℚ) ^ log ≤ value
  below : value < 2 ^ (log + 1)

/-- A positive value is in the range of its logarithm. -/
theorem hasLog_log {value : ℚ} (positive : 0 < value) : HasLog value (Int.log 2 value) where
  above := by exact_mod_cast Int.zpow_log_le_self (b := 2) (by norm_num) positive
  below := by exact_mod_cast Int.lt_zpow_succ_log_self (b := 2) (by norm_num) value

namespace HasLog

variable {value : ℚ} {log : ℤ}

theorem pos (range : HasLog value log) : 0 < value :=
  lt_of_lt_of_le (zpow_pos (by norm_num) _) range.above

/-- No other range holds the value. -/
theorem log_eq (range : HasLog value log) : Int.log 2 value = log := by
  have positive := range.pos
  apply le_antisymm
  · have less : Int.log 2 value < log + 1 := by
      rw [← Int.lt_zpow_iff_log_lt (by norm_num) positive]
      exact_mod_cast range.below
    omega
  · rw [← Int.zpow_le_iff_le_log (by norm_num) positive]
    exact_mod_cast range.above

/-- A value that is not too small for fifty-three bits is rounded to that many. -/
theorem ofRat_eq (range : HasLog value log) (normal : -1022 ≤ log) :
    ofRat value = if |roundAt log value| < 2 ^ (1024 : ℤ) then .finite (roundAt log value)
      else .infinity (value < 0) := by
  have positive := range.pos
  have bits : max (Int.log 2 |value| - 52) (-1074) = log - 52 := by
    rw [abs_of_pos positive, range.log_eq]
    exact max_eq_left (by omega)
  unfold ofRat
  rw [if_neg positive.ne']
  simp only [bits]
  rfl

/-- The last bit weighs little beside the value. -/
theorem unitAt_le (range : HasLog value log) : unitAt log ≤ value / 2 ^ 52 := by
  have split : unitAt log = 2 ^ log / 2 ^ 52 := by
    rw [unitAt, zpow_sub₀ (by norm_num)]
    norm_cast
  rw [split]
  exact div_le_div_of_nonneg_right range.above (by positivity)

end HasLog

/-- The value of fifty-three bits closest to a value. -/
def nearest (value : ℚ) : ℚ := roundAt (Int.log 2 value) value

/-- It is off by no more than half of the last of them. -/
theorem abs_nearest_sub_le {value : ℚ} (positive : 0 < value) :
    |nearest value - value| ≤ value / 2 ^ 53 := by
  have moved := abs_roundAt_sub_le (Int.log 2 value) value
  have small := (hasLog_log positive).unitAt_le
  calc |nearest value - value| ≤ unitAt (Int.log 2 value) / 2 := moved
    _ ≤ value / 2 ^ 52 / 2 := by linarith
    _ = value / 2 ^ 53 := by ring

/-- A value that is neither too small nor too large is rounded to it. -/
theorem ofRat_eq_nearest {value : ℚ} (normal : (2 : ℚ) ^ (-1022 : ℤ) ≤ value)
    (small : value < 2 ^ (1023 : ℤ)) : ofRat value = .finite (nearest value) := by
  have positive : 0 < value := lt_of_lt_of_le (zpow_pos (by norm_num) _) normal
  have log : -1022 ≤ Int.log 2 value := by
    rw [← Int.zpow_le_iff_le_log (by norm_num) positive]
    exact_mod_cast normal
  rw [(hasLog_log positive).ofRat_eq log, if_pos]
  · rfl
  -- What is rounded stays below twice the value.
  obtain ⟨low, high⟩ := abs_le.mp (abs_nearest_sub_le positive)
  have half : value / 2 ^ 53 ≤ value := div_le_self positive.le (by norm_num)
  have twice : (2 : ℚ) ^ (1024 : ℤ) = 2 ^ (1023 : ℤ) * 2 := by
    rw [← zpow_add_one₀ (by norm_num)]
    norm_num
  rw [abs_lt, twice]
  change -(_) < nearest value ∧ nearest value < _
  generalize (2 : ℚ) ^ (1023 : ℤ) = power at small ⊢
  constructor <;> linarith

/-- Rounding a double to an integer and converting it does not throw. -/
theorem round_toBigInt (value : ℚ) :
    ((Double.finite value).round).toBigInt = .ok ⌊value + 1 / 2⌋ := by
  rw [round, toBigInt, if_pos (Rat.den_intCast _), Rat.num_intCast]

namespace HasLog

variable {value : ℚ} {log : ℤ}

/-- A value in a range is rounded with the last bit of that range. -/
theorem ofRat_eq_roundAt (range : HasLog value log) (normal : -1022 ≤ log) (small : log < 1023) :
    ofRat value = .finite (roundAt log value) := by
  have low : (2 : ℚ) ^ (-1022 : ℤ) ≤ value :=
    (zpow_le_zpow_right₀ (by norm_num) normal).trans range.above
  have high : value < 2 ^ (1023 : ℤ) :=
    range.below.trans_le (zpow_le_zpow_right₀ (by norm_num) (by omega))
  rw [ofRat_eq_nearest low high, nearest, range.log_eq]

/-- Rounding does not leave the range, but for its end. -/
theorem roundAt_le (range : HasLog value log) : roundAt log value ≤ 2 ^ (log + 1) := by
  have less : value / unitAt log < 2 ^ 53 := by
    rw [div_lt_iff₀' (unitAt_pos log), ← two_zpow_succ]
    exact range.below
  -- The end of the range has fifty-three bits itself.
  have close := abs_le.mp (abs_roundEven_sub_le (value / unitAt log))
  have bound : roundEven (value / unitAt log) ≤ 2 ^ 53 := by
    have cast : (roundEven (value / unitAt log) : ℚ) < 2 ^ 53 + 1 := by linarith
    exact Int.lt_add_one_iff.mp (by exact_mod_cast cast)
  have cast : (roundEven (value / unitAt log) : ℚ) ≤ 2 ^ 53 := by exact_mod_cast bound
  rw [two_zpow_succ, roundAt, mul_comm]
  exact mul_le_mul_of_nonneg_left cast (unitAt_pos log).le

/-- A value of more than fifty-two bits is rounded to an integer. -/
theorem exists_roundAt_eq (large : 52 ≤ log) (value : ℚ) :
    ∃ integer : ℤ, roundAt log value = integer := by
  obtain ⟨zeros, rfl⟩ := Int.le.dest large
  refine ⟨roundEven (value / unitAt (52 + zeros)) * 2 ^ zeros, ?_⟩
  rw [roundAt, unitAt, add_sub_cancel_left, zpow_natCast]
  push_cast
  rfl

/-- So it is converted to an integer when it is rounded to that one, and no overflow. -/
theorem round_ofRat_iff (range : HasLog value log) (large : 52 ≤ log) {integer : ℤ} :
    (ofRat value).round.toBigInt = .ok integer ↔
      roundAt log value = integer ∧ |(integer : ℚ)| < 2 ^ (1024 : ℤ) := by
  obtain ⟨rounded, found⟩ := exists_roundAt_eq large value
  -- Nothing is left to round after the double is an integer.
  have floored : ⌊(rounded : ℚ) + 1 / 2⌋ = rounded := by
    rw [Int.floor_eq_iff]
    constructor <;> linarith
  rw [range.ofRat_eq (by omega), found]
  split
  · rename_i small
    rw [round_toBigInt, floored, Except.ok.injEq, Int.cast_inj]
    constructor
    · rintro rfl
      exact ⟨rfl, small⟩
    · exact And.left
  · rename_i overflow
    constructor
    · intro converted
      simp [round, toBigInt] at converted
    · rintro ⟨same, small⟩
      rw [Int.cast_inj] at same
      exact absurd (same ▸ small) overflow

end HasLog

section Close

/-- The weight of the last bit of a double, however small the double is. -/
def lastBitAt (log : ℤ) : ℚ := 2 ^ max (log - 52) (-1074)

theorem lastBitAt_pos (log : ℤ) : 0 < lastBitAt log := zpow_pos (by norm_num) _

/-- A power of two is a multiple of the last bit of any smaller double. -/
theorem two_zpow_multiple (power log : ℤ) (tiny : -1074 ≤ power) (below : log - 52 ≤ power) :
    ∃ count : ℤ, (2 : ℚ) ^ power = count * lastBitAt log := by
  have fits : max (log - 52) (-1074) ≤ power := max_le below tiny
  obtain ⟨zeros, same⟩ := Int.le.dest fits
  refine ⟨2 ^ zeros, ?_⟩
  rw [lastBitAt, ← same]
  push_cast
  rw [zpow_add₀ (by norm_num), zpow_natCast, mul_comm]

/-- A small part of a value is less than half of its last bit. -/
theorem two_zpow_le_half (log : ℤ) : (2 : ℚ) ^ (log - 53) ≤ lastBitAt log / 2 := by
  rw [lastBitAt, div_eq_mul_inv, ← zpow_sub_one₀ (by norm_num)]
  exact zpow_le_zpow_right₀ (by norm_num) (by omega)

namespace HasLog

variable {value : ℚ} {log : ℤ}

/-- What is near a multiple of its last bit is rounded to it. -/
theorem ofRat_of_multiple (range : HasLog value log) {count : ℤ}
    (near : |value - count * lastBitAt log| < lastBitAt log / 2)
    (small : |count * lastBitAt log| < 2 ^ (1024 : ℤ)) :
    ofRat value = .finite (count * lastBitAt log) := by
  have positive := range.pos
  have rounded : roundEven (value / lastBitAt log) = count :=
    (roundEven_div_eq_iff (lastBitAt_pos log)).mpr (Or.inl near)
  have bits : (2 : ℚ) ^ max (Int.log 2 |value| - 52) (-1074) = lastBitAt log := by
    rw [abs_of_pos positive, range.log_eq]
    rfl
  unfold ofRat
  rw [if_neg positive.ne']
  simp only [bits, rounded, small, if_true]

end HasLog

/-- A double is a multiple of its last bit, and no overflow. -/
theorem exists_multiple {value : ℚ} (positive : 0 < value) (double : ofRat value = .finite value) :
    (∃ count : ℤ, value = count * lastBitAt (Int.log 2 value)) ∧ value < 2 ^ (1024 : ℤ) := by
  unfold ofRat at double
  rw [if_neg positive.ne', abs_of_pos positive] at double
  simp only at double
  split at double
  · rename_i small
    injection double with same
    rw [same, abs_of_pos positive] at small
    exact ⟨⟨_, same.symm⟩, small⟩
  · simp at double

/-- What is close to a double is rounded to it. -/
theorem ofRat_of_close {value double : ℚ} (positive : 0 < double)
    (exactly : ofRat double = .finite double) (close : |value - double| < double / 2 ^ 54) :
    ofRat value = .finite double := by
  obtain ⟨⟨count, multiple⟩, small⟩ := exists_multiple positive exactly
  have range := hasLog_log positive
  generalize Int.log 2 double = log at multiple range
  have bit := lastBitAt_pos log
  have half := two_zpow_le_half log
  obtain ⟨low, high⟩ := abs_lt.mp close
  have absSmall : |double| < 2 ^ (1024 : ℤ) := by rwa [abs_of_pos positive]
  -- The distance is less than half of the last bit.
  have part : double / 2 ^ 54 < 2 ^ (log - 53) := by
    have power : (2 : ℚ) ^ (log - 53) * 2 ^ 54 = 2 ^ (log + 1) := by
      rw [← zpow_natCast, ← zpow_add₀ (by norm_num)]
      congr 1
      push_cast
      omega
    rw [div_lt_iff₀ (by norm_num), power]
    exact range.below
  have tiny : -1074 ≤ log := by
    have one : 1 ≤ count := by
      by_contra none
      have cast : (count : ℚ) ≤ 0 := by exact_mod_cast Int.not_lt.mp fun more => none more
      have nonpos := mul_nonpos_of_nonpos_of_nonneg cast bit.le
      linarith
    have least : (2 : ℚ) ^ (-1074 : ℤ) ≤ double := by
      have cast : (1 : ℚ) ≤ count := by exact_mod_cast one
      calc (2 : ℚ) ^ (-1074 : ℤ) ≤ lastBitAt log :=
            zpow_le_zpow_right₀ (by norm_num) (le_max_right _ _)
        _ ≤ count * lastBitAt log := le_mul_of_one_le_left bit.le cast
        _ = double := multiple.symm
    rw [← range.log_eq, ← Int.zpow_le_iff_le_log (by norm_num) positive]
    exact_mod_cast least
  have below : value < 2 ^ (log + 1) := by
    obtain ⟨top, finish⟩ := two_zpow_multiple (log + 1) log (by omega) (by omega)
    have bound := range.below
    rw [multiple, finish] at bound
    have room := add_unit_le bit bound
    rw [← multiple, ← finish] at room
    linarith
  rcases le_or_gt ((2 : ℚ) ^ log) value with inside | outside
  · -- The value has the logarithm of the double, and the same last bit.
    have same : HasLog value log := ⟨inside, below⟩
    rw [multiple] at close absSmall ⊢
    refine same.ofRat_of_multiple ?_ absSmall
    rw [← multiple] at close ⊢
    linarith
  · -- The value is below a power of two only if the double is that power.
    obtain ⟨bottom, start⟩ := two_zpow_multiple log log tiny (by omega)
    have power : double = 2 ^ log := by
      refine le_antisymm ?_ range.above
      by_contra more
      have bound := not_le.mp more
      rw [multiple, start] at bound
      have room := add_unit_le bit bound
      rw [← multiple, ← start] at room
      linarith
    have before : HasLog value (log - 1) := by
      refine ⟨?_, by rwa [sub_add_cancel]⟩
      rw [zpow_sub_one₀ (by norm_num), ← power]
      linarith
    obtain ⟨finer, split⟩ := two_zpow_multiple log (log - 1) tiny (by omega)
    have finerHalf := two_zpow_le_half (log - 1)
    have finerPart : double / 2 ^ 54 = 2 ^ (log - 1 - 53) := by
      rw [power, div_eq_iff (by norm_num), ← zpow_natCast, ← zpow_add₀ (by norm_num)]
      congr 1
      push_cast
      omega
    rw [power, split] at close absSmall ⊢
    refine before.ofRat_of_multiple ?_ absSmall
    rw [← split, ← power] at close ⊢
    linarith

end Close

end Double

end Pocketdex
