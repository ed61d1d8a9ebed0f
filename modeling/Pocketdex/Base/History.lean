import Pocketdex.Base.Versions

/-! What later writes leave of the versions that queries over earlier heights read. -/

namespace Pocketdex

/-- `&&` of two ranges, each of which is empty unless it ends after it begins. -/
def BlockRange.overlaps (range other : BlockRange) : Bool :=
  range.upper.all (range.lower < ·) && other.upper.all (other.lower < ·) &&
    other.upper.all (range.lower < ·) && range.upper.all (other.lower < ·)

/-- Ranges overlap just when they share a height. -/
theorem BlockRange.overlaps_iff {range other : BlockRange} :
    range.overlaps other = true ↔
      ∃ height, range.contains height = true ∧ other.contains height = true := by
  obtain ⟨lower, upper⟩ := range
  obtain ⟨otherLower, otherUpper⟩ := other
  simp only [overlaps, contains, Bool.and_eq_true, decide_eq_true_eq]
  constructor
  · -- The later of the two beginnings is a height of both.
    rintro ⟨⟨⟨own, others⟩, first⟩, second⟩
    refine ⟨max lower otherLower, ⟨Nat.le_max_left .., ?_⟩, Nat.le_max_right .., ?_⟩
    · cases upper with
      | none => rfl
      | some upper =>
        simp only [Option.all_some, decide_eq_true_eq] at own second ⊢
        omega
    · cases otherUpper with
      | none => rfl
      | some upper =>
        simp only [Option.all_some, decide_eq_true_eq] at others first ⊢
        omega
  · rintro ⟨height, ⟨begun, before⟩, also, until_⟩
    cases upper <;> cases otherUpper <;>
      simp only [Option.all_none, Option.all_some, decide_eq_true_eq, and_true, true_and] at * <;>
      omega

section

variable {ρ : Type}

/-- A later state of a table shows the heights up to one as an earlier state does. -/
def Extends (height : ℕ) (rows after : List (Row ρ)) : Prop :=
  ∃ (edit : Row ρ → Row ρ) (added : List (Row ρ)), after = rows.map edit ++ added ∧
    (∀ row ∈ rows, (edit row).data = row.data ∧
      ∀ past ≤ height, (edit row).openAt past = row.openAt past) ∧
    ∀ row ∈ added, ∀ past ≤ height, row.openAt past = false

variable {height next : ℕ} {rows after : List (Row ρ)}

namespace Extends

/-- What is shown after a second write was shown before the first. -/
theorem trans {last : List (Row ρ)} (first : Extends height rows after)
    (second : Extends height after last) : Extends height rows last := by
  obtain ⟨edit, added, rfl, kept, hidden⟩ := first
  obtain ⟨again, more, rfl, stays, unseen⟩ := second
  refine ⟨again ∘ edit, added.map again ++ more, by simp, fun row member => ?_, fun row member => ?_⟩
  · obtain ⟨data, visible⟩ := stays (edit row) (by simp [List.mem_map_of_mem member])
    exact ⟨data.trans (kept row member).1,
      fun past early => (visible past early).trans ((kept row member).2 past early)⟩
  · rcases List.mem_append.mp member with old | new
    · obtain ⟨before, inside, rfl⟩ := List.mem_map.mp old
      intro past early
      rw [(stays before (List.mem_append_right _ inside)).2 past early, hidden before inside past early]
    · exact unseen row new

/-- Closing versions changes nothing about the heights before. -/
theorem close (written : Begun height rows) (later : height < next) (selects : ρ → Bool) :
    Extends height rows (closeWhere selects next rows) := by
  refine ⟨_, [], (List.append_nil _).symm, fun row member => ⟨by split <;> rfl, ?_⟩, by simp⟩
  intro past early
  split
  · rename_i closed
    -- A version that is still visible later has not ended yet.
    have visible := (Bool.and_eq_true_iff.mp closed).2
    cases upper : row.blockRange.upper with
    | none =>
      have before := Nat.lt_of_le_of_lt early later
      simp only [Row.openAt, Row.close, BlockRange.contains, upper, Option.all_some, before,
        decide_true, Option.all_none]
      rfl
    | some ended =>
      have past := written.ended row member ended upper
      simp only [Row.openAt, BlockRange.contains, upper, Option.all_some, Bool.and_eq_true,
        decide_eq_true_eq] at visible
      omega
  · rfl

/-- Nor does opening versions. -/
theorem insert (later : height < next) (docs : List ρ) :
    Extends height rows (rows ++ docs.map (Row.fresh next)) := by
  refine ⟨id, docs.map (Row.fresh next), by simp, by simp, fun row member past early => ?_⟩
  obtain ⟨doc, -, rfl⟩ := List.mem_map.mp member
  have before : ¬next ≤ past := Nat.not_le.mpr (Nat.lt_of_le_of_lt early later)
  simp [Row.openAt, Row.fresh, BlockRange.contains, before]

/-- The data that are visible at an earlier height stay the same, in their order. -/
theorem visible (extended : Extends height rows after) {past : ℕ} (early : past ≤ height) :
    (after.filter fun row => row.openAt past).map Row.data =
      (rows.filter fun row => row.openAt past).map Row.data := by
  obtain ⟨edit, added, rfl, kept, hidden⟩ := extended
  -- What was added is not visible at a height of the past.
  have none : (added.filter fun row => row.openAt past) = [] :=
    List.filter_eq_nil_iff.mpr fun row member => by simp [hidden row member past early]
  rw [List.filter_append, none, List.append_nil]
  clear none hidden
  induction rows with
  | nil => rfl
  | cons row rest ih =>
    obtain ⟨data, same⟩ := kept row List.mem_cons_self
    have later := ih fun other member => kept other (List.mem_cons_of_mem _ member)
    rw [List.map_cons, List.filter_cons, List.filter_cons, same past early]
    split
    · rw [List.map_cons, List.map_cons, data, later]
    · exact later

/-- So does what is made of those that are chosen by their data. -/
theorem flatMap_visible {γ : Type} (extended : Extends height rows after) {past : ℕ}
    (early : past ≤ height) (chosen : ρ → Bool) (make : ρ → List γ) :
    (after.filter fun row => chosen row.data && row.openAt past).flatMap
        (fun row => make row.data) =
      (rows.filter fun row => chosen row.data && row.openAt past).flatMap
        fun row => make row.data := by
  have listed : ∀ versions : List (Row ρ),
      (versions.filter fun row => chosen row.data && row.openAt past).flatMap
        (fun row => make row.data) =
      (((versions.filter fun row => row.openAt past).map Row.data).filter chosen).flatMap make := by
    intro versions
    rw [List.filter_map, List.flatMap_map, List.filter_filter]
    rfl
  rw [listed after, listed rows, extended.visible early]

/-- A record is visible at an earlier height just when it was. -/
theorem exists_iff (extended : Extends height rows after) {past : ℕ} (early : past ≤ height)
    (chosen : ρ → Prop) :
    (∃ row ∈ after, row.openAt past = true ∧ chosen row.data) ↔
      ∃ row ∈ rows, row.openAt past = true ∧ chosen row.data := by
  have listed : ∀ versions : List (Row ρ), (∃ row ∈ versions, row.openAt past = true ∧
      chosen row.data) ↔ ∃ data ∈ (versions.filter fun row => row.openAt past).map Row.data,
        chosen data := by
    intro versions
    simp only [List.mem_map, List.mem_filter]
    constructor
    · rintro ⟨row, inside, shown, holds⟩
      exact ⟨row.data, ⟨row, ⟨inside, shown⟩, rfl⟩, holds⟩
    · rintro ⟨_, ⟨row, ⟨inside, shown⟩, rfl⟩, holds⟩
      exact ⟨row, inside, shown, holds⟩
  rw [listed after, listed rows, extended.visible early]

end Extends

end

end Pocketdex
