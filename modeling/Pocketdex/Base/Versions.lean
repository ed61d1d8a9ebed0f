import Mathlib.Data.List.Basic
import Mathlib.Data.Nat.Notation

/-! Row versions that are visible over ranges of heights, and the writes that close and open them. -/

namespace Pocketdex

/-- The heights from which and before which a row version is visible. -/
structure BlockRange where
  lower : ℕ
  upper : Option ℕ
  deriving DecidableEq, Repr

/-- Whether a range covers a height. -/
def BlockRange.contains (range : BlockRange) (height : ℕ) : Bool :=
  range.lower ≤ height && range.upper.all fun upper => height < upper

/-- A stored row version, with the block it belongs to if its table names one. -/
structure Row (ρ : Type) where
  data : ρ
  blockId : Option ℕ
  blockRange : BlockRange
  deriving DecidableEq, Repr

namespace Row

variable {ρ : Type}

/-- Whether a version is visible at a height. -/
def openAt (row : Row ρ) (height : ℕ) : Bool := row.blockRange.contains height

/-- The version once its range ends before a height. -/
def close (height : ℕ) (row : Row ρ) : Row ρ :=
  { row with blockRange := ⟨row.blockRange.lower, some height⟩ }

/-- The version once its range has no end. -/
def reopen (row : Row ρ) : Row ρ := { row with blockRange := ⟨row.blockRange.lower, none⟩ }

/-- A version that begins at a height. -/
def fresh (height : ℕ) (data : ρ) : Row ρ := ⟨data, none, ⟨height, none⟩⟩

@[simp] theorem close_data (height : ℕ) (row : Row ρ) : (row.close height).data = row.data := rfl

@[simp] theorem reopen_data (row : Row ρ) : row.reopen.data = row.data := rfl

@[simp] theorem fresh_data (height : ℕ) (data : ρ) : (fresh height data).data = data := rfl

@[simp] theorem fresh_lower (height : ℕ) (data : ρ) :
    (fresh height data).blockRange.lower = height := rfl

@[simp] theorem close_openAt (height : ℕ) (row : Row ρ) :
    (row.close height).openAt height = false := by
  simp [close, openAt, BlockRange.contains]

@[simp] theorem fresh_openAt (height : ℕ) (data : ρ) : (fresh height data).openAt height = true := by
  simp [fresh, openAt, BlockRange.contains]

/-- Reopening a version that was closed while it had no end gives it back. -/
theorem reopen_close {height : ℕ} {row : Row ρ} (endless : row.blockRange.upper = none) :
    (row.close height).reopen = row := by
  obtain ⟨data, blockId, ⟨lower, upper⟩⟩ := row
  simp only at endless
  subst endless
  rfl

end Row

section Versions

variable {ρ κ : Type} (key : ρ → κ) [DecidableEq κ]

/-- The versions of one id, in the order they were written. -/
def versionsOf (id : κ) (rows : List (Row ρ)) : List (Row ρ) :=
  rows.filter fun row => key row.data = id

/-- The versions of one id that are visible at a height. -/
def openVersions (height : ℕ) (id : κ) (rows : List (Row ρ)) : List (Row ρ) :=
  (versionsOf key id rows).filter fun row => row.openAt height

/-- Closing the visible versions of the selected rows. -/
def closeWhere (selects : ρ → Bool) (height : ℕ) (rows : List (Row ρ)) : List (Row ρ) :=
  rows.map fun row => if selects row.data && row.openAt height then row.close height else row

/-- The stored record under an id, as it is visible at a height. -/
def storeGet (height : ℕ) (id : κ) (rows : List (Row ρ)) : Option ρ :=
  (openVersions key height id rows).head?.map Row.data

/-- Saving a record: its version of this height is replaced, and an older one is closed. -/
def storeSave (height : ℕ) (data : ρ) (rows : List (Row ρ)) : List (Row ρ) :=
  closeWhere (fun other => key other = key data) height
    (rows.filter fun row => !(key row.data = key data && row.blockRange.lower = height)) ++
      [Row.fresh height data]

/-- Saving several records. -/
def storeBulkCreate (height : ℕ) (records : List ρ) (rows : List (Row ρ)) : List (Row ρ) :=
  records.foldl (fun rows data => storeSave key height data rows) rows

variable {key}

/-- The versions of an id in two lists are those of both. -/
@[simp] theorem versionsOf_append (id : κ) (first second : List (Row ρ)) :
    versionsOf key id (first ++ second) = versionsOf key id first ++ versionsOf key id second :=
  List.filter_append ..

/-- The visible versions of an id in two lists are those of both. -/
@[simp] theorem openVersions_append (height : ℕ) (id : κ) (first second : List (Row ρ)) :
    openVersions key height id (first ++ second) =
      openVersions key height id first ++ openVersions key height id second := by
  simp [openVersions]

/-- A visible version is a stored one with its id. -/
theorem mem_openVersions {height : ℕ} {id : κ} {rows : List (Row ρ)} {row : Row ρ} :
    row ∈ openVersions key height id rows ↔
      row ∈ rows ∧ key row.data = id ∧ row.openAt height = true := by
  simp only [openVersions, versionsOf, List.mem_filter, decide_eq_true_eq, and_assoc]

/-- Changing ranges only changes the versions of an id in place. -/
theorem versionsOf_map {edit : Row ρ → Row ρ} (keeps : ∀ row, (edit row).data = row.data) (id : κ)
    (rows : List (Row ρ)) : versionsOf key id (rows.map edit) = (versionsOf key id rows).map edit := by
  simp only [versionsOf, List.filter_map, Function.comp_def, keeps]

/-- Closing versions leaves the ids that are not selected alone. -/
theorem versionsOf_closeWhere {selects : ρ → Bool} {height : ℕ} {id : κ} {rows : List (Row ρ)}
    (other : ∀ data, key data = id → selects data = false) :
    versionsOf key id (closeWhere selects height rows) = versionsOf key id rows := by
  rw [closeWhere, versionsOf_map (fun row => by split <;> rfl)]
  -- A version of this id is not selected, so it stays as it is.
  refine (List.map_congr_left fun row member => ?_).trans (List.map_id _)
  have named : key row.data = id := by simpa [versionsOf] using (List.mem_filter.mp member).2
  rw [other row.data named]
  rfl

/-- After closing, no version of a selected id is visible. -/
theorem openVersions_closeWhere_self {selects : ρ → Bool} {height : ℕ} {id : κ}
    {rows : List (Row ρ)} (chosen : ∀ data, key data = id → selects data = true) :
    openVersions key height id (closeWhere selects height rows) = [] := by
  apply List.eq_nil_iff_forall_not_mem.mpr
  intro closed member
  obtain ⟨inside, named, visible⟩ := mem_openVersions.mp member
  obtain ⟨row, _, rfl⟩ := List.mem_map.mp inside
  split at named
  · -- A visible version was closed.
    rename_i both
    rw [if_pos both, Row.close_openAt] at visible
    exact absurd visible (by decide)
  · rename_i hidden
    rw [if_neg hidden] at visible
    rw [chosen row.data named, visible] at hidden
    exact hidden rfl

/-- Closing versions leaves the visible ones of other ids visible. -/
theorem openVersions_closeWhere {selects : ρ → Bool} {height : ℕ} {id : κ} {rows : List (Row ρ)}
    (other : ∀ data, key data = id → selects data = false) :
    openVersions key height id (closeWhere selects height rows) =
      openVersions key height id rows := by
  simp only [openVersions, versionsOf_closeWhere other]

/-- Saving a record leaves the versions of other ids alone. -/
theorem versionsOf_storeSave_ne {height : ℕ} {id : κ} {data : ρ} {rows : List (Row ρ)}
    (different : key data ≠ id) :
    versionsOf key id (storeSave key height data rows) = versionsOf key id rows := by
  have unselected : ∀ other, key other = id → (fun other => decide (key other = key data)) other =
      false := by
    intro other named
    simp only [decide_eq_false_iff_not]
    exact fun same => different (same.symm.trans named)
  rw [storeSave, versionsOf_append, versionsOf_closeWhere unselected]
  have last : versionsOf key id [Row.fresh height data] = [] := by
    simp [versionsOf, different]
  rw [last, List.append_nil, versionsOf, versionsOf, List.filter_filter]
  -- What was removed belongs to the saved id.
  apply List.filter_congr
  intro row _
  by_cases named : key row.data = id
  · have apart : id ≠ key data := fun same => different same.symm
    simp [named, apart]
  · simp [named]

/-- Saving a record leaves the visible versions of other ids alone. -/
theorem openVersions_storeSave_ne {height : ℕ} {id : κ} {data : ρ} {rows : List (Row ρ)}
    (different : key data ≠ id) :
    openVersions key height id (storeSave key height data rows) =
      openVersions key height id rows := by
  simp only [openVersions, versionsOf_storeSave_ne different]

/-- A saved record is the one visible version of its id. -/
theorem openVersions_storeSave_self (height : ℕ) (data : ρ) (rows : List (Row ρ)) :
    openVersions key height (key data) (storeSave key height data rows) =
      [Row.fresh height data] := by
  rw [storeSave, openVersions_append, openVersions_closeWhere_self fun other named => by
    simp [named]]
  simp [openVersions, versionsOf]

/-- Saving records leaves the visible versions of other ids alone. -/
theorem openVersions_storeBulkCreate_other {height : ℕ} {id : κ} {records : List ρ}
    (absent : ∀ data ∈ records, key data ≠ id) (rows : List (Row ρ)) :
    openVersions key height id (storeBulkCreate key height records rows) =
      openVersions key height id rows := by
  induction records generalizing rows with
  | nil => rfl
  | cons data rest ih =>
    have later := ih (fun other member => absent other (List.mem_cons_of_mem _ member))
    rw [storeBulkCreate, List.foldl_cons]
    exact (later _).trans (openVersions_storeSave_ne (absent data List.mem_cons_self))

/-- A saved record is the one visible version of its id when all records of that id are the same. -/
theorem openVersions_storeBulkCreate_same {height : ℕ} {records : List ρ} {data : ρ}
    (member : data ∈ records) (same : ∀ other ∈ records, key other = key data → other = data)
    (rows : List (Row ρ)) : openVersions key height (key data)
      (storeBulkCreate key height records rows) = [Row.fresh height data] := by
  induction records generalizing rows with
  | nil => simp at member
  | cons first rest ih =>
    have later : ∀ other ∈ rest, key other = key data → other = data := fun other inside =>
      same other (List.mem_cons_of_mem _ inside)
    rw [storeBulkCreate, List.foldl_cons]
    by_cases again : data ∈ rest
    · exact ih again later _
    · -- Then no later record has this id.
      rcases List.mem_cons.mp member with rfl | inside
      · have absent : ∀ other ∈ rest, key other ≠ key data := fun other inside equal =>
          again (later other inside equal ▸ inside)
        exact (openVersions_storeBulkCreate_other absent _).trans
          (openVersions_storeSave_self height data rows)
      · exact absurd inside again

/-- Closing versions closes the visible ones of an id that is selected, and leaves another alone. -/
theorem openVersions_closeWhere_if {selects : ρ → Bool} {chosen : Bool} {height : ℕ} {id : κ}
    {rows : List (Row ρ)} (same : ∀ row ∈ rows, key row.data = id → selects row.data = chosen) :
    openVersions key height id (closeWhere selects height rows) =
      if chosen then [] else openVersions key height id rows := by
  induction rows with
  | nil => simp [closeWhere, openVersions, versionsOf]
  | cons row rest ih =>
    have later := ih fun other member => same other (List.mem_cons_of_mem _ member)
    have first := same row List.mem_cons_self
    have split : ∀ (row : Row ρ) (rest : List (Row ρ)), openVersions key height id (row :: rest) =
        openVersions key height id [row] ++ openVersions key height id rest := fun row rest =>
      openVersions_append height id [row] rest
    -- The first row is closed only when it is visible, and other ids do not matter.
    have head : openVersions key height id
        [if selects row.data && row.openAt height then row.close height else row] =
        if chosen then [] else openVersions key height id [row] := by
      by_cases named : key row.data = id
      · rw [first named]
        cases chosen
        · simp
        · cases visible : row.openAt height <;>
            simp [visible, openVersions, versionsOf, named]
      · have hidden : ∀ other : Row ρ, other.data = row.data →
            openVersions key height id [other] = [] := by
          intro other equal
          simp [openVersions, versionsOf, equal, named]
        rw [hidden _ (by split <;> rfl), hidden row rfl]
        split <;> rfl
    rw [closeWhere, List.map_cons, split, split row rest, head]
    rw [closeWhere] at later
    rw [later]
    split <;> rfl

/-- Saving a record leaves rows alone whose records are all apart from it. -/
theorem filter_storeSave {selects : ρ → Bool} {height : ℕ} {data : ρ} {rows : List (Row ρ)}
    (outside : selects data = false)
    (apart : ∀ row ∈ rows, selects row.data = true → key row.data ≠ key data) :
    (storeSave key height data rows).filter (fun row => selects row.data) =
      rows.filter fun row => selects row.data := by
  rw [storeSave, List.filter_append, List.filter_cons_of_neg (by simp [outside]), List.filter_nil,
    List.append_nil]
  induction rows with
  | nil => rfl
  | cons row rest ih =>
    have later := ih fun other member => apart other (List.mem_cons_of_mem _ member)
    have first := apart row List.mem_cons_self
    cases chosen : selects row.data with
    | true =>
      -- A selected row has another id, so it is neither removed nor closed.
      have different := first chosen
      rw [List.filter_cons_of_pos (by simp [different])]
      simp only [closeWhere, List.map_cons, different, decide_false, Bool.false_and,
        Bool.false_eq_true, if_false] at later ⊢
      rw [List.filter_cons_of_pos (by simpa using chosen),
        List.filter_cons_of_pos (by simpa using chosen), later]
    | false =>
      have right : ((row :: rest).filter fun row => selects row.data) =
          rest.filter fun row => selects row.data := List.filter_cons_of_neg (by simp [chosen])
      rw [right, List.filter_cons]
      split
      · rw [closeWhere, List.map_cons, List.filter_cons_of_neg]
        · exact later
        · split <;> simp [chosen]
      · exact later

/-- Closing versions leaves rows alone that are never selected. -/
theorem filter_closeWhere {selects kept : ρ → Bool} {height : ℕ} {rows : List (Row ρ)}
    (apart : ∀ data, kept data = true → selects data = false) :
    (closeWhere selects height rows).filter (fun row => kept row.data) =
      rows.filter fun row => kept row.data := by
  rw [closeWhere, List.filter_map]
  have same : ((fun row : Row ρ => kept row.data) ∘ fun row =>
      if selects row.data && row.openAt height then row.close height else row) =
      fun row => kept row.data := by
    funext row
    simp only [Function.comp_apply]
    split <;> rfl
  rw [same]
  -- A kept row is not closed.
  refine (List.map_congr_left fun row member => ?_).trans (List.map_id _)
  rw [apart row.data (List.mem_filter.mp member).2]
  rfl

/-- After closing, the visible versions are those that were visible and not selected. -/
theorem filter_openAt_closeWhere {selects kept : ρ → Bool} {height : ℕ} {rows : List (Row ρ)} :
    ((closeWhere selects height rows).filter fun row => row.openAt height && kept row.data) =
      (rows.filter fun row => row.openAt height && kept row.data).filter
        fun row => !selects row.data := by
  induction rows with
  | nil => rfl
  | cons row rest ih =>
    rw [closeWhere] at ih
    rw [closeWhere, List.map_cons, List.filter_cons, ih, List.filter_cons (x := row)]
    cases visible : row.openAt height with
    | false => simp [visible]
    | true =>
      cases chosen : selects row.data <;> cases stays : kept row.data <;>
        simp [visible, chosen, stays]

end Versions

section Written

variable {ρ : Type}

/-- Versions that were written up to a height. -/
structure Begun (height : ℕ) (rows : List (Row ρ)) : Prop where
  begun : ∀ row ∈ rows, row.blockRange.lower ≤ height
  ended : ∀ row ∈ rows, ∀ upper, row.blockRange.upper = some upper → upper ≤ height

variable {height next : ℕ} {rows : List (Row ρ)}

namespace Begun

/-- Closing versions at a later height ends them there. -/
theorem close (written : Begun height rows) (later : height ≤ next) (selects : ρ → Bool) :
    Begun next (closeWhere selects next rows) where
  begun := by
    intro row member
    obtain ⟨before, inside, rfl⟩ := List.mem_map.mp member
    have begun := written.begun before inside
    split <;> exact Nat.le_trans begun later
  ended := by
    intro row member upper ends
    obtain ⟨before, inside, rfl⟩ := List.mem_map.mp member
    split at ends
    · cases ends
      exact Nat.le_refl _
    · exact Nat.le_trans (written.ended before inside upper ends) later

/-- Versions may be opened at the last height. -/
theorem insert (written : Begun height rows) (docs : List ρ) :
    Begun height (rows ++ docs.map (Row.fresh height)) where
  begun := by
    intro row member
    rcases List.mem_append.mp member with old | new
    · exact written.begun row old
    · obtain ⟨doc, _, rfl⟩ := List.mem_map.mp new
      exact Nat.le_refl _
  ended := by
    intro row member upper ends
    rcases List.mem_append.mp member with old | new
    · exact written.ended row old upper ends
    · obtain ⟨doc, _, rfl⟩ := List.mem_map.mp new
      cases ends

/-- Versions up to a height are versions up to a later one. -/
theorem mono (written : Begun height rows) (later : height ≤ next) : Begun next rows where
  begun := fun row member => Nat.le_trans (written.begun row member) later
  ended := fun row member upper ends => Nat.le_trans (written.ended row member upper ends) later

end Begun

end Written

section Chains

variable {ρ κ : Type} [DecidableEq κ] (key : ρ → κ)

/-- A list of at most one row consists of any row it has. -/
theorem eq_singleton_of_mem {rows : List ρ} {row : ρ} (single : rows.length ≤ 1)
    (member : row ∈ rows) : rows = [row] := by
  cases rows with
  | nil => cases member
  | cons first rest =>
    have none : rest = [] := List.eq_nil_of_length_eq_zero (by simpa using single)
    subst none
    rw [List.mem_singleton.mp member]

/-- Of every id at most one version is visible at a height, which is the one written last, and no
two versions are visible together at any height. -/
structure Versioned (height : ℕ) (rows : List (Row ρ)) : Prop where
  single : ∀ id, (openVersions key height id rows).length ≤ 1
  disjoint : ∀ id, (versionsOf key id rows).Pairwise fun earlier later =>
    ∀ other, ¬(earlier.openAt other = true ∧ later.openAt other = true)
  last : ∀ id row, row ∈ openVersions key height id rows →
    (versionsOf key id rows).getLast? = some row

/-- Two visible versions of one id are the same. -/
theorem Versioned.unique {key : ρ → κ} {height : ℕ} {rows : List (Row ρ)}
    (versioned : Versioned key height rows) {first second : Row ρ} (inside : first ∈ rows)
    (other : second ∈ rows) (visible : first.openAt height = true)
    (shown : second.openAt height = true) (same : key first.data = key second.data) :
    first = second := by
  have left : first ∈ openVersions key height (key second.data) rows :=
    mem_openVersions.mpr ⟨inside, same, visible⟩
  have right : second ∈ openVersions key height (key second.data) rows :=
    mem_openVersions.mpr ⟨other, rfl, shown⟩
  have single := versioned.single (key second.data)
  match listed : openVersions key height (key second.data) rows, single with
  | [], _ => rw [listed] at left; cases left
  | [only], _ =>
    rw [listed] at left right
    exact (List.mem_singleton.mp left).trans (List.mem_singleton.mp right).symm

/-- Versions written up to a height, of which each ends before the next one of its id begins. -/
structure VersionChain (height : ℕ) (rows : List (Row ρ)) : Prop where
  begun : ∀ row ∈ rows, row.blockRange.lower ≤ height
  ended : ∀ row ∈ rows, ∀ upper, row.blockRange.upper = some upper → upper ≤ height
  ordered : ∀ id, (versionsOf key id rows).Pairwise fun earlier later =>
    ∃ upper, earlier.blockRange.upper = some upper ∧ upper ≤ later.blockRange.lower

namespace VersionChain

variable {key} {height next : ℕ} {rows : List (Row ρ)}

/-- Versions that follow each other were written up to their height. -/
theorem begunRows (chained : VersionChain key height rows) : Begun height rows :=
  ⟨chained.begun, chained.ended⟩

/-- Of the versions up to a height those without an end are visible, at that height and later. -/
theorem openAt_iff (chained : VersionChain key height rows) (later : height ≤ next) {row : Row ρ}
    (member : row ∈ rows) : row.openAt next = true ↔ row.blockRange.upper = none := by
  have begun := chained.begun row member
  have ended := chained.ended row member
  simp only [Row.openAt, BlockRange.contains, Bool.and_eq_true, decide_eq_true_eq]
  cases upper : row.blockRange.upper with
  | none => simp [Nat.le_trans begun later]
  | some bound =>
    have past := ended bound upper
    simp only [Option.all_some, decide_eq_true_eq, reduceCtorEq, iff_false, not_and]
    omega

/-- Versions up to a height are versions up to a later one. -/
theorem mono (chained : VersionChain key height rows) (later : height ≤ next) : VersionChain key next rows where
  begun := (chained.begunRows.mono later).begun
  ended := (chained.begunRows.mono later).ended
  ordered := chained.ordered

/-- Versions that follow each other have at most one that is visible, the last one. -/
theorem versioned (chained : VersionChain key height rows) : Versioned key height rows where
  single := by
    intro id
    have ordered : (openVersions key height id rows).Pairwise _ :=
      List.Pairwise.filter _ (chained.ordered id)
    -- Of two visible versions the earlier one would have an end.
    rcases found : openVersions key height id rows with _ | ⟨first, _ | ⟨second, rest⟩⟩
    · simp
    · simp
    · rw [found] at ordered
      obtain ⟨upper, ends, -⟩ := List.rel_of_pairwise_cons ordered List.mem_cons_self
      have visible := mem_openVersions.mp
        (show first ∈ openVersions key height id rows by rw [found]; exact List.mem_cons_self)
      rw [(chained.openAt_iff (Nat.le_refl _) visible.1).mp visible.2.2] at ends
      cases ends
  disjoint := by
    intro id
    refine (chained.ordered id).imp ?_
    rintro earlier later ⟨upper, ends, before⟩ other ⟨first, second⟩
    simp only [Row.openAt, BlockRange.contains, ends, Option.all_some, Bool.and_eq_true,
      decide_eq_true_eq] at first second
    omega
  last := by
    intro id row member
    obtain ⟨inside, named, visible⟩ := mem_openVersions.mp member
    have endless := (chained.openAt_iff (Nat.le_refl _) inside).mp visible
    have listed : row ∈ versionsOf key id rows := (List.mem_filter.mp member).1
    have ordered := chained.ordered id
    rcases List.eq_nil_or_concat (versionsOf key id rows) with none | ⟨before, final, split⟩
    · rw [none] at listed
      cases listed
    · rw [split, List.concat_eq_append] at listed ordered ⊢
      rcases List.mem_append.mp listed with earlier | same
      · -- A version before the last one has an end.
        obtain ⟨upper, ends, -⟩ := (List.pairwise_append.mp ordered).2.2 row earlier final
          (List.mem_singleton_self final)
        rw [endless] at ends
        cases ends
      · rw [List.mem_singleton.mp same, List.getLast?_concat]

/-- Closing visible versions at a later height keeps the versions in a chain. -/
theorem close (chained : VersionChain key height rows) (later : height ≤ next) (selects : ρ → Bool) :
    VersionChain key next (closeWhere selects next rows) where
  begun := (chained.begunRows.close later selects).begun
  ended := (chained.begunRows.close later selects).ended
  ordered := by
    intro id
    rw [closeWhere, versionsOf_map (fun row => by split <;> rfl), List.pairwise_map]
    refine (chained.ordered id).imp_of_mem ?_
    rintro earlier after listed _ ⟨upper, ends, before⟩
    -- A version with an end is not visible any more, so it is not closed again.
    have hidden : earlier.openAt next = false := by
      rw [← Bool.not_eq_true, chained.openAt_iff later (List.mem_filter.mp listed).1, ends]
      exact Option.some_ne_none upper
    rw [hidden, Bool.and_false, if_neg Bool.false_ne_true]
    refine ⟨upper, ends, ?_⟩
    split <;> exact before

/-- Opening versions of ids that have no visible one keeps the versions in a chain. -/
theorem insert (chained : VersionChain key height rows) {docs : List ρ} (distinct : (docs.map key).Nodup)
    (closed : ∀ doc ∈ docs, openVersions key height (key doc) rows = []) :
    VersionChain key height (rows ++ docs.map (Row.fresh height)) where
  begun := (chained.begunRows.insert docs).begun
  ended := (chained.begunRows.insert docs).ended
  ordered := by
    intro id
    rw [versionsOf_append, List.pairwise_append]
    refine ⟨chained.ordered id, ?_, ?_⟩
    · -- No two of the new versions have the same id.
      have apart : (docs.map (Row.fresh height)).Pairwise fun earlier later =>
          key earlier.data ≠ key later.data :=
        List.pairwise_map.mpr (List.pairwise_map.mp distinct)
      refine (apart.filter _).imp_of_mem fun {earlier later} first second different => ?_
      have left := of_decide_eq_true (List.mem_filter.mp first).2
      have right := of_decide_eq_true (List.mem_filter.mp second).2
      exact absurd (left.trans right.symm) different
    · intro earlier listed later new
      obtain ⟨inside, named⟩ := List.mem_filter.mp listed
      obtain ⟨member, same⟩ := List.mem_filter.mp new
      obtain ⟨doc, opened, rfl⟩ := List.mem_map.mp member
      have own : key earlier.data = key doc :=
        (of_decide_eq_true named).trans (of_decide_eq_true same).symm
      have hidden : earlier.openAt height ≠ true := fun visible => by
        have shown : earlier ∈ openVersions key height (key doc) rows :=
          mem_openVersions.mpr ⟨inside, own, visible⟩
        rw [closed doc opened] at shown
        cases shown
      rw [Ne, chained.openAt_iff (Nat.le_refl _) inside] at hidden
      obtain ⟨upper, ends⟩ := Option.ne_none_iff_exists'.mp hidden
      exact ⟨upper, ends, chained.ended earlier inside upper ends⟩

end VersionChain

end Chains

end Pocketdex
