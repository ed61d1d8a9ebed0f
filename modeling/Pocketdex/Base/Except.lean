import Mathlib.Data.List.Forall2
import Mathlib.Data.Nat.Notation

/-! Fallible computations: what their success says about the parts. -/

namespace Pocketdex

variable {ε α β : Type}

/-- A sequence of fallible steps succeeds only if its first step does. -/
theorem exceptBind_ok {result : Except ε α} {next : α → Except ε β} {final : β}
    (ran : result.bind next = .ok final) : ∃ value, result = .ok value ∧ next value = .ok final := by
  cases result with
  | error error => simp [Except.bind] at ran
  | ok value => exact ⟨value, rfl, ran⟩

/-- A mapped result is the map of a result. -/
theorem exceptMap_ok {result : Except ε α} {rename : α → β} {final : β}
    (ran : result.map rename = .ok final) : ∃ value, result = .ok value ∧ rename value = final := by
  cases result with
  | error error => simp [Except.map] at ran
  | ok value => exact ⟨value, rfl, by simpa [Except.map] using ran⟩

/-- Renamed first steps that go on alike up to a renaming give results that are alike up to it. -/
theorem exceptBind_renamed {γ δ : Type} {first : Except ε γ} {second : Except ε α} {inner : α → γ}
    {next : γ → Except ε δ} {other : α → Except ε β} {rename : β → δ}
    (renamed : first = second.map inner) (each : ∀ value, next (inner value) = (other value).map rename) :
    (first >>= next) = (second >>= other).map rename := by
  rw [renamed]
  cases second with
  | error error => rfl
  | ok value => exact each value

/-- Steps that go on alike up to a renaming give results that are alike up to it. -/
theorem exceptBind_map_congr {γ : Type} {result : Except ε α} {next : α → Except ε γ}
    {other : α → Except ε β} {rename : β → γ} (each : ∀ value, next value = (other value).map rename) :
    (result >>= next) = (result >>= other).map rename := by
  cases result with
  | error error => rfl
  | ok value => exact each value

/-- A computation that has a value succeeds with it. -/
theorem ok_of_toOption {result : Except ε α} {value : α}
    (found : result.toOption = some value) : result = .ok value := by
  cases result with
  | error error => simp [Except.toOption] at found
  | ok other => simpa [Except.toOption] using found

/-- A mapped list succeeds only if every item does, each with its own value. -/
theorem mapM_ok {read : α → Except ε β} {items : List α} {values : List β}
    (ran : items.mapM read = .ok values) :
    List.Forall₂ (fun item value => read item = .ok value) items values := by
  induction items generalizing values with
  | nil =>
    simp only [List.mapM_nil, pure, Except.pure, Except.ok.injEq] at ran
    subst ran
    exact List.Forall₂.nil
  | cons item rest ih =>
    rw [List.mapM_cons] at ran
    obtain ⟨value, first, ran⟩ := exceptBind_ok ran
    obtain ⟨later, second, ran⟩ := exceptBind_ok ran
    simp only [pure, Except.pure, Except.ok.injEq] at ran
    subst ran
    exact List.Forall₂.cons first (ih second)

/-- Each item of a list has a partner in a list it is related to item by item. -/
theorem forall₂_left {related : α → β → Prop} {items : List α} {others : List β}
    (each : List.Forall₂ related items others) {item : α} (member : item ∈ items) :
    ∃ other ∈ others, related item other := by
  induction each with
  | nil => simp at member
  | @cons _ other _ _ one _ ih =>
    rcases List.mem_cons.mp member with rfl | inside
    · exact ⟨other, List.mem_cons_self, one⟩
    · obtain ⟨found, located, partner⟩ := ih inside
      exact ⟨found, List.mem_cons_of_mem _ located, partner⟩

/-- Each item of a list that another one is related to item by item is a partner. -/
theorem forall₂_right {related : α → β → Prop} {items : List α} {others : List β}
    (each : List.Forall₂ related items others) {other : β} (member : other ∈ others) :
    ∃ item ∈ items, related item other :=
  forall₂_left each.flip member

/-- A place in one list is the same place in a list it is related to item by item. -/
theorem forall₂_middle {related : α → β → Prop} {before after : List α} {item : α}
    {others : List β} (each : List.Forall₂ related (before ++ item :: after) others) :
    ∃ earlier other later, others = earlier ++ other :: later ∧ related item other ∧
      List.Forall₂ related before earlier ∧ List.Forall₂ related after later := by
  induction before generalizing others with
  | nil =>
    cases each with
    | @cons _ other _ later one rest => exact ⟨[], other, later, rfl, one, List.Forall₂.nil, rest⟩
  | cons first before ih =>
    cases each with
    | @cons _ head _ tail one rest =>
      obtain ⟨earlier, other, later, rfl, partner, front, back⟩ := ih rest
      exact ⟨head :: earlier, other, later, rfl, partner, List.Forall₂.cons one front, back⟩

/-- Each value of a mapped list comes from one of its items. -/
theorem mem_of_mapM_ok {read : α → Except ε β} {items : List α} {values : List β}
    (ran : items.mapM read = .ok values) {value : β} (member : value ∈ values) :
    ∃ item ∈ items, read item = .ok value :=
  forall₂_right (mapM_ok ran) member

/-- Each item of a list that was mapped has its value among the others. -/
theorem exists_of_mapM_ok {read : α → Except ε β} {items : List α} {values : List β}
    (ran : items.mapM read = .ok values) {item : α} (member : item ∈ items) :
    ∃ value ∈ values, read item = .ok value :=
  forall₂_left (mapM_ok ran) member

/-- A field that each value owes to its item is read off a mapped list from the items. -/
theorem map_of_mapM_ok {γ : Type} {read : α → Except ε β} {items : List α} {values : List β}
    {field : β → γ} {expected : α → γ} (ran : items.mapM read = .ok values)
    (each : ∀ item value, read item = .ok value → field value = expected item) :
    values.map field = items.map expected := by
  have related := mapM_ok ran
  clear ran
  induction related with
  | nil => rfl
  | cons one _ ih => rw [List.map_cons, List.map_cons, each _ _ one, ih]

/-- The same for a list that each value owes to its item. -/
theorem flatMap_of_mapM_ok {γ : Type} {read : α → Except ε β} {items : List α} {values : List β}
    (field : β → List γ) (expected : α → List γ) (ran : items.mapM read = .ok values)
    (each : ∀ item value, read item = .ok value → field value = expected item) :
    values.flatMap field = items.flatMap expected := by
  rw [List.flatMap_def, map_of_mapM_ok ran each, List.flatMap_def]

/-- Where the values of a mapped list have a field as expected, each item's value has it. -/
theorem field_of_mapM_ok {γ : Type} {read : α → Except ε β} {items : List α} {values : List β}
    {field : β → γ} {expected : α → γ} (ran : items.mapM read = .ok values)
    (same : values.map field = items.map expected) {item : α} (member : item ∈ items) :
    ∃ value, read item = .ok value ∧ field value = expected item := by
  have related := mapM_ok ran
  clear ran
  induction related with
  | nil => exact absurd member List.not_mem_nil
  | @cons head value _ _ one _ ih =>
    rw [List.map_cons, List.map_cons, List.cons.injEq] at same
    rcases List.mem_cons.mp member with rfl | inside
    · exact ⟨value, one, same.1⟩
    · exact ih same.2 inside

/-- Where each item has a value with a field as expected, so has the mapped list. -/
theorem exists_mapM_ok {γ : Type} {read : α → Except ε β} {items : List α} {field : β → γ}
    {expected : α → γ}
    (each : ∀ item ∈ items, ∃ value, read item = .ok value ∧ field value = expected item) :
    ∃ values, items.mapM read = .ok values ∧ values.map field = items.map expected := by
  induction items with
  | nil => exact ⟨[], rfl, rfl⟩
  | cons item rest ih =>
    obtain ⟨value, found, same⟩ := each item List.mem_cons_self
    obtain ⟨values, others, rests⟩ :=
      ih fun other member => each other (List.mem_cons_of_mem _ member)
    refine ⟨value :: values, ?_, by rw [List.map_cons, List.map_cons, same, rests]⟩
    rw [List.mapM_cons, found, others]
    rfl

/-- A mapped list succeeds when each of its items does. -/
theorem mapM_of_ok {read : α → Except ε β} {value : α → β} {items : List α}
    (each : ∀ item ∈ items, read item = .ok (value item)) :
    items.mapM read = .ok (items.map value) := by
  induction items with
  | nil => rfl
  | cons item rest ih =>
    rw [List.mapM_cons, each item List.mem_cons_self,
      ih fun other member => each other (List.mem_cons_of_mem _ member)]
    rfl

/-- A lookup whose checks all succeed finds nothing, or an item that is one of those looked for. -/
theorem findM?_of_ok {check : α → Except ε Bool} {items : List α}
    (each : ∀ item ∈ items, ∃ found, check item = .ok found) :
    (items.findM? check = .ok none ∧ ∀ item ∈ items, check item = .ok false) ∨
      ∃ item ∈ items, items.findM? check = .ok (some item) ∧ check item = .ok true := by
  induction items with
  | nil => exact Or.inl ⟨rfl, fun item member => absurd member List.not_mem_nil⟩
  | cons item rest ih =>
    obtain ⟨found, checked⟩ := each item List.mem_cons_self
    -- The first item is checked before the others are looked at.
    have step : (item :: rest).findM? check =
        (check item >>= fun found => if found then pure (some item) else rest.findM? check) := by
      rw [List.findM?]
      congr 1
      funext found
      cases found <;> rfl
    rw [step, checked]
    cases found with
    | true => exact Or.inr ⟨item, List.mem_cons_self, rfl, checked⟩
    | false =>
      rcases ih fun other member => each other (List.mem_cons_of_mem _ member) with
        ⟨missed, none⟩ | ⟨other, member, hit, true⟩
      · exact Or.inl ⟨missed, List.forall_mem_cons.mpr ⟨checked, none⟩⟩
      · exact Or.inr ⟨other, List.mem_cons_of_mem _ member, hit, true⟩

/-- The value at a place of a mapped numbered list comes from the item with that number. -/
theorem mapM_zipIdx_ok {read : α × ℕ → Except ε β} {items : List α} {values : List β}
    (ran : items.zipIdx.mapM read = .ok values) {index : ℕ} {value : β}
    (placed : values[index]? = some value) : ∃ item, read (item, index) = .ok value := by
  -- Numbering from any start keeps the distance between a place and its number.
  have each : ∀ (items : List α) (start : ℕ) (values : List β) (index : ℕ),
      List.Forall₂ (fun item value => read item = .ok value) (items.zipIdx start) values →
        values[index]? = some value → ∃ item, read (item, start + index) = .ok value := by
    intro items
    induction items with
    | nil =>
      intro start values index each placed
      rw [List.zipIdx_nil] at each
      cases each
      simp at placed
    | cons item rest ih =>
      intro start values index each placed
      rw [List.zipIdx_cons] at each
      cases each with
      | cons one others =>
        cases index with
        | zero =>
          simp only [List.getElem?_cons_zero, Option.some.injEq] at placed
          exact ⟨item, placed ▸ one⟩
        | succ index =>
          obtain ⟨found, ran⟩ := ih (start + 1) _ index others (by simpa using placed)
          exact ⟨found, by rwa [Nat.add_assoc, Nat.add_comm 1 index] at ran⟩
  have found := each items 0 values index (mapM_ok ran) placed
  rwa [Nat.zero_add] at found

end Pocketdex
