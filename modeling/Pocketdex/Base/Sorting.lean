import Mathlib.Data.List.Sort

/-! Lists of entries sorted by their keys. -/

namespace Pocketdex

section

variable {κ ν : Type} {le : κ → κ → Bool}

/-- Entries under distinct keys are sorted into the same list exactly when they are the same. -/
theorem mergeSort_eq_iff (total : ∀ one two, (le one two || le two one) = true)
    (trans : ∀ one two three, le one two = true → le two three = true → le one three = true)
    (antisymm : ∀ one two, le one two = true → le two one = true → one = two)
    {first second : List (κ × ν)} (distinct : (first.map Prod.fst).Nodup)
    (distinctToo : (second.map Prod.fst).Nodup) :
    (first.mergeSort fun one two => le one.1 two.1) =
        (second.mergeSort fun one two => le one.1 two.1) ↔
      ∀ entry, entry ∈ first ↔ entry ∈ second := by
  constructor
  · intro same entry
    -- Sorting keeps the entries.
    have kept : entry ∈ first.mergeSort (fun one two => le one.1 two.1) ↔ entry ∈ first :=
      List.mem_mergeSort
    rw [← kept, same, List.mem_mergeSort]
  · intro members
    have perm : first.Perm second :=
      (List.perm_ext_iff_of_nodup distinct.of_map distinctToo.of_map).mpr members
    have ordered := ((List.mergeSort_perm first fun one two => le one.1 two.1).trans perm).trans
      (List.mergeSort_perm second fun one two => le one.1 two.1).symm
    -- Entries that are sorted alike have the same key, and each key has one entry.
    refine List.Perm.eq_of_pairwise ?_
      (List.pairwise_mergeSort (fun one two three => trans one.1 two.1 three.1)
        (fun one two => total one.1 two.1) _)
      (List.pairwise_mergeSort (fun one two three => trans one.1 two.1 three.1)
        (fun one two => total one.1 two.1) _) ordered
    intro one two inside member less more
    have keys := antisymm one.1 two.1 less more
    exact List.inj_on_of_nodup_map distinct (List.mem_mergeSort.mp inside)
      (perm.mem_iff.mpr (List.mem_mergeSort.mp member)) keys

end

end Pocketdex
