import Std.Data.TreeMap

/-!
# Readership.Report.Grouping

Sorting items into groups by a key.

`groupBy` keeps the items of each group in their order and drops those without a key.
`members_groupBy` says what a group holds: the items with its key, as a filter would find them.
-/

namespace Readership.Report

variable {α κ : Type} [Ord κ]

abbrev Groups (κ α : Type) [Ord κ] := Std.TreeMap κ (List α) compare

/-- Puts an item in front of the group of its key. -/
def addTo (key : α → Option κ) (a : α) (groups : Groups κ α) : Groups κ α :=
  match key a with
  | some k => groups.insert k (a :: groups.getD k [])
  | none => groups

/-- The groups of a list of items, each in the order of the list. -/
def groupBy (key : α → Option κ) (items : List α) : Groups κ α :=
  items.foldr (addTo key) ∅

def members (groups : Groups κ α) (k : κ) : List α := groups.getD k []

variable [Std.TransOrd κ] [Std.LawfulEqOrd κ] [DecidableEq κ]

theorem members_addTo (key : α → Option κ) (a : α) (groups : Groups κ α) (k : κ) :
    members (addTo key a groups) k =
      if key a = some k then a :: members groups k else members groups k := by
  cases hk : key a with
  | none => simp [addTo, hk]
  | some k' =>
    simp only [addTo, hk, members, Std.TreeMap.getD_insert, Std.compare_eq_iff_eq,
      Option.some.injEq]
    split
    · next h => rw [h]
    · rfl

/-- A group holds the items with its key, in order. -/
theorem members_groupBy (key : α → Option κ) (items : List α) (k : κ) :
    members (groupBy key items) k = items.filter fun a => key a = some k := by
  induction items with
  | nil => simp [groupBy, members]
  | cons a items ih =>
    have step : groupBy key (a :: items) = addTo key a (groupBy key items) := rfl
    rw [step, members_addTo, ih]
    by_cases h : key a = some k <;> simp [h]

end Readership.Report
