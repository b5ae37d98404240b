import Std.Data.HashMap

/-!
# Readership.Dataset.Index

Positions of rows by a key.

An `Index` answers which rows hold a key in some column.  It is built once from the column;
`Index.positions_ofKeys` says that it answers like a scan of the column, in storage order.
-/

namespace Readership

structure Index where
  map : Std.HashMap Int (List Nat)

namespace Index

def add (map : Std.HashMap Int (List Nat)) (key : Option Int) (position : Nat) :
    Std.HashMap Int (List Nat) :=
  match key with
  | some k => map.insert k (position :: map.getD k [])
  | none => map

/-- The index of a column of keys, some of them missing. -/
def ofKeys (keys : List (Option Int)) : Index :=
  ⟨keys.zipIdx.foldr (fun (key, i) map => add map key i) ∅⟩

/-- The positions of all rows that hold a key, in storage order. -/
def positions (index : Index) (key : Int) : List Nat := index.map.getD key []

/-- The first row of a table that holds a key, found through the index of the column. -/
def find? {α : Type} (index : Index) (key : Int) (table : Array α) : Option α :=
  (index.positions key).head?.bind (table[·]?)

def has (index : Index) (key : Int) : Bool := !(index.positions key).isEmpty

/-- The positions at which a scan of a column from position `n` on finds a key. -/
def scan (key : Int) (n : Nat) : List (Option Int) → List Nat
  | [] => []
  | k :: ks => if k = some key then n :: scan key (n + 1) ks else scan key (n + 1) ks

theorem getD_add (map : Std.HashMap Int (List Nat)) (k : Option Int) (i : Nat) (key : Int) :
    (add map k i).getD key [] = if k = some key then i :: map.getD key [] else map.getD key [] := by
  cases k with
  | none => simp [add]
  | some k =>
    simp only [add, Std.HashMap.getD_insert, Option.some.injEq, beq_iff_eq]
    split
    · next h => rw [h]
    · rfl

/-- An index answers like a scan of its column. -/
theorem positions_ofKeys (keys : List (Option Int)) (key : Int) :
    (ofKeys keys).positions key = scan key 0 keys := by
  have go (n : Nat) :
      ((keys.zipIdx n).foldr (fun (key, i) map => add map key i) ∅).getD key [] =
        scan key n keys := by
    induction keys generalizing n with
    | nil => simp [scan]
    | cons k ks ih => simp [List.zipIdx_cons, scan, getD_add, ih]
  exact go 0

/-- Its positions are those at which the column holds the key. -/
theorem mem_scan {key : Int} {n i : Nat} {keys : List (Option Int)} :
    i ∈ scan key n keys ↔ n ≤ i ∧ keys[i - n]?.join = some key := by
  induction keys generalizing n with
  | nil => simp [scan]
  | cons k ks ih =>
    have step : i ∈ scan key (n + 1) ks ↔ n + 1 ≤ i ∧ ks[i - (n + 1)]?.join = some key := ih
    rcases Nat.lt_trichotomy i n with h | h | h
    · simp only [scan]
      split <;> simp only [List.mem_cons, step] <;> omega
    · subst h
      by_cases hk : k = some key
      · simp [scan, hk]
      · have hi : ¬ i + 1 ≤ i := by omega
        simp [scan, hk, step, hi]
    · obtain ⟨j, rfl⟩ : ∃ j, i = n + 1 + j := ⟨i - (n + 1), by omega⟩
      have hj : n + 1 + j - n = j + 1 := by omega
      have hle : n ≤ n + 1 + j ∧ n + 1 ≤ n + 1 + j ∧ n + 1 + j ≠ n := by omega
      simp only [scan, hj, List.getElem?_cons_succ]
      split <;> simp [step, hle.1, hle.2.2]

end Index

end Readership
