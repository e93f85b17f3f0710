import Mathlib.Data.List.AList

/-!
# Tables with a primary key

A table holds at most one row for each key. These are the statements of a
relational store on it: `INSERT`, `INSERT OR IGNORE`, `INSERT OR REPLACE` and
`DELETE ... WHERE`, each with what a lookup finds afterwards.
-/

/-- Rows found by their primary key. -/
abbrev Table (κ ρ : Type) := AList fun _ : κ => ρ

namespace Table

variable {κ ρ : Type} [DecidableEq κ]

/-- `DELETE FROM t WHERE p`. -/
def deleteWhere (p : κ → ρ → Bool) (t : Table κ ρ) : Table κ ρ where
  entries := t.entries.filter fun row => !p row.1 row.2
  nodupKeys := t.nodupKeys.sublist List.filter_sublist

/-- How many rows `DELETE FROM t WHERE p` deletes. -/
def count (p : κ → ρ → Bool) (t : Table κ ρ) : Nat :=
  t.entries.countP fun row => p row.1 row.2

/-- `INSERT OR IGNORE`: how many rows it inserts, and the table afterwards. -/
def insertOrIgnore (k : κ) (row : ρ) (t : Table κ ρ) : Nat × Table κ ρ :=
  match t.lookup k with
  | some _ => (0, t)
  | none => (1, t.insert k row)

theorem mem_entries {t : Table κ ρ} {k : κ} {row : ρ} : ⟨k, row⟩ ∈ t.entries ↔ t.lookup k = some row :=
  (List.mem_dlookup_iff t.nodupKeys).symm

@[simp] theorem lookup_deleteWhere (p : κ → ρ → Bool) (t : Table κ ρ) (k : κ) :
    (t.deleteWhere p).lookup k = (t.lookup k).filter fun row => !p k row := by
  ext row
  rw [← mem_entries, Option.filter_eq_some_iff, ← mem_entries, deleteWhere, List.mem_filter]

theorem insertOrIgnore_of_some {k : κ} {row row' : ρ} {t : Table κ ρ} (h : t.lookup k = some row) :
    t.insertOrIgnore k row' = (0, t) := by
  simp [insertOrIgnore, h]

theorem insertOrIgnore_of_none {k : κ} {row : ρ} {t : Table κ ρ} (h : t.lookup k = none) :
    t.insertOrIgnore k row = (1, t.insert k row) := by
  simp [insertOrIgnore, h]

theorem lookup_insert_eq (k k' : κ) (row : ρ) (t : Table κ ρ) :
    (t.insert k row).lookup k' = if k' = k then some row else t.lookup k' := by
  by_cases h : k' = k
  · subst h
    simp
  · simp [h, AList.lookup_insert_ne h]

/-- What is found after a row is put was there before, unless it is that row. -/
theorem lookup_of_insert {k k' : κ} {row found : ρ} {t : Table κ ρ}
    (h : (t.insert k row).lookup k' = some found) : t.lookup k' = some found ∨ found = row := by
  rw [lookup_insert_eq] at h
  split at h
  · exact .inr (Option.some.inj h).symm
  · exact .inl h

/-- Rows that are read from the rows of other keys are the same after a row is put under `k`. -/
theorem filterMap_insert {α : Type} {f : Sigma (fun _ : κ => ρ) → Option α} {k : κ}
    (h : ∀ row, f ⟨k, row⟩ = none) (row : ρ) (t : Table κ ρ) :
    (t.insert k row).entries.filterMap f = t.entries.filterMap f := by
  have hkerase : ∀ rows : List (Sigma fun _ : κ => ρ),
      (rows.kerase k).filterMap f = rows.filterMap f := by
    intro rows
    induction rows with
    | nil => rfl
    | cons first rows ih =>
      obtain ⟨k', old⟩ := first
      by_cases hk : k = k'
      · subst hk
        have hhead : List.kerase k (⟨k, old⟩ :: rows) = rows := List.kerase_cons_eq rfl
        rw [hhead, List.filterMap_cons_none (h old)]
      · rw [List.kerase_cons_ne hk, List.filterMap_cons, List.filterMap_cons, ih]
  rw [AList.entries_insert]
  exact (List.filterMap_cons_none (h row)).trans (hkerase t.entries)

end Table
