/-
# Keyed rows

A table with a primary key and a hash map are both association lists without
repeated keys, so both are Mathlib's `AList` over a constant family.  Mathlib has
insertion, deletion and lookup; what a table needs besides is an update of the
rows in place, which keeps the keys and their order.
-/

import Mathlib.Data.List.AList

namespace WorkGate.Library

universe uκ uρ uβ

/-- Rows of type `ρ` under pairwise distinct keys of type `κ`. -/
abbrev Rows (κ : Type uκ) (ρ : Type uρ) : Type (max uκ uρ) := AList fun _ : κ => ρ

namespace Rows

variable {κ : Type uκ} {ρ : Type uρ}

/-- Rewrite every row in place. -/
def mapRows (f : κ → ρ → ρ) (rows : Rows κ ρ) : Rows κ ρ where
  entries := rows.entries.map fun entry => ⟨entry.1, f entry.1 entry.2⟩
  nodupKeys := by
    have hkeys : (rows.entries.map fun entry : (_ : κ) × ρ =>
        (⟨entry.1, f entry.1 entry.2⟩ : (_ : κ) × ρ)).keys = rows.entries.keys := by
      simp [List.keys, Function.comp_def]
    rw [List.NodupKeys, hkeys]
    exact rows.nodupKeys

@[simp]
theorem keys_mapRows (f : κ → ρ → ρ) (rows : Rows κ ρ) :
    (rows.mapRows f).keys = rows.keys := by
  simp [mapRows, AList.keys, List.keys, Function.comp_def]

@[simp]
theorem mem_mapRows {f : κ → ρ → ρ} {rows : Rows κ ρ} {key : κ} :
    key ∈ rows.mapRows f ↔ key ∈ rows := by
  rw [AList.mem_keys, AList.mem_keys, keys_mapRows]

/-- Delete every row that fails a test. -/
def keepRows (keep : κ → ρ → Bool) (rows : Rows κ ρ) : Rows κ ρ where
  entries := rows.entries.filter fun entry => keep entry.1 entry.2
  nodupKeys := List.NodupKeys.sublist List.filter_sublist rows.nodupKeys

/-- When the rows that pass a test all stand under one key, there is at most one. -/
theorem countP_entries_le_one {rows : Rows κ ρ} {test : (_ : κ) × ρ → Bool}
    (hsame : ∀ first second, first ∈ rows.entries → second ∈ rows.entries →
      test first = true → test second = true → first.1 = second.1) :
    rows.entries.countP test ≤ 1 := by
  have hkeys : (rows.entries.filter test).NodupKeys :=
    List.NodupKeys.sublist List.filter_sublist rows.nodupKeys
  rw [List.countP_eq_length_filter]
  cases hpassing : rows.entries.filter test with
  | nil => simp
  | cons first others =>
      cases others with
      | nil => simp
      | cons second rest =>
          have hfirst : first ∈ rows.entries.filter test := by simp [hpassing]
          have hsecond : second ∈ rows.entries.filter test := by simp [hpassing]
          rw [List.mem_filter] at hfirst hsecond
          rw [hpassing, List.nodupKeys_cons] at hkeys
          have heq := hsame second first hsecond.1 hfirst.1 hsecond.2 hfirst.2
          exact absurd (List.mem_keys.mpr ⟨second.2, heq ▸ List.mem_cons_self⟩) hkeys.1

variable [DecidableEq κ]

/-- Rows are compared entry by entry, so that the comparison computes. -/
instance decidableEq [DecidableEq ρ] : DecidableEq (Rows κ ρ) :=
  fun rows others => decidable_of_iff (rows.entries = others.entries) AList.ext_iff.symm

/-- A row looked up after an update is the updated row. -/
@[simp]
theorem lookup_mapRows (f : κ → ρ → ρ) (rows : Rows κ ρ) (key : κ) :
    (rows.mapRows f).lookup key = (rows.lookup key).map (f key) := by
  obtain ⟨entries, hnodup⟩ := rows
  simp only [mapRows, AList.lookup]
  clear hnodup
  induction entries with
  | nil => rfl
  | cons entry rest ih =>
      obtain ⟨k, row⟩ := entry
      by_cases hk : k = key
      · subst hk
        simp
      · rw [List.map_cons, List.dlookup_cons_ne _ _ (Ne.symm hk),
          List.dlookup_cons_ne _ _ (Ne.symm hk), ih]

/-- Update the row under one key, when there is one. -/
def updateRow (key : κ) (f : ρ → ρ) (rows : Rows κ ρ) : Rows κ ρ :=
  rows.mapRows fun k row => if k = key then f row else row

@[simp]
theorem lookup_updateRow (key : κ) (f : ρ → ρ) (rows : Rows κ ρ) :
    (rows.updateRow key f).lookup key = (rows.lookup key).map f := by
  simp [updateRow]

theorem lookup_updateRow_ne {key other : κ} (hne : other ≠ key) (f : ρ → ρ) (rows : Rows κ ρ) :
    (rows.updateRow key f).lookup other = rows.lookup other := by
  simp [updateRow, hne]

theorem lookup_updateRow_eq (key other : κ) (f : ρ → ρ) (rows : Rows κ ρ) :
    (rows.updateRow key f).lookup other =
      if other = key then (rows.lookup other).map f else rows.lookup other := by
  by_cases h : other = key
  · subst h
    simp
  · simp [lookup_updateRow_ne h, h]

/-- An update that leaves its row as it is changes nothing. -/
theorem updateRow_eq_self {key : κ} {f : ρ → ρ} {rows : Rows κ ρ} {row : ρ}
    (hrow : rows.lookup key = some row) (hsame : f row = row) : rows.updateRow key f = rows := by
  apply AList.ext
  conv_rhs => rw [← List.map_id rows.entries]
  apply List.map_congr_left
  rintro ⟨k, found⟩ hentry
  by_cases hk : k = key
  · subst hk
    have hfound := (List.mem_dlookup_iff rows.nodupKeys).mpr hentry
    have heq : found = row := Option.some.inj (hfound.symm.trans hrow)
    simp [heq, hsame]
  · simp [hk]

@[simp]
theorem mem_updateRow {key other : κ} {f : ρ → ρ} {rows : Rows κ ρ} :
    other ∈ rows.updateRow key f ↔ other ∈ rows := mem_mapRows

theorem lookup_insert_eq (key other : κ) (row : ρ) (rows : Rows κ ρ) :
    (rows.insert key row).lookup other = if other = key then some row else rows.lookup other := by
  by_cases h : other = key
  · subst h
    simp
  · simp [AList.lookup_insert_ne h, h]

theorem lookup_erase_eq (key other : κ) (rows : Rows κ ρ) :
    (rows.erase key).lookup other = if other = key then none else rows.lookup other := by
  by_cases h : other = key
  · subst h
    simp
  · simp [AList.lookup_erase_ne h, h]

/-- Looking up a key that is present succeeds. -/
theorem exists_lookup_of_mem {rows : Rows κ ρ} {key : κ} (hmem : key ∈ rows) :
    ∃ row, rows.lookup key = some row :=
  Option.isSome_iff_exists.mp (AList.lookup_isSome.mpr hmem)

theorem mem_of_lookup {rows : Rows κ ρ} {key : κ} {row : ρ}
    (hlookup : rows.lookup key = some row) : key ∈ rows :=
  AList.lookup_isSome.mp (by rw [hlookup]; rfl)

theorem mem_entries_iff {rows : Rows κ ρ} {key : κ} {row : ρ} :
    (⟨key, row⟩ : (_ : κ) × ρ) ∈ rows.entries ↔ rows.lookup key = some row :=
  (List.mem_dlookup_iff rows.nodupKeys).symm

/-- Deleting rows leaves the others where they are. -/
theorem lookup_keepRows (keep : κ → ρ → Bool) (rows : Rows κ ρ) (key : κ) :
    (rows.keepRows keep).lookup key = (rows.lookup key).filter (keep key) := by
  ext row
  rw [← mem_entries_iff, Option.filter_eq_some_iff,
    ← mem_entries_iff]
  exact List.mem_filter

/-! ## What holds of every row -/

/-- Every row, with its key, has the property. -/
def All (P : κ → ρ → Prop) (rows : Rows κ ρ) : Prop :=
  ∀ key row, rows.lookup key = some row → P key row

namespace All

variable {P Q : κ → ρ → Prop} {rows : Rows κ ρ}

theorem empty : All P (∅ : Rows κ ρ) := by simp [All]

theorem imp (h : All P rows) (himp : ∀ key row, P key row → Q key row) : All Q rows :=
  fun key row hrow => himp key row (h key row hrow)

theorem insert (h : All P rows) {key : κ} {row : ρ} (hrow : P key row) :
    All P (rows.insert key row) := by
  intro other found hfound
  rw [lookup_insert_eq] at hfound
  split at hfound
  · next heq =>
      cases hfound
      exact heq ▸ hrow
  · exact h other found hfound

theorem erase (h : All P rows) (key : κ) : All P (rows.erase key) := by
  intro other found hfound
  rw [lookup_erase_eq] at hfound
  split at hfound
  · cases hfound
  · exact h other found hfound

theorem updateRow (h : All P rows) {key : κ} {f : ρ → ρ} (hrow : ∀ row, P key row → P key (f row)) :
    All P (rows.updateRow key f) := by
  intro other found hfound
  rw [lookup_updateRow_eq] at hfound
  split at hfound
  · next heq =>
      subst heq
      obtain ⟨row, hlookup, rfl⟩ := Option.map_eq_some_iff.mp hfound
      exact hrow row (h other row hlookup)
  · exact h other found hfound

end All

/-! ## Rows as a list of pairs -/

/-- A list of pairs without repeated keys that holds what the rows hold, seen through `f`. -/
structure Lists {β : Type uβ} (f : ρ → β) (rows : Rows κ ρ) (pairs : List (κ × β)) : Prop where
  nodup : (pairs.map Prod.fst).Nodup
  mem_iff : ∀ key value, (key, value) ∈ pairs ↔ (rows.lookup key).map f = some value

namespace Lists

variable {β : Type uβ} {f : ρ → β} {rows : Rows κ ρ} {pairs : List (κ × β)}

theorem empty : Lists f (∅ : Rows κ ρ) [] where
  nodup := List.nodup_nil
  mem_iff := by simp

theorem mem_keys_iff (hlists : Lists f rows pairs) {key : κ} :
    key ∈ pairs.map Prod.fst ↔ key ∈ rows := by
  rw [← AList.lookup_isSome]
  constructor
  · intro hmem
    obtain ⟨pair, hpair, rfl⟩ := List.mem_map.mp hmem
    have hlookup := (hlists.mem_iff pair.1 pair.2).mp hpair
    rw [← Option.isSome_map (f := f), hlookup]
    rfl
  · intro hsome
    obtain ⟨row, hrow⟩ := Option.isSome_iff_exists.mp hsome
    have hpair := (hlists.mem_iff key (f row)).mpr (by rw [hrow]; rfl)
    exact List.mem_map.mpr ⟨_, hpair, rfl⟩

/-- A row under a new key is one more pair. -/
theorem insert (hlists : Lists f rows pairs) {key : κ} (hfresh : key ∉ rows) (row : ρ) :
    Lists f (rows.insert key row) ((key, f row) :: pairs) where
  nodup := by
    rw [List.map_cons, List.nodup_cons, hlists.mem_keys_iff]
    exact ⟨hfresh, hlists.nodup⟩
  mem_iff := by
    intro other value
    rw [List.mem_cons, hlists.mem_iff, lookup_insert_eq]
    by_cases heq : other = key
    · subst heq
      simp [AList.lookup_eq_none.mpr hfresh, eq_comm]
    · simp [heq]

/-- A deleted row is a pair less. -/
theorem erase (hlists : Lists f rows pairs) (key : κ) :
    Lists f (rows.erase key) (pairs.filter fun pair => pair.1 ≠ key) where
  nodup := hlists.nodup.sublist (List.filter_sublist.map _)
  mem_iff := by
    intro other value
    rw [List.mem_filter, hlists.mem_iff, lookup_erase_eq]
    by_cases heq : other = key
    · simp [heq]
    · simp [heq]

end Lists

end Rows

end WorkGate.Library
