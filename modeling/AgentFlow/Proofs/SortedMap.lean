import AgentFlow.SortedMap
import Mathlib.Data.List.Nodup

/-!
# Looking up in a map after many insertions

Inserting a list of entries leaves under each key the last value that the list gives it. The entries
of a map have each key once, so that inserting all of them lets the inserted map come before the
other one, and inserting them into the empty map gives the map again.
-/

namespace AgentFlow

variable {κ α : Type}

/-- No key of a map occurs twice, where no key is less than itself. -/
theorem SortedMap.nodup_keys [LT κ] (hirrefl : ∀ k : κ, ¬ k < k) (m : SortedMap κ α) :
    (m.entries.map Prod.fst).Nodup := by
  rw [List.nodup_iff_pairwise_ne, List.pairwise_map]
  apply m.sorted.imp
  intro a b hlt heq
  exact hirrefl a.1 (heq ▸ hlt)

variable [DecidableEq κ]

/-- Only keys that occur among the entries are found. -/
theorem lookupEntry_eq_none_iff {k : κ} {entries : List (κ × α)} :
    lookupEntry k entries = none ↔ k ∉ entries.map Prod.fst := by
  induction entries with
  | nil => simp [lookupEntry]
  | cons entry rest ih =>
    obtain ⟨k', v⟩ := entry
    rw [lookupEntry, List.map_cons, List.mem_cons, not_or]
    split
    · rename_i heq
      simp [heq]
    · rename_i hne
      rw [ih]
      simp [Ne.symm hne]

/-- Where keys do not repeat, what is found under a key is the value of its only entry. -/
theorem lookupEntry_eq_some_iff {k : κ} {v : α} {entries : List (κ × α)}
    (h : (entries.map Prod.fst).Nodup) : lookupEntry k entries = some v ↔ (k, v) ∈ entries := by
  induction entries with
  | nil => simp [lookupEntry]
  | cons entry rest ih =>
    obtain ⟨k', v'⟩ := entry
    obtain ⟨hnew, hrest⟩ := List.nodup_cons.mp h
    rw [lookupEntry, List.mem_cons, Prod.mk.injEq]
    by_cases hk : k' = k
    · subst hk
      have hmem : (k', v) ∉ rest := fun hmem => hnew (List.mem_map.mpr ⟨_, hmem, rfl⟩)
      simp [hmem, eq_comm]
    · simp [hk, Ne.symm hk, ih hrest]

/-- An entry with a key beyond all others is inserted at the end. -/
theorem insertEntry_of_keysIncrease [LT κ] [DecidableLT κ] [KeyOrder κ]
    (hirrefl : ∀ k : κ, ¬ k < k) {k : κ} {v : α} {entries rest : List (κ × α)}
    (h : KeysIncrease (entries ++ (k, v) :: rest)) :
    insertEntry k v entries = entries ++ [(k, v)] := by
  induction entries with
  | nil => rfl
  | cons e entries ih =>
    obtain ⟨hfirst, hmore⟩ := List.pairwise_cons.mp h
    have hlt : e.1 < k := hfirst (k, v) (by simp)
    have hnlt : ¬ k < e.1 := fun hgt => hirrefl k (KeyOrder.trans hgt hlt)
    have hne : e.1 ≠ k := by
      rintro rfl
      exact hirrefl e.1 hlt
    rw [insertEntry, if_neg hnlt, if_neg hne, ih hmore, List.cons_append]

namespace SortedMap

variable [LT κ]

/-- The entries of a map are what is found under their keys. -/
theorem mem_entries_iff (hirrefl : ∀ k : κ, ¬ k < k) {m : SortedMap κ α} {k : κ} {v : α} :
    (k, v) ∈ m.entries ↔ m.get? k = some v :=
  (lookupEntry_eq_some_iff (m.nodup_keys hirrefl)).symm

/-- The keys of a map are those that have a value. -/
theorem mem_keys_iff {m : SortedMap κ α} {k : κ} : k ∈ m.keys ↔ (m.get? k).isSome = true := by
  rw [Option.isSome_iff_ne_none, Ne, get?, lookupEntry_eq_none_iff, not_not]
  rfl

/-- Maps with the same value under every key are the same. -/
theorem ext_get? [KeyOrder κ] (hirrefl : ∀ k : κ, ¬ k < k)
    {m m' : SortedMap κ α} (h : ∀ k, m.get? k = m'.get? k) : m = m' := by
  have hnodup (m : SortedMap κ α) : m.entries.Nodup := .of_map Prod.fst (m.nodup_keys hirrefl)
  have hperm : m.entries.Perm m'.entries := by
    rw [List.perm_ext_iff_of_nodup (hnodup m) (hnodup m')]
    rintro ⟨k, v⟩
    rw [mem_entries_iff hirrefl, mem_entries_iff hirrefl, h]
  apply SortedMap.ext
  refine hperm.eq_of_pairwise ?_ m.sorted m'.sorted
  intro a b _ _ hab hba
  exact absurd (KeyOrder.trans hab hba) (hirrefl a.1)

variable [DecidableLT κ] [KeyOrder κ]

/-- Inserting entries with keys of their own: the value under a key is the one that they give it, if
they do. -/
theorem get?_insertMany_of_nodup {entries : List (κ × α)} (h : (entries.map Prod.fst).Nodup)
    (m : SortedMap κ α) (k : κ) :
    (m.insertMany entries).get? k = (lookupEntry k entries).or (m.get? k) := by
  induction entries generalizing m with
  | nil => rfl
  | cons entry rest ih =>
    obtain ⟨k', v⟩ := entry
    obtain ⟨hnew, hrest⟩ := List.nodup_cons.mp h
    have hstep : (m.insertMany ((k', v) :: rest)).get? k =
        ((m.insert k' v).insertMany rest).get? k := rfl
    rw [hstep, ih hrest, get?_insert, lookupEntry]
    by_cases hk : k = k'
    · subst hk
      rw [lookupEntry_eq_none_iff.mpr hnew]
      simp
    · simp [hk, Ne.symm hk]

/-- Entries with keys beyond those of a map, and increasing ones, are put behind its own. -/
theorem entries_insertMany (hirrefl : ∀ k : κ, ¬ k < k) {m : SortedMap κ α}
    {entries : List (κ × α)} (h : KeysIncrease (m.entries ++ entries)) :
    (m.insertMany entries).entries = m.entries ++ entries := by
  induction entries generalizing m with
  | nil => simp [insertMany]
  | cons entry rest ih =>
    obtain ⟨k, v⟩ := entry
    have hinsert : (m.insert k v).entries = m.entries ++ [(k, v)] :=
      insertEntry_of_keysIncrease hirrefl h
    have hsplit : m.entries ++ (k, v) :: rest = (m.insert k v).entries ++ rest := by
      simp [hinsert]
    rw [hsplit] at h ⊢
    exact ih h

/-- A map is made of its entries. -/
theorem ofList_entries (hirrefl : ∀ k : κ, ¬ k < k) (m : SortedMap κ α) : ofList m.entries = m := by
  apply SortedMap.ext
  exact entries_insertMany hirrefl (m := empty) m.sorted

end SortedMap

end AgentFlow
