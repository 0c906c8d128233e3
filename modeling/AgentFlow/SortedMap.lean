/-!
# Maps in key order

Finite maps kept as lists of entries with strictly increasing keys: the results of a run, the
records of a store and the members of a canonical JSON object. Main statements: looking up after an
insertion or a removal, and that both keep the order.
-/

namespace AgentFlow

variable {κ α : Type}

/-- The value of the first entry with the key. -/
def lookupEntry [DecidableEq κ] (k : κ) : List (κ × α) → Option α
  | [] => none
  | (k', v) :: rest => if k' = k then some v else lookupEntry k rest

/-- Inserts an entry before the first greater key, in place of an entry with the same key. -/
def insertEntry [LT κ] [DecidableLT κ] [DecidableEq κ] (k : κ) (v : α) :
    List (κ × α) → List (κ × α)
  | [] => [(k, v)]
  | (k', v') :: rest =>
    if k < k' then (k, v) :: (k', v') :: rest
    else if k' = k then (k, v) :: rest
    else (k', v') :: insertEntry k v rest

/-- Leaves out the entries with the key. -/
def eraseEntry [DecidableEq κ] (k : κ) (entries : List (κ × α)) : List (κ × α) :=
  entries.filter (·.1 ≠ k)

/-- A strict order in which of two different keys one is less than the other. -/
class KeyOrder (κ : Type) [LT κ] : Prop where
  /-- The order is transitive. -/
  trans {a b c : κ} : a < b → b < c → a < c
  /-- Keys of which neither is less are the same. -/
  trichotomous {a b : κ} : ¬a < b → ¬b < a → a = b

instance : KeyOrder Int where
  trans := Int.lt_trans
  trichotomous hab hba := Int.le_antisymm (Int.not_lt.mp hba) (Int.not_lt.mp hab)

instance : KeyOrder String where
  trans := String.lt_trans
  trichotomous hab hba := String.le_antisymm hba hab

/-- Strictly increasing keys. -/
abbrev KeysIncrease [LT κ] (entries : List (κ × α)) : Prop :=
  entries.Pairwise fun a b => a.1 < b.1

section Laws

variable [LT κ] [DecidableLT κ] [DecidableEq κ]

theorem mem_insertEntry {k : κ} {v : α} {e : κ × α} {entries : List (κ × α)}
    (h : e ∈ insertEntry k v entries) : e = (k, v) ∨ e ∈ entries := by
  induction entries with
  | nil => simpa [insertEntry] using h
  | cons head tail ih =>
    obtain ⟨k', v'⟩ := head
    rw [insertEntry] at h
    split at h
    · grind
    · split at h <;> grind

theorem lookupEntry_insertEntry_self (k : κ) (v : α) (entries : List (κ × α)) :
    lookupEntry k (insertEntry k v entries) = some v := by
  induction entries with
  | nil => simp [insertEntry, lookupEntry]
  | cons head tail ih =>
    obtain ⟨k', v'⟩ := head
    rw [insertEntry]
    split
    · simp [lookupEntry]
    · split
      · simp [lookupEntry]
      · rename_i hne
        simp [lookupEntry, hne, ih]

theorem lookupEntry_insertEntry_of_ne {k k' : κ} (h : k ≠ k') (v : α) (entries : List (κ × α)) :
    lookupEntry k' (insertEntry k v entries) = lookupEntry k' entries := by
  induction entries with
  | nil => simp [insertEntry, lookupEntry, h]
  | cons head tail ih =>
    obtain ⟨k'', v''⟩ := head
    rw [insertEntry]
    split
    · simp [lookupEntry, h]
    · split
      · rename_i heq
        subst heq
        simp [lookupEntry, h]
      · simp [lookupEntry, ih]

omit [LT κ] [DecidableLT κ] in
theorem lookupEntry_eraseEntry (k k' : κ) (entries : List (κ × α)) :
    lookupEntry k' (eraseEntry k entries) = if k' = k then none else lookupEntry k' entries := by
  induction entries with
  | nil => simp [eraseEntry, lookupEntry]
  | cons head tail ih =>
    obtain ⟨k'', v''⟩ := head
    simp only [eraseEntry, List.filter_cons, lookupEntry] at ih ⊢
    grind [lookupEntry]

variable [KeyOrder κ]

theorem keysIncrease_insertEntry {k : κ} {v : α} {entries : List (κ × α)}
    (h : KeysIncrease entries) : KeysIncrease (insertEntry k v entries) := by
  induction entries with
  | nil => simp [insertEntry, KeysIncrease]
  | cons head tail ih =>
    obtain ⟨k', v'⟩ := head
    obtain ⟨hhead, htail⟩ := List.pairwise_cons.mp h
    rw [insertEntry]
    split
    · rename_i hlt
      refine List.pairwise_cons.mpr ⟨fun e he => ?_, h⟩
      cases List.mem_cons.mp he with
      | inl heq => exact heq ▸ hlt
      | inr hmem => exact KeyOrder.trans hlt (hhead e hmem)
    · rename_i hnlt
      split
      · rename_i heq
        subst heq
        exact List.pairwise_cons.mpr ⟨fun e he => hhead e he, htail⟩
      · rename_i hne
        refine List.pairwise_cons.mpr ⟨fun e he => ?_, ih htail⟩
        cases mem_insertEntry he with
        | inl heq =>
          subst heq
          exact Decidable.byContradiction fun hge => hne (KeyOrder.trichotomous hge hnlt)
        | inr hmem => exact hhead e hmem

end Laws

/-- A finite map with its entries in key order. -/
structure SortedMap (κ α : Type) [LT κ] where
  /-- The entries, by increasing key. -/
  entries : List (κ × α)
  sorted : KeysIncrease entries

namespace SortedMap

variable [LT κ]

/-- The map without entries. -/
def empty : SortedMap κ α := ⟨[], .nil⟩

instance : EmptyCollection (SortedMap κ α) := ⟨empty⟩
instance : Inhabited (SortedMap κ α) := ⟨empty⟩

instance [DecidableEq κ] [DecidableEq α] : DecidableEq (SortedMap κ α) := fun a b =>
  if h : a.entries = b.entries then
    .isTrue (by cases a; cases b; simp_all)
  else .isFalse fun hab => h (hab ▸ rfl)

/-- Maps with the same entries are equal. -/
@[ext]
theorem ext {a b : SortedMap κ α} (h : a.entries = b.entries) : a = b := by
  cases a; cases b; simp_all

/-- The keys, increasing. -/
def keys (m : SortedMap κ α) : List κ := m.entries.map (·.1)

/-- The values, by increasing key. -/
def values (m : SortedMap κ α) : List α := m.entries.map (·.2)

/-- The number of entries. -/
def size (m : SortedMap κ α) : Nat := m.entries.length

variable [DecidableEq κ]

/-- The value under a key. -/
def get? (m : SortedMap κ α) (k : κ) : Option α := lookupEntry k m.entries

/-- Removes a key. -/
def erase (m : SortedMap κ α) (k : κ) : SortedMap κ α :=
  ⟨eraseEntry k m.entries, m.sorted.filter _⟩

@[simp]
theorem get?_empty (k : κ) : (empty : SortedMap κ α).get? k = none := rfl

theorem get?_erase (m : SortedMap κ α) (k k' : κ) :
    (m.erase k).get? k' = if k' = k then none else m.get? k' :=
  lookupEntry_eraseEntry k k' m.entries

variable [DecidableLT κ] [KeyOrder κ]

/-- Puts a value under a key, in place of the one there. -/
def insert (m : SortedMap κ α) (k : κ) (v : α) : SortedMap κ α :=
  ⟨insertEntry k v m.entries, keysIncrease_insertEntry m.sorted⟩

/-- Inserts the entries of a list from left to right: of equal keys the last one counts. -/
def insertMany (m : SortedMap κ α) (entries : List (κ × α)) : SortedMap κ α :=
  entries.foldl (fun m e => m.insert e.1 e.2) m

/-- The map of the entries of a list. -/
def ofList (entries : List (κ × α)) : SortedMap κ α := empty.insertMany entries

theorem get?_insert (m : SortedMap κ α) (k k' : κ) (v : α) :
    (m.insert k v).get? k' = if k' = k then some v else m.get? k' := by
  split
  · rename_i heq
    exact heq ▸ lookupEntry_insertEntry_self k v m.entries
  · rename_i hne
    exact lookupEntry_insertEntry_of_ne (Ne.symm hne) v m.entries

end SortedMap

end AgentFlow
