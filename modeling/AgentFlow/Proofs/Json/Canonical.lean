import AgentFlow.Json.Basic
import AgentFlow.Proofs.SortedMap

/-!
# Canonical values

The canonical form of a value is canonical: its objects have each key once, with the value that came
last. A canonical value is its own canonical form: members that come by increasing keys are inserted
one after another at the end.
-/

namespace AgentFlow

namespace Json

/-- The canonical elements of an array are those of its elements. -/
theorem canonicalItems_eq_map (items : List Json) :
    canonicalItems items = items.map canonical := by
  induction items with
  | nil => rfl
  | cons v rest ih => rw [canonicalItems, ih, List.map_cons]

mutual

/-- A canonical value is its own canonical form. -/
theorem canonical_eq_self : ∀ v : Json, v.Canonical → v.canonical = v
  | null, _ | bool _, _ | int _, _ | float _, _ | string _, _ => rfl
  | array items, h => by rw [canonical, canonicalItems_eq_self items h]
  | object members, ⟨hkeys, h⟩ => by
    rw [canonical, canonicalMembers_eq_append members [] hkeys h, List.nil_append]
termination_by structural v => v

/-- Canonical elements are their own canonical forms. -/
theorem canonicalItems_eq_self : ∀ items : List Json, CanonicalItems items →
    canonicalItems items = items
  | [], _ => rfl
  | v :: rest, ⟨hv, hrest⟩ => by
    rw [canonicalItems, canonical_eq_self v hv, canonicalItems_eq_self rest hrest]
termination_by structural items => items

/-- Canonical members with keys beyond those before them are put behind them as they are. -/
theorem canonicalMembers_eq_append : ∀ (members done : List (String × Json)),
    KeysIncrease (done ++ members) → CanonicalMembers members →
      canonicalMembers done members = done ++ members
  | [], done, _, _ => (List.append_nil done).symm
  | (k, v) :: rest, done, hkeys, ⟨hv, hrest⟩ => by
    have hinsert : insertEntry k v done = done ++ [(k, v)] :=
      insertEntry_of_keysIncrease String.lt_irrefl hkeys
    have hsplit : done ++ (k, v) :: rest = done ++ [(k, v)] ++ rest := by simp
    rw [hsplit] at hkeys ⊢
    rw [canonicalMembers, canonical_eq_self v hv, hinsert,
      canonicalMembers_eq_append rest _ hkeys hrest]
termination_by structural members => members

end

/-! ### Canonical forms -/

/-- Members are canonical if the value of each of them is. -/
theorem canonicalMembers_iff {members : List (String × Json)} :
    CanonicalMembers members ↔ ∀ m ∈ members, m.2.Canonical := by
  induction members with
  | nil => exact iff_of_true trivial (List.forall_mem_nil _)
  | cons m rest ih =>
    obtain ⟨k, v⟩ := m
    rw [CanonicalMembers, ih, List.forall_mem_cons]

mutual

/-- The canonical form of a value is canonical. -/
theorem canonical_canonical : ∀ v : Json, v.canonical.Canonical
  | null | bool _ | int _ | float _ | string _ => trivial
  | array items => canonicalItems_canonicalItems items
  | object members => canonicalMembers_canonicalMembers members [] .nil trivial
termination_by structural v => v

/-- The canonical forms of elements are canonical. -/
theorem canonicalItems_canonicalItems :
    ∀ items : List Json, CanonicalItems (canonicalItems items)
  | [] => trivial
  | v :: rest => ⟨canonical_canonical v, canonicalItems_canonicalItems rest⟩
termination_by structural items => items

/-- Members that are inserted into canonical ones leave them canonical, their keys increasing. -/
theorem canonicalMembers_canonicalMembers : ∀ members done : List (String × Json),
    KeysIncrease done → CanonicalMembers done →
      KeysIncrease (canonicalMembers done members) ∧
        CanonicalMembers (canonicalMembers done members)
  | [], done, hkeys, hdone => ⟨hkeys, hdone⟩
  | (k, v) :: rest, done, hkeys, hdone => by
    refine canonicalMembers_canonicalMembers rest _ (keysIncrease_insertEntry hkeys) ?_
    refine canonicalMembers_iff.mpr fun m hm => ?_
    rcases mem_insertEntry hm with rfl | hm
    · exact canonical_canonical v
    · exact canonicalMembers_iff.mp hdone m hm
termination_by structural members => members

end

/-- In a canonical object the members are what is found under their keys. -/
theorem lookupEntry_eq_some_iff_of_keysIncrease {members : List (String × Json)}
    (h : KeysIncrease members) {k : String} {v : Json} :
    lookupEntry k members = some v ↔ (k, v) ∈ members :=
  lookupEntry_eq_some_iff (SortedMap.nodup_keys String.lt_irrefl ⟨members, h⟩)

/-- Members with different keys are all found in the canonical form. -/
theorem lookupEntry_canonicalMembers {members : List (String × Json)}
    (h : (members.map Prod.fst).Nodup) (done : List (String × Json)) (k : String) :
    lookupEntry k (canonicalMembers done members) =
      ((lookupEntry k members).map canonical).or (lookupEntry k done) := by
  induction members generalizing done with
  | nil => rfl
  | cons m rest ih =>
    obtain ⟨k', v⟩ := m
    obtain ⟨hnotMem, hrest⟩ := List.nodup_cons.mp h
    rw [canonicalMembers, ih hrest, lookupEntry]
    by_cases hkey : k' = k
    · subst hkey
      have hnone : lookupEntry k' rest = none := lookupEntry_eq_none_iff.mpr hnotMem
      rw [hnone, if_pos rfl, lookupEntry_insertEntry_self]
      rfl
    · rw [if_neg hkey, lookupEntry_insertEntry_of_ne hkey]

/-- The members of a canonical form, if the keys are different, are those that there are. -/
theorem mem_canonicalMembers_iff {members : List (String × Json)}
    (h : (members.map Prod.fst).Nodup) {k : String} {v : Json} :
    (k, v) ∈ canonicalMembers [] members ↔ ∃ w, (k, w) ∈ members ∧ w.canonical = v := by
  have hkeys := (canonicalMembers_canonicalMembers members [] .nil trivial).1
  rw [← lookupEntry_eq_some_iff_of_keysIncrease hkeys, lookupEntry_canonicalMembers h]
  simp only [lookupEntry, Option.or_none, Option.map_eq_some_iff, lookupEntry_eq_some_iff h]

end Json

end AgentFlow
