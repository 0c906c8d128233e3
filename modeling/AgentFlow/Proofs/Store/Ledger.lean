import AgentFlow.Proofs.SortedMap
import Mathlib.Data.List.Induction

/-!
# Collections and what has happened to them

A collection of records keeps what is there and the greatest id it has held. What has happened to it
is a log of entries, and the collection is what these entries make of an empty one: it holds under
an id what the latest entry about that id says, and no id that was ever entered is beyond its
greatest one, whatever has been removed since.
-/

namespace AgentFlow

variable {α : Type}

/-- What has happened to a collection of records. -/
inductive Entry (α : Type) where
  /-- A record was created or inserted under an id. -/
  | entered (id : Int) (record : α)
  /-- The record under an id was changed to this one. -/
  | changed (id : Int) (record : α)
  /-- The record under an id was taken away. -/
  | removed (id : Int)

namespace Entry

/-- The id that an entry is about. -/
def id : Entry α → Int
  | entered id _ => id
  | changed id _ => id
  | removed id => id

/-- The record that is there after an entry. -/
def record? : Entry α → Option α
  | entered _ record => some record
  | changed _ record => some record
  | removed _ => none

/-- The id under which a record was created or inserted. -/
def enteredId? : Entry α → Option Int
  | entered id _ => some id
  | _ => none

end Entry

/-- The ids under which records were ever created or inserted. -/
def enteredIds (log : List (Entry α)) : List Int := log.filterMap Entry.enteredId?

/-- The record under an id after all entries: that of the latest entry about the id, which has none
if the record was removed. -/
def recordIn? (log : List (Entry α)) (id : Int) : Option α :=
  (log.reverse.find? (·.id = id)).bind Entry.record?

/-- A last entry decides about its id and about no other one. -/
theorem recordIn?_concat (log : List (Entry α)) (e : Entry α) (id : Int) :
    recordIn? (log ++ [e]) id = if id = e.id then e.record? else recordIn? log id := by
  rw [recordIn?, List.reverse_concat, List.find?_cons]
  by_cases h : e.id = id
  · simp [h]
  · simp [h, Ne.symm h, recordIn?]

/-- A collection of records by id, and the greatest id it has held. -/
structure Collection (α : Type) where
  records : SortedMap Int α
  last : Int

namespace Collection

/-- The collection without records. -/
def empty : Collection α := ⟨.empty, 0⟩

/-- The collection after an entry. -/
def enter (c : Collection α) : Entry α → Collection α
  | .entered id record => ⟨c.records.insert id record, max c.last id⟩
  | .changed id record => ⟨c.records.insert id record, c.last⟩
  | .removed id => ⟨c.records.erase id, c.last⟩

/-- The collection after entries, from the first to the last. -/
def replay (c : Collection α) (log : List (Entry α)) : Collection α := log.foldl enter c

/-- Entries are replayed one after another. -/
theorem replay_append (c : Collection α) (log log' : List (Entry α)) :
    c.replay (log ++ log') = (c.replay log).replay log' :=
  List.foldl_append

/-- An entry decides what is there under its id. -/
theorem get?_enter (c : Collection α) (e : Entry α) (id : Int) :
    (c.enter e).records.get? id = if id = e.id then e.record? else c.records.get? id := by
  cases e with
  | entered i x => exact SortedMap.get?_insert c.records i id x
  | changed i x => exact SortedMap.get?_insert c.records i id x
  | removed i => exact SortedMap.get?_erase c.records i id

/-- What is there under an id is what the latest entry about it says. -/
theorem get?_replay_empty (log : List (Entry α)) (id : Int) :
    (empty.replay log).records.get? id = recordIn? log id := by
  induction log using List.reverseRecOn with
  | nil => rfl
  | append_singleton log e ih =>
    rw [replay_append, recordIn?_concat, ← ih]
    exact get?_enter _ e id

/-- The greatest id is raised to that of a new record, and by no other entry. -/
theorem last_enter (c : Collection α) (e : Entry α) :
    (c.enter e).last = e.enteredId?.elim c.last (max c.last) := by
  cases e <;> rfl

/-- The greatest id is no less than it was at the beginning and than any id entered since, and it is
one of these. -/
theorem last_replay (c : Collection α) (log : List (Entry α)) :
    c.last ≤ (c.replay log).last ∧ (∀ id ∈ enteredIds log, id ≤ (c.replay log).last) ∧
      ((c.replay log).last = c.last ∨ (c.replay log).last ∈ enteredIds log) := by
  induction log using List.reverseRecOn with
  | nil => exact ⟨Int.le_refl _, List.forall_mem_nil _, .inl rfl⟩
  | append_singleton log e ih =>
    obtain ⟨hlast, hentered, hattained⟩ := ih
    have hstep : (c.replay (log ++ [e])).last =
        e.enteredId?.elim (c.replay log).last (max (c.replay log).last) := by
      rw [replay_append]
      exact last_enter _ e
    have hids : enteredIds (log ++ [e]) = enteredIds log ++ e.enteredId?.toList := by
      rw [enteredIds, List.filterMap_append]
      cases h : e.enteredId? <;> simp [h, enteredIds]
    rw [hstep, hids]
    cases e.enteredId? with
    | none => simpa using ⟨hlast, hentered, hattained⟩
    | some id =>
      simp only [Option.elim_some, Option.toList_some, List.mem_append, List.mem_singleton]
      refine ⟨by omega, ?_, ?_⟩
      · rintro id' (hmem | rfl)
        · have := hentered id' hmem
          omega
        · omega
      · rcases Int.le_total id (c.replay log).last with hle | hle
        · rw [Int.max_eq_left hle]
          exact hattained.imp_right .inl
        · rw [Int.max_eq_right hle]
          exact .inr (.inr rfl)

/-- Every record is there under its own id, and no id is beyond the greatest one. -/
structure Sound (idOf : α → Int) (c : Collection α) : Prop where
  id_eq {id : Int} {record : α} : c.records.get? id = some record → idOf record = id
  le_last {id : Int} {record : α} : c.records.get? id = some record → id ≤ c.last

variable {idOf : α → Int} {c : Collection α}

/-- An entry suits a collection: its record has the id that the entry is about, and only a record
that is there is changed. -/
def Suits (idOf : α → Int) (c : Collection α) : Entry α → Prop
  | .entered id record => idOf record = id
  | .changed id record => idOf record = id ∧ ∃ before, c.records.get? id = some before
  | .removed _ => True

/-- The empty collection is sound. -/
theorem sound_empty : (empty : Collection α).Sound idOf := ⟨nofun, nofun⟩

/-- A sound collection is sound after an entry that suits it. -/
theorem Sound.enter (h : c.Sound idOf) {e : Entry α} (he : c.Suits idOf e) :
    (c.enter e).Sound idOf := by
  have hle : c.last ≤ (c.enter e).last := (last_replay c [e]).1
  constructor
  · intro id record hget
    rw [get?_enter] at hget
    split at hget
    next hid =>
      subst hid
      cases e with
      | entered i x => cases hget; exact he
      | changed i x => cases hget; exact he.1
      | removed i => cases hget
    · exact h.id_eq hget
  · intro id record hget
    rw [get?_enter] at hget
    split at hget
    next hid =>
      subst hid
      cases e with
      | entered i x => exact Int.le_max_right c.last i
      | changed i x =>
        obtain ⟨before, hbefore⟩ := he.2
        exact h.le_last hbefore
      | removed i => cases hget
    · exact Int.le_trans (h.le_last hget) hle

/-- A sound collection is sound after records have been entered under their own ids. -/
theorem Sound.replay_entered (h : c.Sound idOf) (records : List α) :
    (c.replay (records.map fun x => .entered (idOf x) x)).Sound idOf := by
  induction records generalizing c with
  | nil => exact h
  | cons x rest ih => exact ih (h.enter (e := .entered (idOf x) x) rfl)

end Collection

end AgentFlow
