import AgentFlow.Proofs.Json.Numbers
import AgentFlow.Proofs.Number.Integer
import AgentFlow.Proofs.Text.Trim
import AgentFlow.Task

/-!
# The step of an entry

What an entry of a task list may state as its step, and what is read from it: a whole number in any
of the ways it may be written, taken for the nearest one of 64 bits. An entry describes a task
exactly if it is an object that states a step; its other members have no say in that.
-/

namespace AgentFlow

open Number

/-- The value of a step member states a step: without a value, or with null, it is zero; a number
states itself, and a text the integer that it writes in decimal between blanks. -/
inductive StatesStep : Option Json → Int → Prop
  | absent : StatesStep none 0
  | null : StatesStep (some .null) 0
  | number {v : Json} {n : Int} : v.number? = some (n : Rat) → StatesStep (some v) n
  | text {s : String} {front core back : List Char} {n : Int} :
      s.toList = front ++ core ++ back → (∀ c ∈ front, Text.isBlank c = true) →
      (∀ c ∈ back, Text.isBlank c = true) → WritesInt core n →
      IntRange.int64.contains n = true → StatesStep (some (.string s)) n

/-- An entry is one of a task: an object whose step member states a step. -/
def IsTaskEntry (item : Json) : Prop :=
  ∃ members n, item = .object members ∧ StatesStep (item.member? "step") n

/-- The task of an entry: its step is the integer of 64 bits nearest to the one stated. -/
def IsTaskOf (item : Json) (task : Task) : Prop :=
  ∃ n, StatesStep (item.member? "step") n ∧
    task = ⟨IntRange.int64.clamp n, Task.agentOf item, Task.instructionOf item⟩

namespace Task

variable {item : Json} {n k : Int}

/-- A text is read as an integer exactly if it writes that integer between blanks. -/
theorem writtenInt?_eq_some_iff {s : String} :
    writtenInt? s = some n ↔ ∃ front core back, s.toList = front ++ core ++ back ∧
      (∀ c ∈ front, Text.isBlank c = true) ∧ (∀ c ∈ back, Text.isBlank c = true) ∧
      WritesInt core n ∧ IntRange.int64.contains n = true := by
  rw [writtenInt?, readInt?_eq_some_iff (by decide)]
  constructor
  · intro h
    obtain ⟨front, back, hs, hfront, hback⟩ := Text.exists_blanks_around_trim s.toList
    exact ⟨front, _, back, hs, hfront, hback, h⟩
  · rintro ⟨front, core, back, hs, hfront, hback, hcore, hrange⟩
    have htight := Text.isTight_of_forall hcore.not_isBlank
    rw [hs, Text.trim_append_append hfront htight hback]
    exact ⟨hcore, hrange⟩

/-- The value of a member is given unless it is null. -/
theorem given?_eq_member? {name : String} (hnull : item.member? name ≠ some .null) :
    given? item name = item.member? name := by
  rw [given?]
  split
  next h => exact absurd h hnull
  · rfl

/-- A floating-point number is taken for the nearest integer of a signed word if it is whole. -/
theorem clampedInt?_eq_some_iff {x : Double} :
    clampedInt? x = some k ↔ ∃ n : Int, x.value? = some (n : Rat) ∧ k = IntRange.int64.clamp n := by
  rw [clampedInt?, Option.map_eq_some_iff]
  constructor
  · rintro ⟨n, hn, rfl⟩
    exact ⟨n, Binary.toInt?_eq_some_iff.mp hn, rfl⟩
  · rintro ⟨n, hn, rfl⟩
    exact ⟨n, Binary.toInt?_eq_some_iff.mpr hn, rfl⟩

/-- A whole number of a word is its own, or a double that is taken for the nearest one of a signed
word in its place. -/
theorem intOrDouble_cases (hword : Json.IsWord n) :
    intOrDouble n = .inl n ∧ IntRange.int64.clamp n = n ∨
      ∃ x, intOrDouble n = .inr x ∧ clampedInt? x = some (IntRange.int64.clamp n) := by
  rw [intOrDouble]
  by_cases hsigned : IntRange.int64.contains n = true
  · rw [if_pos hsigned]
    exact .inl ⟨rfl, IntRange.clamp_of_contains hsigned⟩
  · -- Only integers from `2 ^ 63` on are left, and their doubles are whole and lie beyond it too.
    have hunsigned := IntRange.contains_iff.mp (hword.resolve_left hsigned)
    have hbeyond : 2 ^ 63 ≤ n ∧ n < 2 ^ 64 := by
      rw [IntRange.contains_iff] at hsigned
      simp only [IntRange.int64, IntRange.uint64] at hsigned hunsigned
      omega
    have hgreatest : IntRange.int64.greatest < 2 ^ 63 := by decide
    obtain ⟨m, hm, hle⟩ := Binary.toInt?_ofInt_of_wide hbeyond.1 hbeyond.2
    refine .inr ⟨_, by rw [if_neg hsigned], ?_⟩
    rw [clampedInt?, hm, Option.map_some, IntRange.clamp_of_greatest_le (by omega),
      IntRange.clamp_of_greatest_le (by omega)]

/-- A whole number of a word is taken for the nearest one of a signed word. -/
theorem stepOf_int (hword : Json.IsWord n) :
    stepOf (some (.int n)) = .ok (IntRange.int64.clamp n) := by
  rcases intOrDouble_cases hword with ⟨hint, hclamp⟩ | ⟨x, hdouble, hclamp⟩
  · simp only [stepOf, hint, hclamp]
  · simp only [stepOf, hdouble, hclamp, Option.elim_some]

/-- A floating-point number is a step if it is whole. -/
theorem stepOf_float_eq_ok_iff {x : Double} :
    stepOf (some (.float x)) = .ok k ↔
      ∃ n : Int, x.value? = some (n : Rat) ∧ k = IntRange.int64.clamp n := by
  rw [stepOf, ← clampedInt?_eq_some_iff]
  cases clampedInt? x <;> simp

/-- A text is taken for the integer that it writes between blanks. -/
theorem stepOf_string_eq_ok_iff {s : String} :
    stepOf (some (.string s)) = .ok k ↔ writtenInt? s = some k := by
  rw [stepOf]
  cases writtenInt? s <;> simp

/-- What is read from a value is the step that it states, taken for the nearest integer of a signed
word. -/
theorem stepOf_some_eq_ok_iff {v : Json} (hnull : v ≠ .null) (hwords : v.InWords) :
    stepOf (some v) = .ok k ↔ ∃ n, StatesStep (some v) n ∧ k = IntRange.int64.clamp n := by
  cases v with
  | null => exact absurd rfl hnull
  | int m =>
    rw [stepOf_int hwords, Except.ok.injEq, eq_comm]
    refine ⟨fun h => ⟨m, .number rfl, h⟩, ?_⟩
    rintro ⟨n, h, hk⟩
    cases h with
    | number h =>
      rw [Json.number?, Option.some.injEq, Int.cast_inj] at h
      rw [hk, h]
  | float x =>
    rw [stepOf_float_eq_ok_iff]
    refine ⟨fun ⟨n, h, hk⟩ => ⟨n, .number h, hk⟩, ?_⟩
    rintro ⟨n, h, hk⟩
    cases h with
    | number h => exact ⟨n, h, hk⟩
  | string s =>
    rw [stepOf_string_eq_ok_iff]
    constructor
    · intro h
      obtain ⟨front, core, back, hs, hfront, hback, hcore, hrange⟩ := writtenInt?_eq_some_iff.mp h
      exact ⟨k, .text hs hfront hback hcore hrange, (IntRange.clamp_of_contains hrange).symm⟩
    · rintro ⟨n, h, rfl⟩
      cases h with
      | number h => cases h
      | text hs hfront hback hcore hrange =>
        rw [IntRange.clamp_of_contains hrange]
        exact writtenInt?_eq_some_iff.mpr ⟨_, _, _, hs, hfront, hback, hcore, hrange⟩
  | bool _ | array _ | object _ =>
    refine ⟨nofun, ?_⟩
    rintro ⟨n, h, _⟩
    cases h with
    | number h => cases h

/-- The step of an entry is what its step member states, taken for the nearest integer of a signed
word. -/
theorem stepOf_given?_eq_ok_iff (hwords : item.InWords) :
    stepOf (given? item "step") = .ok k ↔
      ∃ n, StatesStep (item.member? "step") n ∧ k = IntRange.int64.clamp n := by
  by_cases hnull : item.member? "step" = some .null
  · rw [given?, hnull, stepOf, Except.ok.injEq]
    refine ⟨fun hk => ⟨0, .null, hk.symm⟩, ?_⟩
    rintro ⟨n, h, rfl⟩
    cases h with
    | null => rfl
    | number h => cases h
  · rw [given?_eq_member? hnull]
    cases hmember : item.member? "step" with
    | some v =>
      refine stepOf_some_eq_ok_iff ?_ (hwords.member? hmember)
      rintro rfl
      exact hnull hmember
    | none =>
      rw [stepOf, Except.ok.injEq]
      refine ⟨fun hk => ⟨0, .absent, hk.symm⟩, ?_⟩
      rintro ⟨n, h, rfl⟩
      cases h
      rfl

/-- The task of an entry is made of the step that it states, its agent and its instruction. -/
theorem ofEntry_eq_ok_iff {task : Task} (hwords : item.InWords) :
    ofEntry item = .ok task ↔ (∃ members, item = .object members) ∧ IsTaskOf item task := by
  cases item with
  | object members =>
    rw [ofEntry]
    constructor
    · intro h
      cases hstep : stepOf (given? (.object members) "step") with
      | error fault =>
        rw [hstep] at h
        cases h
      | ok k =>
        obtain ⟨n, hn, rfl⟩ := (stepOf_given?_eq_ok_iff hwords).mp hstep
        rw [hstep] at h
        exact ⟨⟨members, rfl⟩, n, hn, (Except.ok.inj h).symm⟩
    · rintro ⟨_, n, hn, rfl⟩
      rw [(stepOf_given?_eq_ok_iff hwords).mpr ⟨n, hn, rfl⟩]
      rfl
  | _ =>
    refine ⟨nofun, ?_⟩
    rintro ⟨⟨_, h⟩, _⟩
    cases h

/-- The entries that describe tasks are the objects that state a step. -/
theorem exists_ofEntry_iff (hwords : item.InWords) :
    (∃ task, ofEntry item = .ok task) ↔ IsTaskEntry item := by
  constructor
  · rintro ⟨task, h⟩
    obtain ⟨⟨members, hitem⟩, n, hn, _⟩ := (ofEntry_eq_ok_iff hwords).mp h
    exact ⟨members, n, hitem, hn⟩
  · rintro ⟨members, n, hitem, hn⟩
    exact ⟨_, (ofEntry_eq_ok_iff hwords).mpr ⟨⟨members, hitem⟩, n, hn, rfl⟩⟩

/-- A step that is not given, or given as null, counts as zero. -/
theorem step_eq_zero {task : Task} (h : IsTaskOf item task)
    (hstep : item.member? "step" = none ∨ item.member? "step" = some .null) : task.step = 0 := by
  obtain ⟨n, hn, rfl⟩ := h
  have hzero : n = 0 := by
    rcases hstep with hstep | hstep
    · rw [hstep] at hn
      cases hn
      rfl
    · rw [hstep] at hn
      cases hn with
      | null => rfl
      | number h => cases h
  rw [hzero]
  rfl

end Task

end AgentFlow
