/-!
# Parts of texts

Texts, and other lists, taken apart at a separator. Main statements: no part holds the separator,
and joined by it the parts give the whole again.
-/

namespace AgentFlow.Text

variable {α : Type} [DecidableEq α]

/-- The parts of a list between separators: one more than there are separators. -/
def parts (separator : α) : List α → List (List α)
  | [] => [[]]
  | c :: rest =>
    if c = separator then [] :: parts separator rest
    else match parts separator rest with
      | [] => [[c]]
      | part :: more => (c :: part) :: more

/-- The parts of a text. -/
def partsOf (separator : Char) (text : String) : List String :=
  (parts separator text.toList).map String.ofList

/-- There is always a first part. -/
theorem parts_ne_nil (separator : α) (cs : List α) : parts separator cs ≠ [] := by
  cases cs with
  | nil => simp [parts]
  | cons c rest =>
    simp only [parts]
    split
    · simp
    · split <;> simp

/-- No part holds the separator. -/
theorem notMem_of_mem_parts {separator : α} {cs part : List α}
    (h : part ∈ parts separator cs) : separator ∉ part := by
  induction cs generalizing part with
  | nil => simp_all [parts]
  | cons c rest ih =>
    simp only [parts] at h
    split at h
    · rcases List.mem_cons.mp h with rfl | h
      · simp
      · exact ih h
    next hc =>
      split at h
      · simp only [List.mem_singleton] at h
        subst h
        simpa using Ne.symm hc
      next first more hparts =>
        rw [hparts] at ih
        rcases List.mem_cons.mp h with rfl | h
        · have := ih (List.mem_cons_self ..)
          simp only [List.mem_cons, not_or]
          exact ⟨Ne.symm hc, this⟩
        · exact ih (List.mem_cons_of_mem _ h)

/-- Joined by the separator, the parts give the whole again. -/
theorem intercalate_parts (separator : α) (cs : List α) :
    [separator].intercalate (parts separator cs) = cs := by
  induction cs with
  | nil => simp [parts, List.intercalate]
  | cons c rest ih =>
    have hne := parts_ne_nil separator rest
    simp only [parts]
    split
    next hc =>
      subst hc
      obtain ⟨part, more, hparts⟩ := List.exists_cons_of_ne_nil hne
      rw [hparts] at ih ⊢
      simpa [List.intercalate] using ih
    · obtain ⟨part, more, hparts⟩ := List.exists_cons_of_ne_nil hne
      rw [hparts] at ih ⊢
      cases more <;> simpa [List.intercalate] using ih

end AgentFlow.Text
