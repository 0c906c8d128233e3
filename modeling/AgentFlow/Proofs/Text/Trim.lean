import AgentFlow.Text.Blank
import Mathlib.Data.List.TakeWhile

/-!
# Trimming

Trimming takes blanks away from both ends of a text and nothing else, and it takes away all that are
there: what stands between blanks is left alone if it neither begins nor ends with a blank.
-/

namespace AgentFlow.Text

/-- Neither the first character nor the last one is a blank. -/
def IsTight (cs : List Char) : Prop :=
  (∀ c ∈ cs.head?, isBlank c = false) ∧ ∀ c ∈ cs.getLast?, isBlank c = false

/-- A text without blanks has none at its ends. -/
theorem isTight_of_forall {cs : List Char} (h : ∀ c ∈ cs, isBlank c = false) : IsTight cs :=
  ⟨fun c hc => h c (List.mem_of_head? hc), fun c hc => h c (List.mem_of_getLast? hc)⟩

/-- What blanks at the back are dropped from begins with what is left, followed by blanks. -/
theorem exists_blanks_after_trimEnd (cs : List Char) :
    ∃ back, cs = trimEnd cs ++ back ∧ ∀ c ∈ back, isBlank c = true := by
  refine ⟨(cs.reverse.takeWhile isBlank).reverse, ?_, ?_⟩
  · rw [trimEnd, ← List.reverse_append, List.takeWhile_append_dropWhile, List.reverse_reverse]
  · intro c hc
    exact List.mem_takeWhile_imp (List.mem_reverse.mp hc)

/-- A text is what trimming leaves of it, between blanks. -/
theorem exists_blanks_around_trim (cs : List Char) :
    ∃ front back, cs = front ++ trim cs ++ back ∧ (∀ c ∈ front, isBlank c = true) ∧
      ∀ c ∈ back, isBlank c = true := by
  obtain ⟨back, hback, hblank⟩ := exists_blanks_after_trimEnd (trimStart cs)
  refine ⟨cs.takeWhile isBlank, back, ?_, ?_, hblank⟩
  · rw [List.append_assoc, trim, ← hback]
    exact List.takeWhile_append_dropWhile.symm
  · intro c hc
    exact List.mem_takeWhile_imp hc

/-- What trimming leaves neither begins nor ends with a blank. -/
theorem isTight_trim (cs : List Char) : IsTight (trim cs) := by
  constructor
  · intro c hc
    obtain ⟨back, hback, -⟩ := exists_blanks_after_trimEnd (trimStart cs)
    obtain ⟨rest, hrest⟩ := List.head?_eq_some_iff.mp hc
    rw [← trim, hrest, List.cons_append] at hback
    exact head_trimStart hback
  · intro c hc
    rw [trim, trimEnd, List.getLast?_reverse] at hc
    have hlast := List.head?_dropWhile_not isBlank (trimStart cs).reverse
    rw [hc] at hlast
    simpa using hlast

/-- Blanks are dropped up to a character that is none. -/
theorem dropWhile_isBlank_append {front rest : List Char}
    (hfront : ∀ c ∈ front, isBlank c = true) (hrest : ∀ c ∈ rest.head?, isBlank c = false) :
    (front ++ rest).dropWhile isBlank = rest := by
  rw [List.dropWhile_append_of_pos hfront]
  cases rest with
  | nil => rfl
  | cons c tail => exact List.dropWhile_cons_of_neg (by simp [hrest c rfl])

/-- A text without blanks at its ends is what trimming leaves of it between blanks. -/
theorem trim_append_append {front core back : List Char}
    (hfront : ∀ c ∈ front, isBlank c = true) (hcore : IsTight core)
    (hback : ∀ c ∈ back, isBlank c = true) : trim (front ++ core ++ back) = core := by
  cases core with
  | nil =>
    have hblank : trimStart (front ++ [] ++ back) = [] := by
      rw [trimStart, List.append_nil, List.dropWhile_eq_nil_iff]
      intro c hc
      exact (List.mem_append.mp hc).elim (hfront c) (hback c)
    rw [trim, hblank]
    rfl
  | cons first others =>
    have hstart : trimStart (front ++ first :: others ++ back) = first :: others ++ back := by
      rw [List.append_assoc]
      exact dropWhile_isBlank_append hfront hcore.1
    rw [trim, hstart, trimEnd, List.reverse_append, dropWhile_isBlank_append, List.reverse_reverse]
    · intro c hc
      exact hback c (List.mem_reverse.mp hc)
    · intro c hc
      exact hcore.2 c (by rwa [List.head?_reverse] at hc)

/-- A text is trimmed to the one that blanks surround in it and that has none at its ends. -/
theorem trimmed_eq_iff {s t : String} :
    trimmed s = t ↔ ∃ front back, s = front ++ t ++ back ∧ (∀ c ∈ front.toList, isBlank c = true) ∧
      (∀ c ∈ back.toList, isBlank c = true) ∧ IsTight t.toList := by
  constructor
  · rintro rfl
    obtain ⟨front, back, hs, hfront, hback⟩ := exists_blanks_around_trim s.toList
    refine ⟨.ofList front, .ofList back, ?_, ?_, ?_, ?_⟩
    · rw [← String.toList_inj, String.toList_append, String.toList_append, trimmed,
        String.toList_ofList, String.toList_ofList, String.toList_ofList]
      exact hs
    · rwa [String.toList_ofList]
    · rwa [String.toList_ofList]
    · rw [trimmed, String.toList_ofList]
      exact isTight_trim s.toList
  · rintro ⟨front, back, rfl, hfront, hback, ht⟩
    rw [trimmed, String.toList_append, String.toList_append, trim_append_append hfront ht hback,
      String.ofList_toList]

end AgentFlow.Text
