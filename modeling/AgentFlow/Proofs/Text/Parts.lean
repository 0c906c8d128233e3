import AgentFlow.Text.Parts

/-!
# Parts and the whole

A text has one list of parts: the one without separators in its members that gives the text when it
is joined.
-/

namespace AgentFlow.Text

/-- Parts are those into which lists are split. -/
theorem parts_eq_splitOn {α : Type} [DecidableEq α] (separator : α) (cs : List α) :
    parts separator cs = cs.splitOn separator := by
  induction cs with
  | nil => rw [parts, List.splitOn_nil]
  | cons c rest ih =>
    obtain ⟨part, more, hparts⟩ := List.exists_cons_of_ne_nil (parts_ne_nil separator rest)
    rw [parts, List.splitOn_cons_eq_if_modifyHead, ← ih, hparts]
    simp only [beq_iff_eq, List.modifyHead_cons]

/-- Texts without the separator are the parts of a text if it is what they are joined to. -/
theorem partsOf_eq_iff {separator : Char} {text : String} {segments : List String}
    (hne : segments ≠ []) :
    partsOf separator text = segments ↔
      (∀ segment ∈ segments, separator ∉ segment.toList) ∧
        text = (String.singleton separator).intercalate segments := by
  constructor
  · rintro rfl
    constructor
    · intro segment hsegment
      obtain ⟨part, hpart, rfl⟩ := List.mem_map.mp hsegment
      rw [String.toList_ofList]
      exact notMem_of_mem_parts hpart
    · rw [← String.toList_inj, String.toList_intercalate, String.toList_singleton, partsOf,
        List.map_map]
      have hback : (parts separator text.toList).map (String.toList ∘ String.ofList) =
          parts separator text.toList :=
        List.map_id'' (fun _ => String.toList_ofList) _
      rw [hback, intercalate_parts]
  · rintro ⟨hplain, rfl⟩
    have hparts : parts separator ((String.singleton separator).intercalate segments).toList =
        segments.map String.toList := by
      rw [parts_eq_splitOn, String.toList_intercalate, String.toList_singleton]
      apply List.splitOn_intercalate
      · simpa only [List.forall_mem_map] using hplain
      · simpa only [ne_eq, List.map_eq_nil_iff] using hne
    rw [partsOf, hparts, List.map_map]
    exact List.map_id'' (fun _ => String.ofList_toList) _

end AgentFlow.Text
