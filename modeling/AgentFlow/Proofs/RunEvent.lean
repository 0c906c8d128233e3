import AgentFlow.Proofs.Codec
import AgentFlow.RunEvent

/-!
# Events are told from what is written for them

Different events are written as different values: the kind is written, and so is every part of an
event of that kind. The same holds of messages, updates and states.
-/

namespace AgentFlow

open Fields

/-- Messages are told from what is written for them, although a missing name is left out. -/
theorem Message.write_injective : Function.Injective Message.codec.write := by
  refine Record.write_injective ?_ ?_
  · refine .shown Codec.write_string_injective (by decide) ?_ fun _ => rfl
    refine .shown Codec.write_string_injective (by decide) ?_ fun _ => rfl
    refine .cons Codec.write_optional_string_injective ?_ (by decide) .nil
    intro x y hx hy
    rw [Option.isNone_iff_eq_none.mp hx, Option.isNone_iff_eq_none.mp hy]
  · rintro ⟨role, content, name⟩ ⟨role', content', name'⟩ h
    cases h
    rfl

/-- Lists of messages are told from what is written for them. -/
theorem Message.write_list_injective : Function.Injective (Codec.list Message.codec).write :=
  Codec.write_list_injective Message.write_injective

/-- Results are told from what is written for them. -/
theorem Results.write_injective :
    Function.Injective (Codec.stringMap .string : Codec Results).write :=
  Codec.write_stringMap_injective Codec.write_string_injective

/-- States are told from what is written for them. -/
theorem ExecutionState.write_injective : Function.Injective ExecutionState.codec.write := by
  refine Record.write_injective ?_ ?_
  · refine .shown Message.write_list_injective (by decide) ?_ fun _ => rfl
    refine .shown Codec.write_string_injective (by decide) ?_ fun _ => rfl
    exact .shown Results.write_injective (by decide) .nil fun _ => rfl
  · rintro ⟨messages, agent, results⟩ ⟨messages', agent', results'⟩ h
    cases h
    rfl

/-- Updates are told from what is written for them. -/
theorem StateUpdate.write_injective : Function.Injective StateUpdate.codec.write := by
  refine Record.write_injective ?_ ?_
  · refine .shown Message.write_list_injective (by decide) ?_ fun _ => rfl
    refine .shown Results.write_injective (by decide) ?_ fun _ => rfl
    exact .shown Codec.write_optional_string_injective (by decide) .nil fun _ => rfl
  · rintro ⟨messages, results, agent⟩ ⟨messages', results', agent'⟩ h
    cases h
    rfl

namespace RunEvent

/-- The fields of a step's begin tell their values. -/
theorem startedFields_tell : startedFields.Tell := by
  refine .shown Codec.write_string_injective (by decide) ?_ fun _ => rfl
  exact .shown Codec.write_string_injective (by decide) .nil fun _ => rfl

/-- The fields of a step's end tell their values. -/
theorem completedFields_tell : completedFields.Tell := by
  refine .shown Codec.write_string_injective (by decide) ?_ fun _ => rfl
  exact .shown StateUpdate.write_injective (by decide) .nil fun _ => rfl

/-- The fields of the end of a run tell their values. -/
theorem finishedFields_tell : finishedFields.Tell :=
  .shown ExecutionState.write_injective (by decide) .nil fun _ => rfl

/-- The fields of a run's failure tell their values. -/
theorem failedFields_tell : failedFields.Tell := by
  refine .shown Codec.write_optional_string_injective (by decide) ?_ fun _ => rfl
  exact .shown Codec.write_string_injective (by decide) .nil fun _ => rfl

/-- Events that are written the same have one kind, and their members are written the same. -/
theorem eq_of_object_eq {kind kind' : String} {members members' : List (String × Json)}
    (h : Json.object ((tag, .string kind) :: members) =
      .object ((tag, .string kind') :: members')) : kind = kind' ∧ members = members' := by
  obtain ⟨hhead, htail⟩ := List.cons.inj (Json.object.inj h)
  exact ⟨Json.string.inj (Prod.mk.inj hhead).2, htail⟩

/-- **Events.** Different events are written as different values. -/
theorem toJson_injective : Function.Injective toJson := by
  rintro (⟨node, agent⟩ | ⟨node, update⟩ | state | ⟨node?, error⟩)
    (⟨node', agent'⟩ | ⟨node', update'⟩ | state' | ⟨node?', error'⟩) h
  all_goals
    simp only [toJson] at h
    obtain ⟨hkind, hmembers⟩ := eq_of_object_eq h
    -- What is left are events of one kind.
    simp only [String.reduceEq] at hkind
  · cases startedFields_tell.write_injective hmembers
    rfl
  · cases completedFields_tell.write_injective hmembers
    rfl
  · cases finishedFields_tell.write_injective hmembers
    rfl
  · cases failedFields_tell.write_injective hmembers
    rfl

end RunEvent

end AgentFlow
