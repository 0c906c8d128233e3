import AgentFlow.Codec.Record
import Mathlib.Data.List.Basic
import Mathlib.Logic.Function.Basic

/-!
# What is written tells what it was written for

Different strings, lists, maps and records are written as different values. A record may leave out a
field that is null; since no two of its fields have one name, the members that are there tell which
ones are left out.
-/

namespace AgentFlow

variable {α σ τ : Type}

namespace Codec

/-- Strings are told from what is written for them. -/
theorem write_string_injective : Function.Injective string.write := fun _ _ => Json.string.inj

/-- Lists are told from what is written for them, if their elements are. -/
theorem write_list_injective {c : Codec α} (hc : Function.Injective c.write) :
    Function.Injective (list c).write := by
  intro xs ys h
  exact List.map_injective_iff.mpr hc (Json.array.inj h)

/-- Maps are told from what is written for them, if their values are. -/
theorem write_stringMap_injective {c : Codec α} (hc : Function.Injective c.write) :
    Function.Injective (stringMap c).write := by
  have hentry : Function.Injective fun (k, x) => ((k, c.write x) : String × Json) := by
    rintro ⟨k, x⟩ ⟨k', x'⟩ h
    obtain ⟨hkey, hvalue⟩ := Prod.mk.inj h
    exact Prod.ext hkey (hc hvalue)
  intro m m' h
  exact SortedMap.ext (List.map_injective_iff.mpr hentry (Json.object.inj h))

/-- Values that may be missing are told from what is written for them, if those that are there are,
and none of these is written as null. -/
theorem write_optional_injective {c : Codec α} (hc : Function.Injective c.write)
    (hnull : ∀ x, c.write x ≠ .null) : Function.Injective (optional c).write := by
  rintro (_ | x) (_ | y) h
  · rfl
  · exact absurd h.symm (hnull y)
  · exact absurd h (hnull x)
  · exact congrArg some (hc h)

/-- Strings that may be missing are told from what is written for them. -/
theorem write_optional_string_injective : Function.Injective (optional string).write :=
  write_optional_injective write_string_injective fun _ => nofun

end Codec

namespace Fields

/-- The names of fields, in order. -/
def names {σ τ : Type} : Fields σ τ → List String
  | nil => []
  | cons field rest => field.name :: rest.names

/-- The fields tell their values: different values of a field are written differently, all values
that are left out are one, and each field has a name of its own. -/
inductive Tell : {σ τ : Type} → Fields σ τ → Prop
  | nil : Tell .nil
  | cons {α σ τ : Type} {field : Field α} {rest : Fields σ τ} :
      Function.Injective field.codec.write →
      (∀ x y, field.hides x = true → field.hides y = true → x = y) →
      field.name ∉ rest.names → Tell rest → Tell (.cons field rest)

/-- A field that must be given or has a default is always written. -/
theorem Tell.shown {field : Field α} {rest : Fields σ τ}
    (hwrite : Function.Injective field.codec.write) (hname : field.name ∉ rest.names)
    (hrest : rest.Tell) (hshown : ∀ x, field.hides x = false) : (Fields.cons field rest).Tell :=
  .cons hwrite (fun x _ hx => by rw [hshown x] at hx; cases hx) hname hrest

/-- Only members with the names of fields are written. -/
theorem name_mem_of_mem_write {fields : Fields σ τ} {x : τ} {member : String × Json}
    (h : member ∈ fields.write x) : member.1 ∈ fields.names := by
  induction fields with
  | nil => cases h
  | cons field rest ih =>
    obtain ⟨x, xs⟩ := x
    rw [write] at h
    rw [names, List.mem_cons]
    split at h
    · exact .inr (ih h)
    · rcases List.mem_cons.mp h with rfl | hrest
      · exact .inl rfl
      · exact .inr (ih hrest)

/-- The members that are written for fields that tell their values determine these. -/
theorem Tell.write_injective {fields : Fields σ τ} (h : fields.Tell) :
    Function.Injective fields.write := by
  induction h with
  | nil => exact fun _ _ _ => rfl
  | @cons α σ τ field rest hwrite hhidden hname _ ih =>
    -- A field that is left out on one side only would have its name among the later fields.
    have hmissing {x : α} {xs ys : τ} : (field.name, field.codec.write x) :: rest.write xs ≠
        rest.write ys := by
      intro heq
      exact hname (name_mem_of_mem_write (heq ▸ List.mem_cons_self))
    rintro ⟨x, xs⟩ ⟨y, ys⟩ heq
    simp only [write] at heq
    split at heq <;> split at heq
    next hx hy => rw [hhidden x y hx hy, ih heq]
    next => exact absurd heq.symm hmissing
    next => exact absurd heq hmissing
    next =>
      obtain ⟨hhead, htail⟩ := List.cons.inj heq
      rw [hwrite (Prod.mk.inj hhead).2, ih htail]

end Fields

/-- Records are told from what is written for them, if they are told from the values of their fields
and these from the members that are written. -/
theorem Record.write_injective {r : Record σ τ α} (hfields : r.fields.Tell)
    (hvalues : Function.Injective r.toFields) : Function.Injective r.codec.write := by
  intro x y h
  exact hvalues (hfields.write_injective (Json.object.inj h))

end AgentFlow
