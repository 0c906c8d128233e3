import AgentFlow.Json.Basic
import AgentFlow.Number.Integer
import AgentFlow.Proofs.Number.Binary

/-!
# The numbers of JSON values

A JSON number is a whole number of a word of 64 bits, with or without a sign, or a floating-point
number. The integers of values are unbounded here; a value that JSON numbers make up has none beyond
these words, and neither have its parts.
-/

namespace AgentFlow

open Number

namespace Json

/-- The number that a value is, whichever way it is kept. -/
def number? : Json → Option Rat
  | int n => some n
  | float x => x.value?
  | _ => none

/-- An integer that some word of 64 bits holds, one with a sign or one without. -/
def IsWord (n : Int) : Prop :=
  IntRange.int64.contains n = true ∨ IntRange.uint64.contains n = true

mutual

/-- Words of 64 bits hold the integers of a value. -/
def InWords : Json → Prop
  | int n => IsWord n
  | array items => InWordsItems items
  | object members => InWordsMembers members
  | _ => True
termination_by structural v => v

/-- Words hold the integers of every element. -/
def InWordsItems : List Json → Prop
  | [] => True
  | v :: rest => InWords v ∧ InWordsItems rest
termination_by structural items => items

/-- Words hold the integers of every member's value. -/
def InWordsMembers : List (String × Json) → Prop
  | [] => True
  | (_, v) :: rest => InWords v ∧ InWordsMembers rest
termination_by structural members => members

end

/-- Words hold the integers of any member that is found. -/
theorem InWordsMembers.lookupEntry {members : List (String × Json)} {name : String} {v : Json}
    (h : InWordsMembers members) (hfound : lookupEntry name members = some v) : v.InWords := by
  induction members with
  | nil => cases hfound
  | cons member rest ih =>
    obtain ⟨name', v'⟩ := member
    rw [AgentFlow.lookupEntry] at hfound
    split at hfound
    · cases hfound
      exact h.1
    · exact ih h.2 hfound

/-- Words hold the integers of a member of a value that they hold the integers of. -/
theorem InWords.member? {item v : Json} {name : String} (h : item.InWords)
    (hmember : item.member? name = some v) : v.InWords := by
  cases item with
  | object members => exact InWordsMembers.lookupEntry h hmember
  | _ => cases hmember

end Json

end AgentFlow
