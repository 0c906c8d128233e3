import AgentFlow.Chain

/-!
# What the id of a step tells

The id of a step joins a number and a name by an underscore. A decimal number holds no underscore,
so the number ends at the first underscore after `step_`, however much the name looks like a number
itself. The id therefore tells the position and the slug of the name.

How an id begins depends on the position alone. Behind that stands the name, character by character,
with an underscore for each blank, so that two ids are the same only if their positions are and the
names differ at most in what is blank or an underscore.
-/

namespace AgentFlow.Node

/-- A natural number is what its decimal digits write. -/
theorem eq_of_toDigits_eq {m n : Nat} (h : Nat.toDigits 10 m = Nat.toDigits 10 n) : m = n := by
  have hread := congrArg (fun digits => Nat.ofDigitChars 10 digits 0) h
  simpa only [Nat.ofDigitChars_ten_toDigits] using hread

/-- A text is split at the first occurrence of a character in one way only. -/
theorem parts_eq_of_append_eq {c : Char} {left left' right right' : List Char}
    (hleft : c ∉ left) (hleft' : c ∉ left') (h : left ++ c :: right = left' ++ c :: right') :
    left = left' ∧ right = right' := by
  induction left generalizing left' with
  | nil =>
    cases left' with
    | nil => exact ⟨rfl, (List.cons.inj h).2⟩
    | cons d rest' =>
      have hhead : c = d := (List.cons.inj h).1
      exact absurd (by simp [hhead]) hleft'
  | cons d rest ih =>
    cases left' with
    | nil =>
      have hhead : d = c := (List.cons.inj h).1
      exact absurd (by simp [hhead]) hleft
    | cons d' rest' =>
      obtain ⟨hhead, htail⟩ := List.cons.inj h
      have hrest : c ∉ rest := fun hmem => hleft (List.mem_cons_of_mem _ hmem)
      have hrest' : c ∉ rest' := fun hmem => hleft' (List.mem_cons_of_mem _ hmem)
      obtain ⟨hfront, hsuffix⟩ := ih hrest hrest' htail
      exact ⟨by rw [hhead, hfront], hsuffix⟩

/-- The characters of an id: the number of the position, counted from one, between underscores, and
the slug. -/
theorem toList_idAt (position : Nat) (name : String) :
    (idAt position name).toList =
      "step_".toList ++ (Nat.toDigits 10 (position + 1) ++ '_' :: slug name) := by
  unfold idAt
  rw [String.toList_ofList, List.append_assoc]

/-- Two ids are the same exactly if they name the same position and their names have the same slug.
The number of an id ends before the first underscore, since no digit is one. -/
theorem idAt_eq_iff {p r : Nat} {a b : String} :
    idAt p a = idAt r b ↔ p = r ∧ slug a = slug b := by
  constructor
  · intro h
    have hlists := congrArg String.toList h
    rw [toList_idAt, toList_idAt] at hlists
    have hparts := List.append_cancel_left hlists
    obtain ⟨hdigits, hslug⟩ := parts_eq_of_append_eq
      Nat.underscore_not_in_toDigits Nat.underscore_not_in_toDigits hparts
    have hnumber := eq_of_toDigits_eq hdigits
    exact ⟨by omega, hslug⟩
  · rintro ⟨rfl, hslug⟩
    unfold idAt
    rw [hslug]

/-- The id of a step is not the name of the terminal: their first characters differ. -/
theorem idAt_ne_terminal (position : Nat) (name : String) :
    idAt position name ≠ Chain.terminal := by
  intro h
  have hlists := congrArg String.toList h
  rw [toList_idAt, Chain.terminal] at hlists
  exact absurd (List.cons.inj hlists).1 (by decide)

/-! ### The name in an id -/

/-- How the id of the step at a position begins, whatever the name. Steps are counted from one. -/
def lead (position : Nat) : String := "step_" ++ toString (position + 1) ++ "_"

/-- A character of a name as it stands in an id: an underscore for a blank. -/
def underscored (c : Char) : Char := if Text.isBlank c then '_' else c

/-- Two names have the same slug exactly if they become the same text with underscores for their
blanks. -/
theorem slug_eq_slug_iff {a b : String} :
    slug a = slug b ↔ a.map underscored = b.map underscored := by
  rw [← String.toList_inj, String.toList_map, String.toList_map]
  rfl

/-- An id is the lead of its position, followed by the name with underscores for its blanks. -/
theorem idAt_eq_append (position : Nat) (name : String) :
    idAt position name = lead position ++ name.map underscored := by
  rw [← String.toList_inj, toList_idAt, String.toList_append, String.toList_map, lead]
  simp only [String.toList_append, Nat.toString_eq_repr, Nat.toList_repr, List.append_assoc]
  rfl

/-- Behind the lead, an id has a character for each of the name, at the place of that character. -/
theorem getElem?_idAt (position : Nat) (name : String) (i : Nat) :
    (idAt position name).toList[(lead position).length + i]? =
      name.toList[i]?.map underscored := by
  rw [idAt_eq_append, String.toList_append, String.toList_map, ← String.length_toList,
    List.getElem?_append_right (Nat.le_add_right _ _), Nat.add_sub_cancel_left,
    List.getElem?_map]

/-- A character that is no blank stands in an id as it is. -/
theorem underscored_of_not_isBlank {c : Char} (hc : Text.isBlank c = false) :
    underscored c = c := by
  rw [underscored, hc]
  rfl

/-- What stands for a character of a name is no blank. -/
theorem not_isBlank_underscored (c : Char) : Text.isBlank (underscored c) = false := by
  unfold underscored
  split
  · rfl
  · next hc => exact Bool.eq_false_iff.mpr hc

/-- A lead is made of letters, underscores and digits, of which none is a blank. -/
theorem not_isBlank_of_mem_lead (position : Nat) :
    ∀ c ∈ (lead position).toList, Text.isBlank c = false := by
  have hword : ∀ c ∈ "step_".toList, Text.isBlank c = false := by simp [Text.isBlank]
  have hnumber : ∀ c ∈ (toString (position + 1)).toList, Text.isBlank c = false := by
    rw [Nat.toString_eq_repr, Nat.toList_repr]
    intro c hc
    exact Text.not_isBlank_of_isDigit (Nat.isDigit_of_mem_toDigits (by decide) (by decide) hc)
  have hend : ∀ c ∈ "_".toList, Text.isBlank c = false := by simp [Text.isBlank]
  rw [lead, String.toList_append, String.toList_append, List.forall_mem_append,
    List.forall_mem_append]
  exact ⟨⟨hword, hnumber⟩, hend⟩

/-- An id holds no blank, whatever the name holds. -/
theorem not_isBlank_of_mem_idAt (position : Nat) (name : String) :
    ∀ c ∈ (idAt position name).toList, Text.isBlank c = false := by
  rw [idAt_eq_append, String.toList_append, String.toList_map, List.forall_mem_append]
  refine ⟨not_isBlank_of_mem_lead position, fun c hc => ?_⟩
  obtain ⟨d, _, rfl⟩ := List.mem_map.mp hc
  exact not_isBlank_underscored d

/-- **Ids.** Two ids are the same exactly if their positions are and the names become the same text
with underscores for their blanks. An id holds no blank. Behind a lead that depends on the position
alone it has as many characters as the name, and each character of the name that is no blank stands
there at its own place. No id is the name of the terminal. -/
theorem idAt_tells_name (p r : Nat) (a b : String) :
    (idAt p a = idAt r b ↔ p = r ∧ a.map underscored = b.map underscored) ∧
    (∀ c ∈ (idAt p a).toList, Text.isBlank c = false) ∧
    (idAt p a).length = (lead p).length + a.length ∧
    (∀ (i : Nat) (c : Char), a.toList[i]? = some c → Text.isBlank c = false →
      (idAt p a).toList[(lead p).length + i]? = some c) ∧
    idAt p a ≠ Chain.terminal := by
  refine ⟨?_, not_isBlank_of_mem_idAt p a, ?_, ?_, idAt_ne_terminal p a⟩
  · rw [idAt_eq_iff, slug_eq_slug_iff]
  · rw [idAt_eq_append, String.length_append, String.length_map]
  · intro i c hplace hc
    rw [getElem?_idAt, hplace, Option.map_some, underscored_of_not_isBlank hc]

/-- A wide space and an underscore cannot be told apart in an id, but a name that begins with a number
does not pass for the name of another position. -/
theorem idAt_tells_name_numbered :
    idAt 0 "2\u2003x" = idAt 0 "2_x" ∧ idAt 0 "2\u2003x" ≠ idAt 11 "x" ∧
    ('2' ∈ (idAt 0 "2\u2003x").toList ∧ Text.isBlank '2' = false) ∧
    ("2\u2003x".toList[2]? = some 'x' ∧ Text.isBlank 'x' = false ∧
      (idAt 0 "2\u2003x").toList[(lead 0).length + 2]? = some 'x') := by
  obtain ⟨hsame, hblank, _, hkept, _⟩ := idAt_tells_name 0 0 "2\u2003x" "2_x"
  obtain ⟨hother, _⟩ := idAt_tells_name 0 11 "2\u2003x" "x"
  have hnames : "2\u2003x".map underscored = "2_x".map underscored := by
    rw [String.map_eq_internal, String.map_eq_internal]
    decide
  have hdigit : '2' ∈ (idAt 0 "2\u2003x").toList := by decide
  refine ⟨hsame.mpr ⟨rfl, hnames⟩, fun h => ?_, ⟨hdigit, hblank '2' hdigit⟩, rfl, rfl, ?_⟩
  · exact absurd (hother.mp h).1 (by decide)
  · exact hkept 2 'x' rfl rfl

end AgentFlow.Node
