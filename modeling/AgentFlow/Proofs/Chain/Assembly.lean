import AgentFlow.Chain

/-!
# Assembling chains

When steps form a chain. The search for a repeated id finds nothing exactly if the ids differ from
each other, so that steps with ids of their own are always joined; otherwise it finds the earliest
id that occurs before.
-/

namespace AgentFlow

/-- No entry is reported if the entries differ from each other and from those seen already. -/
theorem firstRepeated_of_nodup {seen ids : List String} (hids : ids.Nodup)
    (hseen : ∀ id ∈ ids, id ∉ seen) : firstRepeated seen ids = none := by
  induction ids generalizing seen with
  | nil => rfl
  | cons id rest ih =>
    obtain ⟨hnew, hrest⟩ := List.nodup_cons.mp hids
    have hid : seen.contains id = false := by simpa using hseen id (by simp)
    have hfresh : ∀ other ∈ rest, other ∉ id :: seen := by
      intro other hother hmem
      rcases List.mem_cons.mp hmem with heq | hmem
      · exact hnew (heq ▸ hother)
      · exact hseen other (by simp [hother]) hmem
    rw [firstRepeated, hid]
    exact ih hrest hfresh

/-- The search for a repeated id comes back empty exactly if no two ids are the same. -/
theorem firstRepeated_eq_none_iff {ids : List String} :
    firstRepeated [] ids = none ↔ ids.Nodup :=
  ⟨fun h => (nodup_of_firstRepeated h).1, fun h => firstRepeated_of_nodup h (by simp)⟩

/-- The search finds the earliest entry that occurs before it, or among those seen already. -/
theorem firstRepeated_eq_some_iff {seen ids : List String} {id : String} :
    firstRepeated seen ids = some id ↔
      ∃ before rest, ids = before ++ id :: rest ∧ before.Nodup ∧
        (∀ other ∈ before, other ∉ seen) ∧ (id ∈ before ∨ id ∈ seen) := by
  induction ids generalizing seen with
  | nil => simp [firstRepeated]
  | cons first more ih =>
    rw [firstRepeated]
    by_cases hfirst : first ∈ seen
    · -- The search ends here, so nothing can come before the entry that is found.
      rw [if_pos (by simpa using hfirst), Option.some.injEq]
      constructor
      · rintro rfl
        exact ⟨[], more, rfl, .nil, by simp, .inr hfirst⟩
      · rintro ⟨before, rest, hids, _, hfresh, _⟩
        cases before with
        | nil => exact (List.cons.inj hids).1
        | cons _ _ =>
          obtain ⟨rfl, _⟩ := List.cons.inj hids
          exact absurd hfirst (hfresh first List.mem_cons_self)
    · rw [if_neg (by simpa using hfirst), ih]
      constructor
      · rintro ⟨before, rest, rfl, hnodup, hfresh, hid⟩
        have hnew : first ∉ before := fun hmem => hfresh first hmem List.mem_cons_self
        refine ⟨first :: before, rest, rfl, List.nodup_cons.mpr ⟨hnew, hnodup⟩, ?_, by grind⟩
        rw [List.forall_mem_cons]
        exact ⟨hfirst, fun other hother hseen => hfresh other hother (by simp [hseen])⟩
      · rintro ⟨before, rest, hids, hnodup, hfresh, hid⟩
        cases before with
        | nil =>
          obtain ⟨rfl, _⟩ := List.cons.inj hids
          exact absurd (hid.resolve_left List.not_mem_nil) hfirst
        | cons _ before =>
          obtain ⟨rfl, rfl⟩ := List.cons.inj hids
          obtain ⟨hnew, hnodup⟩ := List.nodup_cons.mp hnodup
          refine ⟨before, rest, rfl, hnodup, ?_, by grind⟩
          intro other hother hseen
          rcases List.mem_cons.mp hseen with rfl | hseen
          · exact hnew hother
          · exact hfresh other (by simp [hother]) hseen

namespace Chain

/-- Without steps there is no chain, and its name is what the refusal tells. -/
theorem assemble_nil (name : String) : assemble name [] = .error (.emptyChain name) := rfl

/-- Steps with ids of their own are joined as they stand. -/
theorem assemble_of_nodup {name : String} {nodes : List Node} (hnodes : nodes ≠ [])
    (hids : (nodes.map Node.id).Nodup) :
    ∃ chain, assemble name nodes = .ok chain ∧ chain.name = name ∧ chain.nodes = nodes := by
  have hnone : firstRepeated [] (nodes.map Node.id) = none := firstRepeated_eq_none_iff.mpr hids
  refine ⟨⟨name, nodes, hnodes, hids⟩, ?_, rfl, rfl⟩
  unfold assemble
  rw [dif_neg hnodes]
  split
  · rename_i id hrepeated
    rw [hnone] at hrepeated
    cases hrepeated
  · rfl

/-- Steps of which some id is repeated are refused for the id that the search finds. -/
theorem assemble_of_repeated {name id : String} {nodes : List Node}
    (h : firstRepeated [] (nodes.map Node.id) = some id) :
    assemble name nodes = .error (.duplicateNode id) := by
  have hnodes : nodes ≠ [] := by
    rintro rfl
    cases h
  unfold assemble
  rw [dif_neg hnodes]
  split
  · rename_i other hrepeated
    rw [h, Option.some.injEq] at hrepeated
    rw [hrepeated]
  · rename_i hnone
    rw [h] at hnone
    cases hnone

/-- Steps are refused because there are none, refused for a repeated id, or joined as they stand. -/
theorem assemble_cases (name : String) (nodes : List Node) :
    nodes = [] ∧ assemble name nodes = .error (.emptyChain name) ∨
      (∃ id, firstRepeated [] (nodes.map Node.id) = some id ∧
        assemble name nodes = .error (.duplicateNode id)) ∨
      nodes ≠ [] ∧ (nodes.map Node.id).Nodup ∧
        ∃ chain, assemble name nodes = .ok chain ∧ chain.name = name ∧ chain.nodes = nodes := by
  by_cases hnodes : nodes = []
  · subst hnodes
    exact .inl ⟨rfl, assemble_nil name⟩
  · cases hsearch : firstRepeated [] (nodes.map Node.id) with
    | some id => exact .inr (.inl ⟨id, rfl, assemble_of_repeated hsearch⟩)
    | none =>
      have hids := firstRepeated_eq_none_iff.mp hsearch
      exact .inr (.inr ⟨hnodes, hids, assemble_of_nodup hnodes hids⟩)

/-- A chain that steps are joined to is made of these steps, under the name given. -/
theorem eq_of_assemble {name : String} {nodes : List Node} {chain : Chain}
    (h : assemble name nodes = .ok chain) : chain.name = name ∧ chain.nodes = nodes := by
  rcases assemble_cases name nodes with ⟨_, hempty⟩ | ⟨_, _, hrepeated⟩ | ⟨_, _, made, hok, hmade⟩
  · rw [h] at hempty
    cases hempty
  · rw [h] at hrepeated
    cases hrepeated
  · rw [h] at hok
    cases hok
    exact hmade

/-- Steps are joined exactly if there is one and their ids differ from each other. -/
theorem exists_assemble_iff {name : String} {nodes : List Node} :
    (∃ chain, assemble name nodes = .ok chain) ↔ nodes ≠ [] ∧ (nodes.map Node.id).Nodup := by
  constructor
  · rintro ⟨chain, hok⟩
    obtain ⟨_, rfl⟩ := eq_of_assemble hok
    exact ⟨chain.nonempty, chain.distinct⟩
  · rintro ⟨hnodes, hids⟩
    rcases assemble_cases name nodes with ⟨hnone, _⟩ | ⟨_, hsearch, _⟩ | ⟨_, _, chain, hok, _⟩
    · exact absurd hnone hnodes
    · rw [firstRepeated_eq_none_iff.mpr hids] at hsearch
      cases hsearch
    · exact ⟨chain, hok⟩

/-- Steps are refused as empty exactly if there are none. -/
theorem assemble_eq_emptyChain_iff {name : String} {nodes : List Node} :
    assemble name nodes = .error (.emptyChain name) ↔ nodes = [] := by
  constructor
  · intro h
    rcases assemble_cases name nodes with ⟨hnodes, _⟩ | ⟨_, _, hrepeated⟩ | ⟨_, _, _, hok, _⟩
    · exact hnodes
    · rw [h] at hrepeated
      cases hrepeated
    · rw [h] at hok
      cases hok
  · rintro rfl
    exact assemble_nil name

/-- Steps are refused for an id exactly if it is that of the earliest step whose id occurs before
it. -/
theorem assemble_eq_duplicateNode_iff {name id : String} {nodes : List Node} :
    assemble name nodes = .error (.duplicateNode id) ↔
      ∃ before node rest, nodes = before ++ node :: rest ∧ node.id = id ∧
        (before.map Node.id).Nodup ∧ id ∈ before.map Node.id := by
  constructor
  · intro h
    rcases assemble_cases name nodes with
      ⟨_, hempty⟩ | ⟨other, hsearch, hrepeated⟩ | ⟨_, _, _, hok, _⟩
    · rw [h] at hempty
      cases hempty
    · rw [h] at hrepeated
      cases hrepeated
      obtain ⟨_, _, hids, hnodup, _, hid⟩ := firstRepeated_eq_some_iff.mp hsearch
      obtain ⟨before, _, rfl, rfl, hrest⟩ := List.map_eq_append_iff.mp hids
      obtain ⟨node, rest, rfl, hnode, _⟩ := List.map_eq_cons_iff.mp hrest
      exact ⟨before, node, rest, rfl, hnode, hnodup, hid.resolve_right List.not_mem_nil⟩
    · rw [h] at hok
      cases hok
  · rintro ⟨before, node, rest, rfl, rfl, hnodup, hid⟩
    apply assemble_of_repeated
    exact firstRepeated_eq_some_iff.mpr
      ⟨before.map Node.id, rest.map Node.id, by simp, hnodup, by simp, .inl hid⟩

end Chain

end AgentFlow
