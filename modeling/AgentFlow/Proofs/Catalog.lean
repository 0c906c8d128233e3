import AgentFlow.Catalog
import AgentFlow.Proofs.Codec.Alike

/-!
# Loading a catalog again

Records of a catalog that give no times of their own have those of the reading. Apart from that a
file that loads at one moment loads at every other one, with the same records; and the ids of
workflows are integers of 64 bits.
-/

namespace AgentFlow

open Number Time

/-- The agents are the same but for their times. -/
def Agent.SameButTimes (agent other : Agent) : Prop :=
  other = { agent with createdAt := other.createdAt, updatedAt := other.updatedAt }

/-- Agents that are the same but for times have one id. -/
theorem Agent.SameButTimes.id_eq {agent other : Agent} (h : agent.SameButTimes other) :
    other.id = agent.id :=
  (congrArg Agent.id h : other.id = _)

/-- Agents that are the same but for times have one name. -/
theorem Agent.SameButTimes.name_eq {agent other : Agent} (h : agent.SameButTimes other) :
    other.name = agent.name :=
  (congrArg Agent.name h : other.name = _)

/-- The workflows are the same but for their times. -/
def Workflow.SameButTimes (workflow other : Workflow) : Prop :=
  other = { workflow with createdAt := other.createdAt, updatedAt := other.updatedAt }

/-- Workflows that are the same but for times have one id. -/
theorem Workflow.SameButTimes.id_eq {workflow other : Workflow}
    (h : workflow.SameButTimes other) : other.id = workflow.id :=
  (congrArg Workflow.id h : other.id = _)

/-- Workflows that are the same but for times have the same tasks. -/
theorem Workflow.SameButTimes.tasks_eq {workflow other : Workflow}
    (h : workflow.SameButTimes other) : other.tasks = workflow.tasks :=
  (congrArg Workflow.tasks h : other.tasks = _)

/-- Times are read alike, as anything is related to anything. -/
theorem Time.Instant.codec_alike : Codec.Alike (fun _ _ => True) Instant.codec Instant.codec :=
  fun depth node => (Codec.Alike.self Instant.codec depth node).mono fun _ _ _ => trivial

/-- Agents are read alike at every moment. -/
theorem Agent.codec_alike (now later : Instant) :
    Codec.Alike Agent.SameButTimes (codec now) (codec later) := by
  refine Record.alike (.keep _ (.keep _ (.keep _ (.keep _ (.keep _
    (.withDefault _ Instant.codec_alike trivial
      (.withDefault _ Instant.codec_alike trivial .nil))))))) ?_
  rintro ⟨id, name, description, model, prompt, created, updated, ⟨⟩⟩
    ⟨_, _, _, _, _, created', updated', ⟨⟩⟩ ⟨rfl, rfl, rfl, rfl, rfl, -⟩
  rfl

/-- Workflows are read alike at every moment, with ids of 64 bits. -/
theorem Workflow.codec_alike (now later : Instant) :
    Codec.Alike (fun workflow other => workflow.SameButTimes other ∧
      IntRange.int64.contains workflow.id = true) (codec now) (codec later) := by
  refine Record.alike (.cons rfl (Codec.alike_integer .int64 "i64") .refused
    (.keep _ (.keep _ (.keep _ (.keep _ (.withDefault _ Instant.codec_alike trivial
      (.withDefault _ Instant.codec_alike trivial .nil))))))) ?_
  rintro ⟨id, name, description, status, tasks, created, updated, ⟨⟩⟩
    ⟨_, _, _, _, _, created', updated', ⟨⟩⟩ ⟨⟨rfl, hid⟩, rfl, rfl, rfl, rfl, -⟩
  exact ⟨rfl, hid⟩

namespace Catalog

/-- The records are the same but for their times, and the ids of the workflows have 64 bits. -/
structure SameButTimes (catalog other : Catalog) : Prop where
  agents : List.Forall₂ Agent.SameButTimes catalog.agents other.agents
  workflows : List.Forall₂
    (fun workflow other => workflow.SameButTimes other ∧
      IntRange.int64.contains workflow.id = true) catalog.workflows other.workflows

/-- Catalogs are read alike at every moment. -/
theorem codec_alike (now later : Instant) :
    Codec.Alike SameButTimes (codec now) (codec later) := by
  have hagents := (Agent.codec_alike now later).list
  have hworkflows := (Workflow.codec_alike now later).list
  have hfields : Fields.Alike _ _ (record now).fields (record later).fields :=
    .withDefault _ hagents .nil (.withDefault _ hworkflows .nil .nil)
  refine Record.alike hfields ?_
  rintro ⟨agents, workflows, ⟨⟩⟩ ⟨agents', workflows', ⟨⟩⟩ ⟨hagents, hworkflows, -⟩
  exact ⟨hagents, hworkflows⟩

/-- A document that is a catalog is one at every other moment. -/
theorem ofYaml?_later {now : Instant} {text : String} {catalog : Catalog}
    (h : ofYaml? now text = some catalog) (later : Instant) :
    ∃ other, ofYaml? later text = some other ∧ catalog.SameButTimes other := by
  obtain ⟨document, hdocument, h⟩ := Option.bind_eq_some_iff.mp h
  cases hroot : document.root with
  | none =>
    simp only [hroot] at h
    cases h
    refine ⟨⟨[], []⟩, Option.bind_eq_some_iff.mpr ⟨document, hdocument, ?_⟩, .nil, .nil⟩
    simp only [hroot]
    rfl
  | some node =>
    simp only [hroot] at h
    obtain ⟨⟨read, left⟩, hread, h⟩ := Option.bind_eq_some_iff.mp h
    cases h
    obtain ⟨other, hother, hsame⟩ := codec_alike now later _ _ _ _ _ _ hread
    refine ⟨other, Option.bind_eq_some_iff.mpr ⟨document, hdocument, ?_⟩, hsame⟩
    simp only [hroot]
    exact Option.bind_eq_some_iff.mpr ⟨_, hother, rfl⟩

/-- **Loading again.** A file that loads as a catalog loads at every other moment, as the same
catalog but for times. -/
theorem load_later {now : Instant} {file : Except String ByteArray} {catalog : Catalog}
    (h : load now file = .ok catalog) (later : Instant) :
    ∃ other, load later file = .ok other ∧ catalog.SameButTimes other := by
  cases file with
  | error reason => cases h
  | ok bytes =>
    rw [load] at h ⊢
    cases htext : String.fromUTF8? bytes with
    | none =>
      simp only [htext] at h
      cases h
    | some text =>
      simp only [htext] at h ⊢
      cases hcatalog : ofYaml? now text with
      | none =>
        rw [hcatalog] at h
        cases h
      | some read =>
        rw [hcatalog] at h
        cases h
        obtain ⟨other, hother, hsame⟩ := ofYaml?_later hcatalog later
        exact ⟨other, by rw [hother]; rfl, hsame⟩

end Catalog

end AgentFlow
