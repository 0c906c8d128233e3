import AgentFlow.Agent
import AgentFlow.Workflow
import AgentFlow.Yaml.Document

/-!
# Catalogs

A catalog is a document of agents and workflows with ids of their own. It is loaded from the bytes
of a file. The file may be unreadable, its bytes may be no text, and the text may be no catalog.
-/

namespace AgentFlow

open Time

/-- Agents and workflows in the order in which they are listed. -/
structure Catalog where
  agents : List Agent
  workflows : List Workflow

/-- Why no catalog was loaded. -/
inductive LoadError where
  /-- The file could not be read as text. -/
  | unreadable (reason : String)
  /-- The text is no catalog. -/
  | malformed

/-- What the system says of a file that does not exist. -/
def noSuchFile : String := "No such file or directory (os error 2)"

/-- What is said of bytes that are no text. -/
def notText : String := "stream did not contain valid UTF-8"

namespace Catalog

/-- The fields of a catalog. -/
def record (now : Instant) :=
  Record.mk "Catalog"
    (.cons (.withDefault "agents" (.list (Agent.codec now)) []) <|
      .cons (.withDefault "workflows" (.list (Workflow.codec now)) []) .nil)
    (fun (agents, workflows, ()) => Catalog.mk agents workflows)
    fun c => (c.agents, c.workflows, ())

/-- Catalogs as they are exchanged. -/
def codec (now : Instant) : Codec Catalog := (record now).codec

/-- How deep the sequences and mappings of a document may nest where they are looked at. -/
def maxNesting : Nat := 128

/-- The catalog that a document writes. A document without content is an empty catalog. -/
def ofYaml? (now : Instant) (text : String) : Option Catalog := do
  let document ← Yaml.Document.read? text
  match document.root with
  | none => return ⟨[], []⟩
  | some node => do
    let (catalog, _) ← (codec now).ofYaml maxNesting node document.anchors document.references
    return catalog

/-- The catalog in a file, given the file's bytes or the reason why they cannot be read. -/
def load (now : Instant) : Except String ByteArray → Except LoadError Catalog
  | .error reason => .error (.unreadable reason)
  | .ok bytes =>
    match String.fromUTF8? bytes with
    | none => .error (.unreadable notText)
    | some text => (ofYaml? now text).elim (.error .malformed) .ok

end Catalog

end AgentFlow
