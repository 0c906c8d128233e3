import AgentFlow.Proofs.Json.Canonical
import AgentFlow.Proofs.Json.Values
import AgentFlow.Proofs.Task.Entries

/-!
# Encoded submissions

A list of entries may be submitted as the text that writes it. Such a text is decoded to the
entries in canonical form, so that it is normalized like the list itself: to the same tasks, or with
the same entry to blame for the same reason.
-/

namespace AgentFlow

open Json

variable {items : List Json}

/-- A free value is read back in canonical form. -/
theorem readsBack_readCanonical {v : Json} (hnumbers : v.IntegersOnly) {depth : Nat}
    (hdepth : v.nesting ≤ depth) : ReadsBack (readCanonical depth) v.canonical v where
  read rest hrest := by
    rw [readCanonical, (readsBack_readValue hnumbers hdepth).read rest hrest]
    rfl
  head := (readsBack_readValue hnumbers hdepth).head

/-- The text of a list is read as its elements in canonical form. The list itself takes one of the
127 levels that may be open, so 126 are left for the elements. -/
theorem Codec.parse_list_free (hnumbers : ∀ item ∈ items, item.IntegersOnly)
    (hnesting : ∀ item ∈ items, item.nesting ≤ 126) :
    (Codec.list .free).parse (array items).compactText = .ok (items.map canonical) := by
  have hparts : List.Forall₂ (ReadsBack (readCanonical 126)) (items.map canonical) items :=
    List.forall₂_map_left_iff.mpr <| List.forall₂_same.mpr fun item hitem =>
      readsBack_readCanonical (hnumbers item hitem) (hnesting item hitem)
  have hread : (Codec.list .free).read 127 (array items).compact = .ok (items.map canonical, []) :=
    calc (Codec.list .free).read 127 (array items).compact
      _ = readArray (readCanonical 126) (compactItems items ++ []) := by
        rw [List.append_nil]
        rfl
      _ = .ok (items.map canonical, []) := readArray_compactItems hparts []
  rw [Codec.parse, compactText, String.toList_ofList, readWhole, maxNesting, hread]
  rfl

namespace Submission

/-- The entries of an encoded list are those of the list, in canonical form. -/
theorem entries_encoded (hnumbers : ∀ item ∈ items, item.IntegersOnly)
    (hnesting : ∀ item ∈ items, item.nesting ≤ 126) :
    (encoded (array items).compactText).entries = .ok (items.map canonical) := by
  rw [entries, Codec.parse_list_free hnumbers hnesting]
  rfl

/-- A submission is normalized by its entries alone. -/
theorem normalize_of_entries {submission : Submission}
    (hentries : submission.entries = .ok items) :
    submission.normalize = (list items).normalize := by
  rw [normalize, hentries, normalize, entries]

/-- No list is refused as malformed. -/
theorem normalize_list_ne_malformedTasks (items : List Json) (text : String) (fault : Fault) :
    (list items).normalize ≠ .error (.malformedTasks text fault) := by
  intro hfailed
  rw [normalize_list] at hfailed
  cases hitems : Task.ofEntries 0 items with
  | ok tasks =>
    rw [hitems] at hfailed
    cases hfailed
  | error e =>
    obtain ⟨_, _, _, _, _, _, _, _, rfl⟩ := Task.ofEntries_eq_error_iff.mp hitems
    rw [hitems] at hfailed
    cases hfailed

/-- **Encoding.** The text of a list of values whose numbers are integers, and that nest at most 126
deep, is normalized like the list: with the same tasks, or with the same failure. If members come in
any order, or keys more than once, the list is meant whose values are in canonical form. The text is
never refused as malformed. -/
theorem normalize_encoded (items : List Json) (hnumbers : ∀ item ∈ items, item.IntegersOnly)
    (hnesting : ∀ item ∈ items, item.nesting ≤ 126) :
    ((∀ item ∈ items, item.Canonical) →
      (encoded (array items).compactText).normalize = (list items).normalize) ∧
    (encoded (array items).compactText).normalize = (list (items.map canonical)).normalize ∧
    ∀ text fault,
      (encoded (array items).compactText).normalize ≠ .error (.malformedTasks text fault) := by
  have hsame := normalize_of_entries (entries_encoded hnumbers hnesting)
  refine ⟨fun hcanonical => ?_, hsame, fun text fault => ?_⟩
  · have hitems : items.map canonical = items := by
      rw [List.map_congr_left fun item hitem => canonical_eq_self item (hcanonical item hitem),
        List.map_id']
    rw [hsame, hitems]
  · rw [hsame]
    exact normalize_list_ne_malformedTasks _ text fault

/-- An entry with the greatest integer there is, a step between blanks, and an instruction that is
no text itself but holds the least integer, an object, and characters that are escaped. -/
def encodedEntry : Json :=
  .object
    [("agent_id", .int 0xFFFFFFFFFFFFFFFF),
      ("prompt", .array [.int (-0x8000000000000000), .string "\u0001\"é😀",
        .object [("", .null), ("\n", .bool false)]]),
      ("step", .string "\u00a0+7\n")]

/-- The text of such an entry is normalized like the entry; with a number behind it, it fails like
the list of both. -/
theorem normalize_encoded_entry :
    (∀ item ∈ [encodedEntry, .int 0], item.IntegersOnly ∧ item.nesting ≤ 126 ∧ item.Canonical) ∧
    (encoded (array [encodedEntry]).compactText).normalize =
      .ok [⟨7, some 0x7FFFFFFFFFFFFFFF,
        "[-9223372036854775808,\"\\u0001\\\"é😀\",\x7b\"\":null,\"\\n\":false\x7d]"⟩] ∧
    (encoded (array [encodedEntry, .int 0]).compactText).normalize =
      .error (.invalidTask 1 (.notAnObject (.int 0))) := by
  have hentry : encodedEntry.IntegersOnly := by
    refine .object fun m hm => ?_
    simp only [List.mem_cons, List.not_mem_nil, or_false] at hm
    rcases hm with rfl | rfl | rfl
    · exact .int (.inr (by decide))
    · refine .array fun v hv => ?_
      simp only [List.mem_cons, List.not_mem_nil, or_false] at hv
      rcases hv with rfl | rfl | rfl
      · exact .int (.inl (by decide))
      · exact .string _
      · exact .object (by simp [IntegersOnly.null, IntegersOnly.bool])
    · exact .string _
  have hnumbers : ∀ item ∈ [encodedEntry, .int 0], item.IntegersOnly := by
    simpa using ⟨hentry, .int (.inl (by decide))⟩
  have hnesting : ∀ item ∈ [encodedEntry, .int 0], item.nesting ≤ 126 := by decide
  have hkeys : encodedEntry.Canonical :=
    ⟨by decide, trivial,
      ⟨trivial, trivial, ⟨by decide, trivial, trivial, trivial⟩, trivial⟩, trivial, trivial⟩
  have hcanonical : ∀ item ∈ [encodedEntry, .int 0], item.Canonical := by
    simpa using ⟨hkeys, trivial⟩
  refine ⟨fun item h => ⟨hnumbers item h, hnesting item h, hcanonical item h⟩, ?_, ?_⟩
  · have hone : ∀ item ∈ [encodedEntry], item ∈ [encodedEntry, .int 0] := by simp
    rw [(normalize_encoded _ (fun item h => hnumbers item (hone item h))
      fun item h => hnesting item (hone item h)).1 fun item h => hcanonical item (hone item h)]
    change Except.ok (Task.inOrder [_]) = _
    rw [Task.inOrder, List.mergeSort_singleton]
    rfl
  · rw [(normalize_encoded _ hnumbers hnesting).1 hcanonical]
    rfl

end Submission

end AgentFlow
