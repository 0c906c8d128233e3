import AgentFlow.Http.Message
import AgentFlow.Http.PathId
import AgentFlow.Proofs.Json.Integers
import AgentFlow.Proofs.Text.Utf8
import Mathlib.Data.List.TakeWhile

/-!
# Ids as they stand in paths

A segment without percent signs stands for itself, so that an id is read back from its digits. A
target that begins with a slash and has no query is its own path.
-/

namespace AgentFlow.Http

open Number

/-- Bytes without the one of the percent sign are meant as they are. -/
theorem percentDecoded_eq_self {bytes : List UInt8} (h : 0x25 ∉ bytes) :
    percentDecoded bytes = bytes := by
  induction bytes with
  | nil => rfl
  | cons b rest ih =>
    obtain ⟨hb, hrest⟩ := List.ne_and_not_mem_of_not_mem_cons h
    unfold percentDecoded
    rw [if_neg hb.symm, ih hrest]

/-- A segment without percent signs stands for itself. -/
theorem segmentText?_eq_self {segment : String} (h : '%' ∉ segment.toList) :
    segmentText? segment = some segment := by
  have hplain : 0x25 ∉ segment.toUTF8.toList := by
    rw [Text.toList_toUTF8, List.mem_flatMap]
    rintro ⟨c, hc, hb⟩
    have hpercent : c = '%' :=
      Char.toNat_inj.mp (Text.toNat_eq_of_mem_utf8EncodeChar (by decide) hb)
    exact h (hpercent ▸ hc)
  rw [segmentText?, percentDecoded_eq_self hplain, Text.mk_toList, Text.fromUTF8?_toUTF8]

/-- **Ids.** An id is read from every text that writes it. -/
theorem readId_of_writesInt {cs : List Char} {id : Int} (h : WritesInt cs id)
    (hid : IntRange.int64.contains id = true) : readId (String.ofList cs) = .ok id := by
  have hplain : '%' ∉ (String.ofList cs).toList := by
    rw [String.toList_ofList]
    intro hmem
    exact absurd (h.isDigit_or_sign '%' hmem) (by decide)
  have hread : readInt? .int64 cs = some id := (readInt?_eq_some_iff (by decide)).mpr ⟨h, hid⟩
  rw [readId, segmentText?_eq_self hplain]
  simp only [String.toList_ofList, hread]

/-- An id in decimal, without zeros in front. -/
def idText (id : Int) : String := String.ofList (Json.intText id)

/-- An id is read from its decimal text. -/
theorem readId_idText {id : Int} (hid : IntRange.int64.contains id = true) :
    readId (idText id) = .ok id :=
  readId_of_writesInt (Json.writesInt_intText id) hid

/-- The decimal text of an id is digits, behind a sign or none. -/
theorem isDigit_or_sign_idText (id : Int) :
    ∀ c ∈ (idText id).toList, c.isDigit = true ∨ c = '+' ∨ c = '-' := by
  rw [idText, String.toList_ofList]
  exact (Json.writesInt_intText id).isDigit_or_sign

/-- A target that begins with a slash and has neither query nor fragment is its own path. -/
theorem Request.path_eq_target {r : Request} (hslash : r.target.toList.head? = some '/')
    (hplain : r.target.toList.any endsPath = false) : r.path = r.target := by
  obtain ⟨cs, htarget⟩ := List.head?_eq_some_iff.mp hslash
  have hhost : afterHost? r.target.toList = none := by
    rw [htarget]
    rfl
  have hall : r.target.toList.takeWhile (!endsPath ·) = r.target.toList := by
    rw [List.takeWhile_eq_self_iff]
    intro c hc
    rw [Bool.not_eq_true']
    exact Bool.eq_false_of_not_eq_true (List.any_eq_false.mp hplain c hc)
  simp only [path, hhost, hall, String.ofList_toList]

end AgentFlow.Http
