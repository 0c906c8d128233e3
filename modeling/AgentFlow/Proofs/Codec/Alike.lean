import AgentFlow.Codec.Record
import AgentFlow.Proofs.Number.Integer
import Mathlib.Data.List.Forall2

/-!
# Reading documents alike

Two readers of documents read alike if the second one succeeds where the first one does, follows as
many references, and what they read is related. Readers that are put together of such parts read
alike; so do records whose fields have the same names, and codecs and defaults that are related.
-/

namespace AgentFlow

variable {α β : Type}

namespace Yaml.Decode

/-- One interpretation succeeds where another one does, follows as many references, and gives
something related. -/
def Alike (R : α → β → Prop) (m : Decode α) (m' : Decode β) : Prop :=
  ∀ anchors budget x left, m anchors budget = some (x, left) →
    ∃ x', m' anchors budget = some (x', left) ∧ R x x'

variable {γ δ : Type} {R R' : α → β → Prop} {S : γ → δ → Prop}

/-- An interpretation is alike itself. -/
theorem Alike.self (m : Decode α) : Alike Eq m m := fun _ _ x _ h => ⟨x, h, rfl⟩

/-- What is related is also related more loosely. -/
theorem Alike.mono {m : Decode α} {m' : Decode β} (h : Alike R m m')
    (hR : ∀ x x', R x x' → R' x x') : Alike R' m m' := by
  intro anchors budget x left hx
  obtain ⟨x', hx', hrelated⟩ := h anchors budget x left hx
  exact ⟨x', hx', hR x x' hrelated⟩

/-- Values that are related are alike. -/
theorem Alike.pure {x : α} {x' : β} (h : R x x') : Alike R (pure x) (Pure.pure x') := by
  intro anchors budget y left hy
  cases hy
  exact ⟨x', rfl, h⟩

/-- What fails is alike everything. -/
theorem Alike.fail (m : Decode β) : Alike R fail m := fun _ _ _ _ h => nomatch h

/-- What goes on alike is alike. -/
theorem Alike.bind {m : Decode α} {m' : Decode β} {f : α → Decode γ} {f' : β → Decode δ}
    (hm : Alike R m m') (hf : ∀ x x', R x x' → Alike S (f x) (f' x')) :
    Alike S (m >>= f) (m' >>= f') := by
  intro anchors budget y left hy
  obtain ⟨⟨x, between⟩, hx, hy⟩ := Option.bind_eq_some_iff.mp hy
  obtain ⟨x', hx', hrelated⟩ := hm anchors budget x between hx
  obtain ⟨y', hy', hlast⟩ := hf x x' hrelated anchors between y left hy
  exact ⟨y', Option.bind_eq_some_iff.mpr ⟨_, hx', hy'⟩, hlast⟩

/-- Values that may be missing are alike, if they are related or the first one is missing. -/
theorem Alike.ofOption {x? : Option α} {x'? : Option β}
    (h : ∀ x, x? = some x → ∃ x', x'? = some x' ∧ R x x') :
    Alike R (ofOption x?) (ofOption x'?) := by
  cases x? with
  | none => exact .fail _
  | some x =>
    obtain ⟨x', rfl, hrelated⟩ := h x rfl
    exact .pure hrelated

end Yaml.Decode

open Yaml

/-- Two codecs read documents alike. -/
def Codec.Alike (R : α → β → Prop) (c : Codec α) (c' : Codec β) : Prop :=
  ∀ depth node, Decode.Alike R (c.ofYaml depth node) (c'.ofYaml depth node)

namespace Codec

/-- A codec reads like itself. -/
theorem Alike.self (c : Codec α) : Alike Eq c c := fun depth node => .self (c.ofYaml depth node)

/-- Lists are read alike if their elements are. -/
theorem Alike.list {R : α → β → Prop} {c : Codec α} {c' : Codec β} (h : Alike R c c') :
    Alike (List.Forall₂ R) (list c) (list c') := by
  intro depth node
  have helements (depth : Nat) (items : List Node) : Decode.Alike (List.Forall₂ R)
      (listOfYaml (c.ofYaml depth) items) (listOfYaml (c'.ofYaml depth) items) := by
    induction items with
    | nil => exact .pure .nil
    | cons item rest ih =>
      refine .bind (h depth item) fun x x' hx => ?_
      exact .bind ih fun xs xs' hxs => .pure (.cons hx hxs)
  refine .bind (.self node.resolve) ?_
  rintro node _ rfl
  split
  · exact helements _ _
  · exact .pure .nil
  · exact .fail _

/-- An integer that a document writes is one of the range. -/
theorem contains_of_int? {r : Number.IntRange} {cs : List Char} {n : Int}
    (h : Yaml.int? r cs = some n) : r.contains n = true := by
  have hread {base : Nat} {digits : List Char} {n : Int}
      (h : Number.readIntBase? base r digits = some n) : r.contains n = true :=
    (Option.filter_eq_some_iff.mp h).2
  rcases Option.or_eq_some_iff.mp h with hprefixed | ⟨-, hdecimal⟩
  · split at hprefixed
    · split at hprefixed
      · cases hprefixed
      · exact hread hprefixed
    · split at hprefixed
      · obtain ⟨_, _, hdigits⟩ := Option.bind_eq_some_iff.mp hprefixed
        exact hread hdigits
      · cases hprefixed
    · cases hprefixed
  · exact hread (Option.ite_none_left_eq_some.mp hdecimal).2

/-- Integers are read alike, and are in the range. -/
theorem alike_integer (r : Number.IntRange) (name : String) :
    Alike (fun n n' => n = n' ∧ r.contains n = true) (integer r name) (integer r name) := by
  intro depth node
  refine .bind (.self node.resolve) ?_
  rintro node _ rfl
  refine .ofOption fun n hn => ⟨n, hn, rfl, ?_⟩
  dsimp only at hn
  split at hn
  · split at hn
    · exact contains_of_int? hn
    · cases hn
  · cases hn

end Codec

/-- What stands for missing fields is related. -/
inductive Absent.Alike (R : α → β → Prop) : Absent α → Absent β → Prop
  | refused : Alike R .refused .refused
  | omitted {x : α} {x' : β} : R x x' → Alike R (.omitted x) (.omitted x')
  | default {x : α} {x' : β} : R x x' → Alike R (.default x) (.default x')

namespace Fields

/-- Fields of the same names have codecs that read alike and defaults that are related. -/
inductive Alike : {σ τ σ' τ' : Type} →
    (σ → σ' → Prop) → (τ → τ' → Prop) → Fields σ τ → Fields σ' τ' → Prop
  | nil : Alike (fun _ _ => True) (fun _ _ => True) nil nil
  | cons {α β σ τ σ' τ' : Type} {R : α → β → Prop} {S : σ → σ' → Prop} {T : τ → τ' → Prop}
      {field : Field α} {field' : Field β} {fields : Fields σ τ} {fields' : Fields σ' τ'} :
      field'.name = field.name → Codec.Alike R field.codec field'.codec →
      Absent.Alike R field.absent field'.absent → Alike S T fields fields' →
      Alike (fun s s' => Option.Rel R s.1 s'.1 ∧ S s.2 s'.2) (fun x x' => R x.1 x'.1 ∧ T x.2 x'.2)
        (cons field fields) (cons field' fields')

/-- A field that is the same in both reads the same. -/
theorem Alike.keep {σ τ σ' τ' : Type} {S : σ → σ' → Prop} {T : τ → τ' → Prop}
    {fields : Fields σ τ} {fields' : Fields σ' τ'} (field : Field α)
    (h : Alike S T fields fields') :
    Alike (fun s s' => Option.Rel Eq s.1 s'.1 ∧ S s.2 s'.2) (fun x x' => x.1 = x'.1 ∧ T x.2 x'.2)
      (.cons field fields) (.cons field fields') := by
  refine .cons rfl (.self field.codec) ?_ h
  cases field.absent with
  | refused => exact .refused
  | omitted x => exact .omitted rfl
  | default x => exact .default rfl

/-- A field with a default reads like another one of the same name, if the codecs read alike and the
defaults are related. -/
theorem Alike.withDefault {σ τ σ' τ' : Type} {S : σ → σ' → Prop} {T : τ → τ' → Prop}
    {fields : Fields σ τ} {fields' : Fields σ' τ'} {R : α → β → Prop} (name : String)
    {c : Codec α} {c' : Codec β} (hcodec : Codec.Alike R c c') {x : α} {x' : β} (hx : R x x')
    (h : Alike S T fields fields') :
    Alike (fun s s' => Option.Rel R s.1 s'.1 ∧ S s.2 s'.2) (fun x x' => R x.1 x'.1 ∧ T x.2 x'.2)
      (.cons (.withDefault name c x) fields) (.cons (.withDefault name c' x') fields') :=
  .cons rfl hcodec (.default hx) h

/-- What is to be done with a member is the same for alike fields, and gives related slots. -/
inductive Slot.Alike {σ σ' : Type} (S : σ → σ' → Prop) :
    Slot (Decode σ) → Slot (Decode σ') → Prop
  | unknown : Alike S .unknown .unknown
  | taken : Alike S .taken .taken
  | vacant {m : Decode σ} {m' : Decode σ'} : Decode.Alike S m m' → Alike S (.vacant m) (.vacant m')

section Alike

variable {σ τ σ' τ' : Type} {S : σ → σ' → Prop} {T : τ → τ' → Prop} {fields : Fields σ τ}
  {fields' : Fields σ' τ'}

/-- Slots of which nothing has been read are related. -/
theorem Alike.vacant (h : Alike S T fields fields') : S fields.vacant fields'.vacant := by
  induction h with
  | nil => trivial
  | cons _ _ _ _ ih => exact ⟨.none, ih⟩

/-- A member belongs to the same field in both. -/
theorem Alike.fieldOfYaml (h : Alike S T fields fields') (depth : Nat) (name : String)
    (node : Node) {slots : σ} {slots' : σ'} (hslots : S slots slots') :
    Slot.Alike S (fields.fieldOfYaml depth name node slots)
      (fields'.fieldOfYaml depth name node slots') := by
  induction h with
  | nil => exact .unknown
  | @cons α β σ τ σ' τ' R S T field field' fields fields' hname hcodec _ _ ih =>
    obtain ⟨x?, more⟩ := slots
    obtain ⟨x'?, more'⟩ := slots'
    obtain ⟨hfirst, hmore⟩ := hslots
    simp only [Fields.fieldOfYaml, hname]
    split
    next =>
      cases hfirst with
      | some _ => exact .taken
      | none => exact .vacant (.bind (hcodec depth node) fun x x' hx => .pure ⟨.some hx, hmore⟩)
    next =>
      have hslot := ih hmore
      generalize fields.fieldOfYaml depth name node more = slot,
        fields'.fieldOfYaml depth name node more' = slot' at hslot ⊢
      cases hslot with
      | unknown => exact .unknown
      | taken => exact .taken
      | vacant halike => exact .vacant (.bind halike fun next next' hnext => .pure ⟨hfirst, hnext⟩)

/-- Members of a mapping are read alike. -/
theorem Alike.membersOfYaml (h : Alike S T fields fields') (depth : Nat)
    (pairs : List (Node × Node)) {slots : σ} {slots' : σ'} (hslots : S slots slots') :
    Decode.Alike S (fields.membersOfYaml depth slots pairs)
      (fields'.membersOfYaml depth slots' pairs) := by
  induction pairs generalizing slots slots' with
  | nil => exact .pure hslots
  | cons pair rest ih =>
    obtain ⟨key, node⟩ := pair
    refine .bind (.self (Codec.string.ofYaml depth key)) ?_
    rintro name _ rfl
    have hslot := h.fieldOfYaml depth name node hslots
    generalize fields.fieldOfYaml depth name node slots = slot,
      fields'.fieldOfYaml depth name node slots' = slot' at hslot ⊢
    cases hslot with
    | unknown => exact ih hslots
    | taken => exact .fail _
    | vacant halike => exact .bind halike fun next next' hnext => ih hnext

/-- Fields that are complete in one are complete in the other. -/
theorem Alike.complete (h : Alike S T fields fields') {slots : σ} {slots' : σ'}
    (hslots : S slots slots') {x : τ} (hx : fields.complete slots = .ok x) :
    ∃ x', fields'.complete slots' = .ok x' ∧ T x x' := by
  induction h with
  | nil => exact ⟨(), rfl, trivial⟩
  | @cons α β σ τ σ' τ' R S T field field' fields fields' hname _ habsent _ ih =>
    obtain ⟨x?, more⟩ := slots
    obtain ⟨x'?, more'⟩ := slots'
    obtain ⟨hfirst, hmore⟩ := hslots
    obtain ⟨first, hone, hx⟩ := bind_eq_ok_iff.mp hx
    obtain ⟨others, hothers, hx⟩ := bind_eq_ok_iff.mp hx
    cases hx
    obtain ⟨others', hothers', hrelated⟩ := ih hmore hothers
    have hone' : ∃ first', field'.complete x'? = .ok first' ∧ R first first' := by
      cases hfirst with
      | some hR =>
        cases hone
        exact ⟨_, rfl, hR⟩
      | none =>
        rw [Field.complete] at hone ⊢
        generalize field.absent = absent, field'.absent = absent' at habsent hone ⊢
        cases habsent with
        | refused => cases hone
        | omitted hR | default hR =>
          cases hone
          exact ⟨_, rfl, hR⟩
    obtain ⟨first', hone', hR⟩ := hone'
    exact ⟨(first', others'), bind_eq_ok_iff.mpr ⟨_, hone', bind_eq_ok_iff.mpr ⟨_, hothers', rfl⟩⟩,
      hR, hrelated⟩

end Alike

end Fields

/-- **Records alike.** Records of fields that are read alike are read alike. -/
theorem Record.alike {σ τ σ' τ' : Type} {S : σ → σ' → Prop} {T : τ → τ' → Prop}
    {R : α → β → Prop} {r : Record σ τ α} {r' : Record σ' τ' β}
    (hfields : Fields.Alike S T r.fields r'.fields)
    (hvalues : ∀ x x', T x x' → R (r.ofFields x) (r'.ofFields x')) :
    Codec.Alike R r.codec r'.codec := by
  intro depth node
  refine .bind (.self node.resolve) ?_
  rintro node _ rfl
  have hdone (slots : σ) (slots' : σ') (hslots : S slots slots') :
      Decode.Alike R
        (do
          let x ← Decode.ofOption (r.fields.complete slots).toOption
          return r.ofFields x)
        (do
          let x ← Decode.ofOption (r'.fields.complete slots').toOption
          return r'.ofFields x) := by
    refine .bind (.ofOption fun x hx => ?_) fun x x' hT => .pure (hvalues x x' hT)
    cases hcomplete : r.fields.complete slots with
    | error m =>
      rw [hcomplete] at hx
      cases hx
    | ok y =>
      rw [hcomplete] at hx
      cases hx
      obtain ⟨x', hx', hT⟩ := hfields.complete hslots hcomplete
      exact ⟨x', by rw [hx']; rfl, hT⟩
  dsimp only
  split
  · exact .bind (hfields.membersOfYaml _ _ hfields.vacant) hdone
  · exact .bind (.pure hfields.vacant) hdone
  · exact .bind (.fail _) hdone

end AgentFlow
