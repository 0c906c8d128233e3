import AgentFlow.Codec.Record

/-!
# Records of wider fields

A codec widens another one if it reads whatever the other one reads, as something that tells what
that was. If one record has wider fields than another one of the same names, it reads every text
that the other one reads, and tells the same of each field: members and elements are found, passed
over and missing in both at the same time.
-/

namespace AgentFlow

open Json

/-- One codec reads what another one reads, as what is made of it. -/
def Codec.Widens {α β : Type} (wide : Codec β) (c : Codec α) (widen : α → β) : Prop :=
  ∀ depth cs x rest, c.read depth cs = .ok (x, rest) → wide.read depth cs = .ok (widen x, rest)

/-- A codec widens itself. -/
theorem Codec.widens_self {α : Type} (c : Codec α) : c.Widens c id := fun _ _ _ _ h => h

/-- A whole text is read by a codec that widens one by which it is read. -/
theorem Codec.Widens.parse {α β : Type} {wide : Codec β} {c : Codec α} {widen : α → β}
    (h : wide.Widens c widen) {text : String} {x : α} (hread : c.parse text = .ok x) :
    wide.parse text = .ok (widen x) := by
  obtain ⟨⟨y, rest⟩, hy, hend⟩ := bind_eq_ok_iff.mp hread
  refine bind_eq_ok_iff.mpr ⟨(widen y, rest), h _ _ y rest hy, ?_⟩
  dsimp only at hend ⊢
  split at hend
  next =>
    cases hend
    rfl
  next => cases hend

/-- What stands for a missing field, as something else. -/
def Absent.map {α β : Type} (f : α → β) : Absent α → Absent β
  | refused => .refused
  | omitted x => .omitted (f x)
  | default x => .default (f x)

/-- A reading of a part succeeds if the reading does. -/
theorem Json.Read.within_eq_ok_iff {α : Type} {segment : Segment} {r : Read α} {x : α} :
    Read.within segment r = .ok x ↔ r = .ok x := by
  cases r with
  | error f => exact ⟨nofun, nofun⟩
  | ok y => exact Iff.rfl

/-- An array is read if its inside is and it ends after that. -/
theorem Json.finishArray_eq_ok_iff {α : Type} {inside : Read (α × List Char)} {x : α}
    {rest : List Char} :
    finishArray inside = .ok (x, rest) ↔
      ∃ left, inside = .ok (x, left) ∧ closeArray left = (none, rest) := by
  cases inside with
  | error f => exact ⟨nofun, nofun⟩
  | ok r =>
    obtain ⟨y, left⟩ := r
    constructor
    · intro h
      simp only [finishArray] at h
      split at h
      next hclose =>
        cases h
        exact ⟨left, rfl, hclose⟩
      next => cases h
    · rintro ⟨_, hinside, hclose⟩
      cases hinside
      simp only [finishArray, hclose]

/-- An object is read if its inside is and it ends after that. -/
theorem Json.finishObject_eq_ok_iff {α : Type} {inside : Read (α × List Char)} {x : α}
    {rest : List Char} :
    finishObject inside = .ok (x, rest) ↔
      ∃ left, inside = .ok (x, left) ∧ closeObject left = (none, rest) := by
  cases inside with
  | error f => exact ⟨nofun, nofun⟩
  | ok r =>
    obtain ⟨y, left⟩ := r
    constructor
    · intro h
      simp only [finishObject] at h
      split at h
      next hclose =>
        cases h
        exact ⟨left, rfl, hclose⟩
      next => cases h
    · rintro ⟨_, hinside, hclose⟩
      cases hinside
      simp only [finishObject, hclose]

namespace Fields

/-- Fields have the names of others, and each one's codec widens that of the other. -/
inductive Widens : {σ' τ' σ τ : Type} →
    Fields σ' τ' → Fields σ τ → (σ → σ') → (τ → τ') → Prop
  | nil : Widens nil nil id id
  | cons {α β σ' τ' σ τ : Type} {wide : Field β} {field : Field α} {wides : Fields σ' τ'}
      {fields : Fields σ τ} {widen : α → β} {slots : σ → σ'} {values : τ → τ'} :
      wide.name = field.name → wide.codec.Widens field.codec widen →
      wide.absent = field.absent.map widen → Widens wides fields slots values →
      Widens (cons wide wides) (cons field fields) (Prod.map (Option.map widen) slots)
        (Prod.map widen values)

/-- A field that stays as it is widens itself. -/
theorem Widens.keep {α σ' τ' σ τ : Type} {wides : Fields σ' τ'} {fields : Fields σ τ}
    {slots : σ → σ'} {values : τ → τ'} (field : Field α) (h : wides.Widens fields slots values) :
    (Fields.cons field wides).Widens (.cons field fields) (Prod.map id slots)
      (Prod.map id values) := by
  have habsent : field.absent = field.absent.map id := by cases field.absent <;> rfl
  have hcons := Widens.cons rfl field.codec.widens_self habsent h
  rwa [Option.map_id_fun] at hcons

/-- What is to be done with a member is the same for the wider fields, and reads what is read for
the others. -/
inductive Slot.Widens {σ' σ : Type} (slots : σ → σ') :
    Slot (List Char → Read (σ' × List Char)) → Slot (List Char → Read (σ × List Char)) → Prop
  | unknown : Widens slots .unknown .unknown
  | taken : Widens slots .taken .taken
  | vacant {wide : List Char → Read (σ' × List Char)} {read : List Char → Read (σ × List Char)} :
      (∀ cs next rest, read cs = .ok (next, rest) → wide cs = .ok (slots next, rest)) →
      Widens slots (.vacant wide) (.vacant read)

section Widens

variable {σ' τ' σ τ : Type} {wides : Fields σ' τ'} {fields : Fields σ τ} {slots : σ → σ'}
  {values : τ → τ'}

/-- Nothing has been read of the wider fields if nothing has of the others. -/
theorem Widens.vacant (h : wides.Widens fields slots values) :
    wides.vacant = slots fields.vacant := by
  induction h with
  | nil => rfl
  | cons _ _ _ _ ih => simp only [Fields.vacant, ih, Prod.map, Option.map_none]

/-- A member belongs to the same field among the wider ones. -/
theorem Widens.readField (h : wides.Widens fields slots values) (depth : Nat) (name : String)
    (read : σ) : Slot.Widens slots (wides.readField depth name (slots read))
      (fields.readField depth name read) := by
  induction h with
  | nil => exact .unknown
  | @cons α β σ' τ' σ τ wide field wides fields widen slots values hname hcodec _ _ ih =>
    obtain ⟨x?, read⟩ := read
    simp only [Fields.readField, Prod.map, hname]
    split
    next =>
      cases x? with
      | some x => exact .taken
      | none =>
        refine .vacant fun cs next rest h => ?_
        obtain ⟨⟨x, left⟩, hx, hnext⟩ := bind_eq_ok_iff.mp h
        cases hnext
        exact bind_eq_ok_iff.mpr ⟨(widen x, left), hcodec depth cs x left hx, rfl⟩
    next =>
      have hslot := ih read
      generalize wides.readField depth name (slots read) = wideSlot,
        fields.readField depth name read = slot at hslot ⊢
      cases hslot with
      | unknown => exact .unknown
      | taken => exact .taken
      | vacant hread =>
        refine .vacant fun cs next rest h => ?_
        obtain ⟨⟨more, left⟩, hmore, hnext⟩ := bind_eq_ok_iff.mp h
        cases hnext
        exact bind_eq_ok_iff.mpr ⟨(slots more, left), hread cs more left hmore, rfl⟩

/-- Members are read of the wider fields, if they are of the others. -/
theorem Widens.readMembers (h : wides.Widens fields slots values) {depth turns : Nat} {first : Bool}
    {read final : σ} {cs rest : List Char}
    (hread : fields.readMembers depth turns first read cs = .ok (final, rest)) :
    wides.readMembers depth turns first (slots read) cs = .ok (slots final, rest) := by
  induction turns generalizing first read cs with
  | zero => cases hread
  | succ turns ih =>
    rw [Fields.readMembers] at hread ⊢
    obtain ⟨⟨more, cs⟩, hkey, hread⟩ := bind_eq_ok_iff.mp hread
    refine bind_eq_ok_iff.mpr ⟨_, hkey, ?_⟩
    cases more with
    | false =>
      cases hread
      rfl
    | true =>
      obtain ⟨⟨name, cs⟩, hname, hread⟩ := bind_eq_ok_iff.mp hread
      refine bind_eq_ok_iff.mpr ⟨_, hname, ?_⟩
      have hslot := h.readField depth name read
      simp only at hread ⊢
      generalize wides.readField depth name (slots read) = wideSlot,
        fields.readField depth name read = slot at hslot hread ⊢
      cases hslot with
      | taken => cases hread
      | unknown =>
        obtain ⟨_, hcolon, hread⟩ := bind_eq_ok_iff.mp hread
        obtain ⟨_, hskip, hread⟩ := bind_eq_ok_iff.mp hread
        exact bind_eq_ok_iff.mpr ⟨_, hcolon, bind_eq_ok_iff.mpr ⟨_, hskip, ih hread⟩⟩
      | vacant hvalue =>
        obtain ⟨_, hcolon, hread⟩ := bind_eq_ok_iff.mp hread
        obtain ⟨⟨next, cs⟩, hnext, hread⟩ := bind_eq_ok_iff.mp hread
        refine bind_eq_ok_iff.mpr ⟨_, hcolon, bind_eq_ok_iff.mpr ⟨(slots next, cs), ?_, ih hread⟩⟩
        exact Read.within_eq_ok_iff.mpr (hvalue _ next cs (Read.within_eq_ok_iff.mp hnext))

/-- The wider fields are complete if the others are. -/
theorem Widens.complete (h : wides.Widens fields slots values) {read : σ} {x : τ}
    (hread : fields.complete read = .ok x) : wides.complete (slots read) = .ok (values x) := by
  induction h with
  | nil => rfl
  | @cons α β σ' τ' σ τ wide field wides fields widen slots values _ _ habsent _ ih =>
    obtain ⟨x?, read⟩ := read
    obtain ⟨first, hfirst, hread⟩ := bind_eq_ok_iff.mp hread
    obtain ⟨others, hothers, hx⟩ := bind_eq_ok_iff.mp hread
    cases hx
    have hwide : wide.complete (x?.map widen) = .ok (widen first) := by
      cases x? with
      | some x =>
        cases hfirst
        rfl
      | none =>
        rw [Field.complete] at hfirst
        rw [Option.map_none, Field.complete, habsent]
        cases hfield : field.absent with
        | refused =>
          rw [hfield] at hfirst
          cases hfirst
        | omitted x | default x =>
          rw [hfield] at hfirst
          cases hfirst
          rfl
    exact bind_eq_ok_iff.mpr ⟨_, hwide, bind_eq_ok_iff.mpr ⟨_, ih hothers, rfl⟩⟩

/-- An object is read of the wider fields, if it is of the others. -/
theorem Widens.readObject (h : wides.Widens fields slots values) {depth : Nat} {x : τ}
    {cs rest : List Char} (hread : fields.readObject depth cs = .ok (x, rest)) :
    wides.readObject depth cs = .ok (values x, rest) := by
  obtain ⟨left, hinside, hclose⟩ := finishObject_eq_ok_iff.mp hread
  obtain ⟨⟨read, left'⟩, hmembers, hinside⟩ := bind_eq_ok_iff.mp hinside
  refine finishObject_eq_ok_iff.mpr ⟨left, bind_eq_ok_iff.mpr ⟨(slots read, left'), ?_, ?_⟩, hclose⟩
  · rw [h.vacant]
    exact h.readMembers hmembers
  · cases hcomplete : fields.complete read with
    | error m => simp only [hcomplete, reduceCtorEq] at hinside
    | ok y =>
      simp only [hcomplete] at hinside
      cases hinside
      simp only [h.complete hcomplete]
      rfl

/-- Elements are read of the wider fields, if they are of the others. -/
theorem Widens.readElements (h : wides.Widens fields slots values) {expected : String}
    (expected' : String) {depth index : Nat} {x : τ} {cs rest : List Char}
    (hread : fields.readElements expected depth index cs = .ok (x, rest)) :
    wides.readElements expected' depth index cs = .ok (values x, rest) := by
  induction h generalizing index cs with
  | nil =>
    cases hread
    rfl
  | @cons α β σ' τ' σ τ wide field wides fields widen slots values _ hcodec habsent _ ih =>
    rw [Fields.readElements] at hread ⊢
    obtain ⟨⟨more, cs⟩, hnext, hread⟩ := bind_eq_ok_iff.mp hread
    refine bind_eq_ok_iff.mpr ⟨_, hnext, ?_⟩
    cases more with
    | true =>
      obtain ⟨⟨first, cs⟩, hfirst, hread⟩ := bind_eq_ok_iff.mp hread
      obtain ⟨⟨others, left⟩, hothers, hx⟩ := bind_eq_ok_iff.mp hread
      cases hx
      have hvalue := hcodec depth _ first cs (Read.within_eq_ok_iff.mp hfirst)
      exact bind_eq_ok_iff.mpr ⟨_, Read.within_eq_ok_iff.mpr hvalue,
        bind_eq_ok_iff.mpr ⟨_, ih hothers, rfl⟩⟩
    | false =>
      simp only [Bool.false_eq_true, if_false] at hread ⊢
      rw [habsent]
      cases hfield : field.absent with
      | default x =>
        simp only [hfield] at hread
        obtain ⟨_, hdefault, hread⟩ := bind_eq_ok_iff.mp hread
        cases hdefault
        obtain ⟨⟨others, left⟩, hothers, hx⟩ := bind_eq_ok_iff.mp hread
        cases hx
        exact bind_eq_ok_iff.mpr ⟨_, rfl, bind_eq_ok_iff.mpr ⟨_, ih hothers, rfl⟩⟩
      | refused | omitted x =>
        simp only [hfield] at hread
        cases hread

end Widens

end Fields

/-- What is taken for nothing is not read. -/
theorem Codec.readLeaf_ne_ok {α : Type} (fault : Json → Mismatch) {cs : List Char}
    {r : α × List Char} : readLeaf (fun v => .error (fault v)) cs ≠ .ok r := by
  intro h
  rw [readLeaf] at h
  split at h
  · cases h
  · split at h
    · cases h
    · obtain ⟨_, _, h⟩ := bind_eq_ok_iff.mp h
      cases h

/-- A record is read from an object or from an array, in which one more may be open than inside. -/
theorem Record.read_eq_ok_iff {σ τ α : Type} {r : Record σ τ α} {depth : Nat} {cs rest : List Char}
    {x : α} :
    r.codec.read depth cs = .ok (x, rest) ↔
      ∃ inside values, depth = inside + 1 ∧ r.ofFields values = x ∧
        ((∃ cs', skipSpace cs = '{' :: cs' ∧ r.fields.readObject inside cs' = .ok (values, rest)) ∨
          ∃ cs', skipSpace cs = '[' :: cs' ∧
            finishArray (r.fields.readElements r.expectedLength inside 0 cs') =
              .ok (values, rest)) := by
  simp only [codec]
  constructor
  · intro h
    split at h
    case h_4 cs' hskip =>
      obtain ⟨⟨values, left⟩, hread, h⟩ := bind_eq_ok_iff.mp h
      cases h
      exact ⟨_, values, rfl, rfl, .inl ⟨cs', hskip, hread⟩⟩
    case h_5 cs' hskip =>
      obtain ⟨⟨values, left⟩, hread, h⟩ := bind_eq_ok_iff.mp h
      cases h
      exact ⟨_, values, rfl, rfl, .inr ⟨cs', hskip, hread⟩⟩
    case h_6 => exact absurd h (Codec.readLeaf_ne_ok _)
    all_goals cases h
  · rintro ⟨inside, values, rfl, rfl, ⟨cs', hskip, hread⟩ | ⟨cs', hskip, hread⟩⟩
    · simp only [hskip]
      exact bind_eq_ok_iff.mpr ⟨_, hread, rfl⟩
    · simp only [hskip]
      exact bind_eq_ok_iff.mpr ⟨_, hread, rfl⟩

/-- **Wider records.** A record of wider fields is read from every text that the other record is
read from, with the values that tell those of the other. -/
theorem Record.widens {σ' τ' σ τ α β : Type} {wide : Record σ' τ' β} {r : Record σ τ α}
    {slots : σ → σ'} {values : τ → τ'} {widen : α → β}
    (hfields : wide.fields.Widens r.fields slots values)
    (hvalues : ∀ x, wide.ofFields (values x) = widen (r.ofFields x)) :
    wide.codec.Widens r.codec widen := by
  intro depth cs x rest hread
  obtain ⟨inside, y, rfl, rfl, hform⟩ := read_eq_ok_iff.mp hread
  refine read_eq_ok_iff.mpr ⟨inside, values y, rfl, hvalues y, ?_⟩
  rcases hform with ⟨cs', hskip, hobject⟩ | ⟨cs', hskip, harray⟩
  · exact .inl ⟨cs', hskip, hfields.readObject hobject⟩
  · obtain ⟨left, helements, hclose⟩ := finishArray_eq_ok_iff.mp harray
    exact .inr ⟨cs', hskip, finishArray_eq_ok_iff.mpr
      ⟨left, hfields.readElements wide.expectedLength helements, hclose⟩⟩

end AgentFlow
