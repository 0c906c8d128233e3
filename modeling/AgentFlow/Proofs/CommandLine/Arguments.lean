import AgentFlow.CommandLine.Arguments
import AgentFlow.Proofs.Http.PathId

/-!
# How arguments are written

An option may be written with its value as the next argument, unless the value begins with a hyphen:
it has to stand after an equals sign then. Options that are written like this are read one after
another, each with its value.
-/

namespace AgentFlow.CommandLine

open Number

/-- How an option is named: by its long name or its letter. -/
inductive OptionName where
  | long (name : String)
  | letter (c : Char)

namespace OptionName

/-- The argument that names an option. -/
def text : OptionName → String
  | long name => "--" ++ name
  | letter c => String.ofList ['-', c]

/-- The option of a name among those of a command. -/
def spec? (specs : List OptionSpec) : OptionName → Option OptionSpec
  | long name => specs.find? (·.long == name)
  | letter c => specs.find? (·.letter == some c)

/-- A name that is read as one and does not ask for help. -/
def Plain : OptionName → Prop
  | long name => name ≠ "" ∧ name ≠ "help" ∧ '=' ∉ name.toList
  | letter c => c ≠ '-' ∧ c ≠ 'h'

instance : (name : OptionName) → Decidable name.Plain
  | long _ => inferInstanceAs (Decidable (_ ∧ _ ∧ _))
  | letter _ => inferInstanceAs (Decidable (_ ∧ _))

/-- How the argument reads that names an option and may have a value after an equals sign. -/
def word (value? : Option String) : OptionName → Word
  | long name => .long name value?
  | letter c => .letter c (value?.elim [] fun value => '=' :: value.toList)

/-- A hyphen and a letter are read as that, with what follows them. -/
theorem ofArgument_letter {c : Char} (hc : c ≠ '-') {argument : String} {cs : List Char}
    (hargument : argument.toList = '-' :: c :: cs) : Word.ofArgument argument = .letter c cs := by
  rw [Word.ofArgument, hargument]
  split
  next heq => exact absurd (List.cons.inj (List.cons.inj heq).2).1 hc
  next heq => exact absurd (List.cons.inj (List.cons.inj heq).2).1 hc
  next heq =>
    cases heq
    rfl
  next hother => exact absurd rfl (hother c cs)

/-- Two hyphens and a name are read as that, with what follows an equals sign. -/
theorem ofArgument_long {name : List Char} (hname : name ≠ []) (hequals : '=' ∉ name)
    (argument : String) (value? : Option String)
    (hargument : argument.toList =
      '-' :: '-' :: (name ++ value?.elim [] fun value => '=' :: value.toList)) :
    Word.ofArgument argument = .long (String.ofList name) value? := by
  have hplain : ∀ c ∈ name, (c != '=') = true := by
    intro c hc
    rw [bne_iff_ne]
    rintro rfl
    exact hequals hc
  obtain ⟨d, ds, rfl⟩ := List.exists_cons_of_ne_nil hname
  rw [Word.ofArgument, hargument, List.cons_append]
  cases value? with
  | none =>
    have htake : (d :: ds).takeWhile (· != '=') = d :: ds := List.takeWhile_eq_self_iff.mpr hplain
    have hdrop : (d :: ds).dropWhile (· != '=') = [] := List.dropWhile_eq_nil_iff.mpr hplain
    simp only [Option.elim_none, List.append_nil, htake, hdrop]
  | some value =>
    have htake : (d :: (ds ++ '=' :: value.toList)).takeWhile (· != '=') = d :: ds := by
      rw [← List.cons_append, List.takeWhile_append_of_pos hplain]
      simp
    have hdrop : (d :: (ds ++ '=' :: value.toList)).dropWhile (· != '=') = '=' :: value.toList := by
      rw [← List.cons_append, List.dropWhile_append_of_pos hplain]
      rfl
    simp only [Option.elim_some, htake, hdrop, String.ofList_toList]

/-- An argument with a name alone is read as that. -/
theorem ofArgument_text {name : OptionName} (h : name.Plain) :
    Word.ofArgument name.text = name.word none := by
  cases name with
  | letter c => exact ofArgument_letter h.1 String.toList_ofList
  | long name =>
    obtain ⟨hname, -, hequals⟩ := h
    have hnil : name.toList ≠ [] := by simpa using hname
    have hread := ofArgument_long hnil hequals ("--" ++ name) none
      (by rw [String.toList_append]; simp)
    rw [String.ofList_toList] at hread
    exact hread

/-- An argument with a name and a value is read as that. -/
theorem ofArgument_text_value {name : OptionName} (h : name.Plain) (value : String) :
    Word.ofArgument (name.text ++ "=" ++ value) = name.word (some value) := by
  cases name with
  | letter c =>
    refine ofArgument_letter h.1 ?_
    rw [String.toList_append, String.toList_append, text, String.toList_ofList]
    rfl
  | long name =>
    obtain ⟨hname, -, hequals⟩ := h
    have hnil : name.toList ≠ [] := by simpa using hname
    have hread := ofArgument_long hnil hequals ("--" ++ name ++ "=" ++ value) (some value)
      (by rw [String.toList_append, String.toList_append, String.toList_append]; simp)
    rw [String.ofList_toList] at hread
    exact hread

end OptionName

/-- A value may stand as an argument of its own: it does not begin with a hyphen, or is one. -/
def StandsAlone (value : String) : Prop := value.toList.head? = some '-' → value = "-"

instance (value : String) : Decidable (StandsAlone value) :=
  inferInstanceAs (Decidable (_ → _))

/-- A value that may stand alone is read as one. -/
theorem ofArgument_of_standsAlone {value : String} (h : StandsAlone value) :
    Word.ofArgument value = .value value := by
  rw [Word.ofArgument]
  have hlength {cs : List Char} (htext : value.toList = '-' :: cs) : cs = [] := by
    have hvalue : value = "-" := h (by rw [htext]; rfl)
    rw [hvalue] at htext
    exact (List.cons.inj htext).2.symm
  split
  next htext => cases hlength htext
  next htext => cases hlength htext
  next htext => cases hlength htext
  next => rfl

/-- An option with its value, which stands after an equals sign where it may not stand alone. -/
def written (name : OptionName) (value : String) : List String :=
  if StandsAlone value then [name.text, value] else [name.text ++ "=" ++ value]

section Options

variable (specs : List OptionSpec) {name : OptionName} {spec : OptionSpec} {given : Given}

/-- Once a name has been read, its option has taken the value that is attached, or waits for one. -/
theorem readOptions_name (hplain : name.Plain) (hspec : name.spec? specs = some spec)
    {value? : Option String} {argument : String}
    (hargument : Word.ofArgument argument = name.word value?) {waiting : Option OptionSpec}
    {next : Given}
    (hnext : CommandLine.name spec value? given = some (waiting, next)) (rest : List String) :
    readOptions specs none given (argument :: rest) = readOptions specs waiting next rest := by
  cases name with
  | letter c =>
    have hletter : c ≠ 'h' := hplain.2
    have hattached : attached (value?.elim [] fun value => '=' :: value.toList) = value? := by
      cases value? with
      | none => rfl
      | some value => simp only [Option.elim_some, attached, String.ofList_toList]
    have hfound : specs.find? (·.letter == some c) = some spec := hspec
    simp only [readOptions, hargument, OptionName.word, hfound, Option.bind_some, hattached, hnext]
  | long long =>
    have hhelp : long ≠ "help" := hplain.2.1
    have hfound : specs.find? (·.long == long) = some spec := hspec
    simp only [readOptions, hargument, OptionName.word]
    split
    next heq => cases heq
    next heq => cases heq
    next heq => exact absurd (Word.long.inj heq).1 hhelp
    next heq => cases heq
    next heq =>
      cases heq
      simp only [hfound, Option.bind_some, hnext]
    next heq => cases heq
    next hother _ => exact (hother long value? rfl rfl).elim

/-- An option that is written with its value is read, and then what comes after it. -/
theorem readOptions_written (hplain : name.Plain) (hspec : name.spec? specs = some spec)
    {value : String} {after : Given} (haccept : spec.accept value given = some after)
    (rest : List String) :
    readOptions specs none given (written name value ++ rest) =
      readOptions specs none after rest := by
  rw [written]
  split
  next halone =>
    rw [List.cons_append, List.cons_append, List.nil_append,
      readOptions_name specs hplain hspec (OptionName.ofArgument_text hplain) rfl]
    simp only [readOptions, ofArgument_of_standsAlone halone, haccept]
  next =>
    have hnext : CommandLine.name spec (some value) given = some (none, after) := by
      rw [CommandLine.name, haccept]
      rfl
    rw [List.cons_append, List.nil_append, readOptions_name specs hplain hspec
      (OptionName.ofArgument_text_value hplain value) hnext]

/-- The options are complete after one that is written with its value. -/
theorem readOptions_written_last (hplain : name.Plain) (hspec : name.spec? specs = some spec)
    {value : String} {after : Given} (haccept : spec.accept value given = some after) :
    readOptions specs none given (written name value) = .complete after := by
  have hread := readOptions_written specs hplain hspec haccept []
  rw [List.append_nil] at hread
  exact hread

end Options

/-! ### Commands -/

/-- The arguments that ask for the compilation of a catalog. -/
def validateArguments (path : String) : List String := "validate" :: written (.letter 'c') path

/-- The arguments that ask for a run of a workflow by the worker that does nothing but tell,
possibly after a message of the user. -/
def runArguments (path : String) (id : Int) (input : Option String) : List String :=
  "run" :: (written (.letter 'c') path ++ (written (.letter 'i') (Http.idText id) ++
    (input.elim [] (written (.long "input")) ++ written (.long "worker") "placeholder")))

section Commands

variable {path : String} (hpath : path ≠ "")

include hpath

/-- A catalog is taken if none was given. -/
theorem accept_catalog (given : Given) (hgiven : given.catalog = none) :
    OptionSpec.catalog.accept path given = some { given with catalog := some path } := by
  have hread : readPath? path = some path := by rw [readPath?, if_neg (by simpa using hpath)]
  simp [OptionSpec.catalog, hread, hgiven, once]

/-- A compilation is asked for. -/
theorem ofArguments_validate :
    Invocation.ofArguments (validateArguments path) = .command (.validate path) := by
  have hread : readOptions [.catalog] none ⟨none, none, none, none, none, none⟩
      (written (.letter 'c') path) = .complete ⟨none, none, some path, none, none, none⟩ :=
    readOptions_written_last _ (by decide) rfl (accept_catalog hpath _ rfl)
  simp only [validateArguments, Invocation.ofArguments, invocation, hread]
  rfl

/-- A run is asked for. -/
theorem ofArguments_run {id : Int} (hid : IntRange.int64.contains id = true)
    (input : Option String) :
    Invocation.ofArguments (runArguments path id input) =
      .command (.run path id input (some .placeholder)) := by
  let specs : List OptionSpec := [.catalog, .workflow, .input, .worker]
  have hnumber : readInt? .int64 (Http.idText id).toList = some id := by
    rw [Http.idText, String.toList_ofList]
    exact (readInt?_eq_some_iff (by decide)).mpr ⟨Json.writesInt_intText id, hid⟩
  have hworkflow : OptionSpec.workflow.accept (Http.idText id)
      ⟨none, none, some path, none, none, none⟩ =
        some ⟨none, none, some path, some id, none, none⟩ := by
    simp [OptionSpec.workflow, hnumber, once]
  have hworker (input : Option String) : readOptions specs none
      ⟨none, none, some path, some id, input, none⟩ (written (.long "worker") "placeholder") =
        .complete ⟨none, none, some path, some id, input, some .placeholder⟩ :=
    readOptions_written_last specs (by decide) rfl (by rfl)
  have hoptions : readOptions specs none ⟨none, none, none, none, none, none⟩
      (written (.letter 'c') path ++ (written (.letter 'i') (Http.idText id) ++
        (input.elim [] (written (.long "input")) ++ written (.long "worker") "placeholder"))) =
          .complete ⟨none, none, some path, some id, input, some .placeholder⟩ := by
    rw [readOptions_written specs (by decide) rfl (accept_catalog hpath _ rfl),
      readOptions_written specs (by decide) rfl hworkflow]
    cases input with
    | none => exact hworker none
    | some text =>
      have hinput : OptionSpec.input.accept text ⟨none, none, some path, some id, none, none⟩ =
          some ⟨none, none, some path, some id, some text, none⟩ := by rfl
      rw [Option.elim_some, readOptions_written specs (by decide) rfl hinput]
      exact hworker (some text)
  simp only [runArguments, Invocation.ofArguments, invocation]
  rw [hoptions]
  rfl

end Commands

end AgentFlow.CommandLine
