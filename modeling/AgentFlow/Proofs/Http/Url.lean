import AgentFlow.Http.Message
import Mathlib.Data.List.DropRight

/-!
# Addresses on the web

How the text of an address is taken apart, and the path that it names, by the URL standard. The
slashes of a path may be written as backslashes, a segment of dots stands for no place of its own
but for this one or the one above, and some characters are escaped. What is appended to a text lies
below the path that is named there, unless a query or a fragment has begun.
-/

namespace AgentFlow.Http

/-! ### The parts of an address -/

/-- A character that does not count at the ends of an address: a space or a control character. -/
def isPadding (c : Char) : Bool := c.toNat ≤ 0x20

/-- A character that counts nowhere in an address: a tab or a line break. -/
def isSkipped (c : Char) : Bool := c == '\t' || c == '\n' || c == '\r'

/-- A slash of either kind. -/
def isSlash (c : Char) : Bool := c == '/' || c == '\\'

/-- A character at which the authority ends: where the path, the query or the fragment begins. -/
def endsAuthority (c : Char) : Bool := isSlash c || endsPath c

/-- The characters of an address that count. -/
def counted (cs : List Char) : List Char :=
  ((cs.dropWhile isPadding).rdropWhile isPadding).filter (!isSkipped ·)

namespace Url

/-- The parts of the text of an address. -/
structure Parts where
  /-- The name of the scheme, in small letters. -/
  scheme : List Char
  /-- The host, with the user and the port if they are named. -/
  authority : List Char
  /-- What is written behind it: the path with the slash before it, the query and the fragment. -/
  below : List Char

/-- The path as it is written. -/
def Parts.path (parts : Parts) : List Char := parts.below.takeWhile (!endsPath ·)

/-- The parts of an address on the web. However many slashes stand before the host, it is the host
that follows them. -/
def parts? (text : String) : Option Parts :=
  let cs := counted text.toList
  match cs.dropWhile isSchemeChar with
  | ':' :: rest =>
    let scheme := (cs.takeWhile isSchemeChar).map Char.toLower
    let behind := rest.dropWhile isSlash
    let authority := behind.takeWhile (!endsAuthority ·)
    if (scheme = "http".toList ∨ scheme = "https".toList) ∧ authority ≠ [] then
      some ⟨scheme, authority, behind.dropWhile (!endsAuthority ·)⟩
    else none
  | _ => none

end Url

section Cuts

variable {α : Type} {p : α → Bool} {x : α}

/-- What is taken while a property holds ends before an element without it. -/
theorem takeWhile_append_cons (hx : p x = false) (xs ys : List α) :
    (xs ++ x :: ys).takeWhile p = xs.takeWhile p := by
  induction xs with
  | nil => simp [hx]
  | cons c xs ih => simp only [List.cons_append, List.takeWhile_cons, ih]

/-- What is dropped while a property holds ends before an element without it. -/
theorem dropWhile_append_cons (hx : p x = false) (xs ys : List α) :
    (xs ++ x :: ys).dropWhile p = xs.dropWhile p ++ x :: ys := by
  induction xs with
  | nil => simp [hx]
  | cons c xs ih =>
    simp only [List.cons_append, List.dropWhile_cons, ih]
    split <;> rfl

/-- What is dropped does not hold a character that is looked for. -/
theorem any_dropWhile {q : α → Bool} (h : ∀ y, p y = true → q y = false) (xs : List α) :
    (xs.dropWhile p).any q = xs.any q := by
  induction xs with
  | nil => rfl
  | cons y xs ih =>
    rw [List.dropWhile_cons]
    split
    next hy => rw [ih, List.any_cons, h y hy, Bool.false_or]
    next => rfl

end Cuts

/-- What counts nowhere does not count at the ends either. -/
theorem not_isSkipped_of_not_isPadding {c : Char} (h : isPadding c = false) :
    isSkipped c = false := by
  cases hskipped : isSkipped c with
  | false => rfl
  | true =>
    simp only [isSkipped, Bool.or_eq_true, beq_iff_eq] at hskipped
    rcases hskipped with (rfl | rfl) | rfl <;> cases h

/-- Behind a character that counts at the ends, all characters do if they are such ones too. -/
theorem counted_append (front : List Char) {rest : List Char} (hne : rest ≠ [])
    (h : ∀ c ∈ rest, isPadding c = false) :
    counted (front ++ rest) = (front.dropWhile isPadding).filter (!isSkipped ·) ++ rest := by
  obtain ⟨c, rest, rfl⟩ := List.exists_cons_of_ne_nil hne
  have hkept : (front.dropWhile isPadding ++ c :: rest).rdropWhile isPadding =
      front.dropWhile isPadding ++ c :: rest := by
    rw [List.rdropWhile_eq_self_iff]
    intro _
    rw [List.getLast_append_of_ne_nil _ hne, h _ (List.getLast_mem hne)]
    exact Bool.false_ne_true
  have hall : (c :: rest).filter (!isSkipped ·) = c :: rest :=
    List.filter_eq_self.mpr fun d hd => by rw [not_isSkipped_of_not_isPadding (h d hd)]; rfl
  rw [counted, dropWhile_append_cons (h c List.mem_cons_self), hkept, List.filter_append, hall]

/-- A text that ends with a character that counts there is continued by such characters. -/
theorem counted_append_of_getLast? {cs rest : List Char}
    (hlast : ∀ c, cs.getLast? = some c → isPadding c = false) (hcs : cs ≠ [])
    (hrest : ∀ c ∈ rest, isPadding c = false) :
    counted (cs ++ rest) = counted cs ++ rest ∧ (counted cs).getLast? = cs.getLast? := by
  obtain ⟨front, last, rfl⟩ := (List.eq_nil_or_concat cs).resolve_left hcs
  rw [List.concat_eq_append] at hlast ⊢
  have hplain : isPadding last = false := hlast last List.getLast?_concat
  have hone := counted_append front (List.cons_ne_nil last [])
    (List.forall_mem_singleton.mpr hplain)
  have hmore := counted_append front (List.cons_ne_nil last rest)
    (List.forall_mem_cons.mpr ⟨hplain, hrest⟩)
  constructor
  · rw [hone, List.append_assoc, List.append_assoc]
    exact hmore
  · rw [hone, List.getLast?_append, List.getLast?_append]
    rfl

/-- Characters of a kind to which neither the question mark nor the number sign belongs end no
path. -/
theorem not_endsPath {p : Char → Bool} (hquestion : p '?' = false) (hnumber : p '#' = false)
    (c : Char) (hc : p c = true) : endsPath c = false := by
  rw [endsPath, Bool.or_eq_false_iff, beq_eq_false_iff_ne, beq_eq_false_iff_ne]
  constructor
  · rintro rfl
    cases hquestion.symm.trans hc
  · rintro rfl
    cases hnumber.symm.trans hc

/-- A small letter is no sign of an address. -/
theorem plain_of_isLower {c : Char} (h : c.isLower = true) :
    isSlash c = false ∧ isPadding c = false ∧ endsPath c = false := by
  have hbegin : 'a' ≤ c := of_decide_eq_true (Bool.and_eq_true_iff.mp h).1
  have hrange : 97 ≤ c.toNat := UInt32.le_iff_toNat_le.mp hbegin
  refine ⟨?_, decide_eq_false (by omega), not_endsPath (p := Char.isLower) rfl rfl c h⟩
  rw [isSlash, Bool.or_eq_false_iff, beq_eq_false_iff_ne, beq_eq_false_iff_ne]
  constructor <;> (rintro rfl; cases h)

/-- A query or a fragment is begun by characters that count. -/
theorem any_endsPath_counted (cs : List Char) : (counted cs).any endsPath = cs.any endsPath := by
  have hskipped (c : Char) : (!isSkipped c && endsPath c) = endsPath c := by
    cases hc : isSkipped c with
    | false => rfl
    | true => exact (not_endsPath (p := isSkipped) rfl rfl c hc).symm
  rw [counted, List.any_filter]
  simp only [hskipped]
  rw [List.rdropWhile, List.any_reverse, any_dropWhile (not_endsPath rfl rfl), List.any_reverse,
    any_dropWhile (not_endsPath rfl rfl)]

namespace Url

variable {text : String} {parts : Parts} {rest : List Char}

/-- How the parts of an address lie in its text. -/
theorem exists_of_parts?_eq_some (h : parts? text = some parts) :
    ∃ rest, (counted text.toList).dropWhile isSchemeChar = ':' :: rest ∧
      parts.scheme = ((counted text.toList).takeWhile isSchemeChar).map Char.toLower ∧
      (parts.scheme = "http".toList ∨ parts.scheme = "https".toList) ∧
      parts.authority = (rest.dropWhile isSlash).takeWhile (!endsAuthority ·) ∧
      parts.authority ≠ [] ∧
      parts.below = (rest.dropWhile isSlash).dropWhile (!endsAuthority ·) := by
  unfold parts? at h
  dsimp only at h
  split at h
  next rest hrest =>
    split at h
    next hweb =>
      cases h
      exact ⟨rest, hrest, rfl, hweb.1, rfl, hweb.2, rfl⟩
    next => cases h
  next => cases h

/-- A query or a fragment begins behind the host. -/
theorem any_endsPath_below (h : parts? text = some parts) :
    parts.below.any endsPath = text.toList.any endsPath := by
  obtain ⟨rest, hrest, -, -, -, -, hbelow⟩ := exists_of_parts?_eq_some h
  have hall : (counted text.toList).any endsPath = (':' :: rest).any endsPath := by
    rw [← hrest, any_dropWhile (not_endsPath rfl rfl)]
  rw [hbelow, any_dropWhile (not_endsPath rfl rfl), any_dropWhile (not_endsPath rfl rfl),
    ← any_endsPath_counted text.toList, hall]
  rfl

/-- What stands behind the host begins with a slash, a query or a fragment. -/
theorem endsAuthority_of_head?_below (h : parts? text = some parts) {c : Char}
    (hc : parts.below.head? = some c) : endsAuthority c = true := by
  obtain ⟨rest, -, -, -, -, -, hbelow⟩ := exists_of_parts?_eq_some h
  have hhead := List.head?_dropWhile_not (!endsAuthority ·) (rest.dropWhile isSlash)
  rw [← hbelow, hc] at hhead
  simpa using hhead

/-- What stands behind the host ends as the text does. -/
theorem getLast?_below (h : parts? text = some parts)
    (hlast : ∀ c, text.toList.getLast? = some c → isPadding c = false) (hne : parts.below ≠ []) :
    parts.below.getLast? = text.toList.getLast? := by
  obtain ⟨rest, hrest, -, -, -, -, hbelow⟩ := exists_of_parts?_eq_some h
  have htext : text.toList ≠ [] := by
    intro hnil
    rw [hnil] at hrest
    cases hrest
  have hsuffix : parts.below <:+ counted text.toList := by
    rw [hbelow]
    refine (List.dropWhile_suffix _).trans ((List.dropWhile_suffix _).trans ?_)
    exact (List.suffix_cons ':' rest).trans (hrest ▸ List.dropWhile_suffix _)
  obtain ⟨front, hfront⟩ := hsuffix
  rw [← (counted_append_of_getLast? hlast htext (List.forall_mem_nil _)).2, ← hfront,
    List.getLast?_append_of_ne_nil _ hne]

/-- What is appended to an address is appended behind its host. -/
theorem parts?_append (h : parts? text = some parts)
    (hlast : ∀ c, text.toList.getLast? = some c → isPadding c = false)
    (hrest : ∀ c ∈ '/' :: rest, isPadding c = false) :
    parts? (text ++ String.ofList ('/' :: rest)) =
      some { parts with below := parts.below ++ '/' :: rest } := by
  obtain ⟨behind, hbehind, hscheme, hweb, hauthority, hne, hbelow⟩ := exists_of_parts?_eq_some h
  have htext : text.toList ≠ [] := by
    intro hnil
    rw [hnil] at hbehind
    cases hbehind
  have hcounted := (counted_append_of_getLast? hlast htext hrest).1
  have hslashes : (behind ++ '/' :: rest).dropWhile isSlash =
      behind.dropWhile isSlash ++ '/' :: rest := by
    rw [List.dropWhile_append, if_neg]
    intro hempty
    rw [List.isEmpty_iff.mp hempty] at hauthority
    exact hne hauthority
  have hstops : isSchemeChar '/' = false := rfl
  have htaken : (behind.dropWhile isSlash ++ '/' :: rest).takeWhile (!endsAuthority ·) =
      parts.authority := hauthority ▸ takeWhile_append_cons rfl _ _
  have hleft : (behind.dropWhile isSlash ++ '/' :: rest).dropWhile (!endsAuthority ·) =
      parts.below ++ '/' :: rest := hbelow ▸ dropWhile_append_cons rfl _ _
  unfold parts?
  simp only [String.toList_append, String.toList_ofList, hcounted, dropWhile_append_cons hstops,
    takeWhile_append_cons hstops, hbehind, List.cons_append, hslashes, htaken, hleft, ← hscheme,
    if_pos (And.intro hweb hne)]

/-- The path goes on as long as neither a query nor a fragment has begun. -/
theorem Parts.path_append (parts : Parts) (hrest : rest.any endsPath = false) :
    (parts.below.any endsPath = false →
      parts.path = parts.below ∧
        { parts with below := parts.below ++ rest }.path = parts.path ++ rest) ∧
      (parts.below.any endsPath = true →
        { parts with below := parts.below ++ rest }.path = parts.path) := by
  constructor
  · intro h
    have hplain {cs : List Char} (hcs : cs.any endsPath = false) :
        ∀ c ∈ cs, (!endsPath c) = true := by simpa using hcs
    have hpath : parts.path = parts.below := List.takeWhile_eq_self_iff.mpr (hplain h)
    refine ⟨hpath, ?_⟩
    rw [hpath]
    refine List.takeWhile_eq_self_iff.mpr (hplain ?_)
    rw [List.any_append, h, hrest]
    rfl
  · intro h
    obtain ⟨c, hc, hends⟩ := List.any_eq_true.mp h
    obtain ⟨front, back, hsplit⟩ := List.append_of_mem hc
    have hstop : (!endsPath c) = false := by rw [hends]; rfl
    simp only [Parts.path, hsplit, List.append_assoc, List.cons_append,
      takeWhile_append_cons (p := (!endsPath ·)) hstop]

/-! ### The path that is named -/

/-- The segments that stand for the place itself. A dot may be written with a percent sign. -/
def here : List String := [".", "%2e", "%2E"]

/-- The segments that stand for the place above. -/
def above : List String :=
  ["..", ".%2e", ".%2E", "%2e.", "%2E.", "%2e%2e", "%2e%2E", "%2E%2e", "%2E%2E"]

/-- The segments of a path after one more. -/
def enter (escape : Char → List Char) (path : List (List Char)) (segment : List Char) :
    List (List Char) :=
  if String.ofList segment ∈ above then path.dropLast
  else if String.ofList segment ∈ here then path
  else path ++ [segment.flatMap escape]

/-- The segments that are left of those of a path as it is written. -/
def entered (escape : Char → List Char) (segments : List (List Char)) : List (List Char) :=
  segments.foldl (enter escape) []

/-- The path that is named by one that is written. If it ends with dots, it ends with a slash. -/
def resolvedPath (escape : Char → List Char) (path : List Char) : String :=
  let segments := path.tail.splitOnP isSlash
  let dots := segments.getLast?.any fun segment => String.ofList segment ∈ here ++ above
  String.ofList <|
    (entered escape segments ++ if dots then [[]] else []).flatMap ('/' :: ·)

/-- A path without a slash at its end. -/
def withoutLastSlash (path : String) : String :=
  if path.toList.getLast? = some '/' then String.ofList path.toList.dropLast else path

/-- A way to escape characters: small letters are kept, and nothing is escaped by a slash. -/
structure IsEscape (escape : Char → List Char) : Prop where
  letter : ∀ c, c.isLower = true → escape c = [c]
  ne_nil : ∀ c, escape c ≠ []
  slash_notMem : ∀ c, isSlash c = false → '/' ∉ escape c

variable {escape : Char → List Char} {names : List (List Char)}

/-- A segment without slashes is not taken apart. -/
theorem splitOnP_of_not_isSlash {segment : List Char} (h : ∀ c ∈ segment, isSlash c = false) :
    segment.splitOnP isSlash = [segment] := by
  induction segment with
  | nil => rfl
  | cons c segment ih =>
    obtain ⟨hc, hsegment⟩ := List.forall_mem_cons.mp h
    rw [List.splitOnP_cons_eq_if_modifyHead, hc, ih hsegment]
    rfl

/-- A path that does not end with a slash has a last segment that is not empty. -/
theorem exists_splitOnP_eq_concat {path : List Char} (hne : path ≠ [])
    (hlast : ∀ c, path.getLast? = some c → isSlash c = false) :
    ∃ front segment, path.splitOnP isSlash = front ++ [segment] ∧ segment ≠ [] ∧
      ∀ c ∈ segment, isSlash c = false := by
  induction path with
  | nil => exact absurd rfl hne
  | cons c path ih =>
    rcases List.eq_nil_or_concat path with rfl | ⟨init, last, rfl⟩
    · have hc : isSlash c = false := hlast c rfl
      refine ⟨[], [c], ?_, List.cons_ne_nil _ _, List.forall_mem_singleton.mpr hc⟩
      exact splitOnP_of_not_isSlash (List.forall_mem_singleton.mpr hc)
    · have hrest : ∀ d, (init.concat last).getLast? = some d → isSlash d = false := by
        intro d hd
        refine hlast d ?_
        rw [List.concat_eq_append] at hd ⊢
        rw [← List.cons_append, List.getLast?_concat, ← hd, List.getLast?_concat]
      obtain ⟨front, segment, hsplit, hsegment, hplain⟩ := ih (by simp) hrest
      rw [List.splitOnP_cons_eq_if_modifyHead, hsplit]
      cases hc : isSlash c with
      | true => exact ⟨[] :: front, segment, rfl, hsegment, hplain⟩
      | false =>
        cases front with
        | nil =>
          exact ⟨[], c :: segment, rfl, List.cons_ne_nil _ _, List.forall_mem_cons.mpr ⟨hc, hplain⟩⟩
        | cons first front => exact ⟨(c :: first) :: front, segment, rfl, hsegment, hplain⟩

/-- Names that are appended to a path are segments of their own. -/
theorem splitOnP_append_names (hnames : ∀ name ∈ names, ∀ c ∈ name, isSlash c = false)
    (path : List Char) :
    (path ++ names.flatMap ('/' :: ·)).splitOnP isSlash = path.splitOnP isSlash ++ names := by
  induction names generalizing path with
  | nil => rw [List.flatMap_nil, List.append_nil, List.append_nil]
  | cons name names ih =>
    obtain ⟨hname, hnames⟩ := List.forall_mem_cons.mp hnames
    rw [List.flatMap_cons, List.cons_append, List.splitOnP_append_cons _ _ rfl, ih hnames,
      splitOnP_of_not_isSlash hname]
    rfl

section Names

variable (hescape : IsEscape escape) (hnames : ∀ name ∈ names, ∀ c ∈ name, c.isLower = true)
include hnames

/-- A name of small letters is no dots. -/
theorem ofList_notMem_dots {name : List Char} (hname : name ∈ names) :
    String.ofList name ∉ here ++ above := by
  have hdots : ∀ dots ∈ here ++ above, dots.toList.all Char.isLower = false := by decide
  intro hmem
  have hall : name.all Char.isLower = true := List.all_eq_true.mpr (hnames name hname)
  rw [← String.toList_ofList (l := name), hdots _ hmem] at hall
  cases hall

include hescape

/-- Names of small letters are entered as they are. -/
theorem foldl_enter_names (path : List (List Char)) :
    names.foldl (enter escape) path = path ++ names := by
  induction names generalizing path with
  | nil => exact (List.append_nil path).symm
  | cons name names ih =>
    have hdots := ofList_notMem_dots hnames List.mem_cons_self
    rw [List.mem_append, not_or] at hdots
    have hkept : name.flatMap escape = name := by
      have hletters := (List.forall_mem_cons.mp hnames).1
      rw [List.flatMap_congr fun c hc => hescape.letter c (hletters c hc), List.flatMap_singleton']
    rw [List.foldl_cons, enter, if_neg hdots.2, if_neg hdots.1, hkept,
      ih (List.forall_mem_cons.mp hnames).2, List.append_assoc]
    rfl

/-- Names of small letters at the end of a path are no dots, and are named as they are written. -/
theorem resolvedPath_of_splitOnP_eq (hne : names ≠ []) {path : List Char}
    {earlier : List (List Char)} (hsplit : path.tail.splitOnP isSlash = earlier ++ names) :
    resolvedPath escape path = String.ofList ((entered escape earlier).flatMap ('/' :: ·)) ++
      String.ofList (names.flatMap ('/' :: ·)) := by
  obtain ⟨last, hfinal⟩ : ∃ last, names.getLast? = some last :=
    Option.ne_none_iff_exists'.mp (mt List.getLast?_eq_none_iff.mp hne)
  have hdots := ofList_notMem_dots hnames (List.mem_of_getLast? hfinal)
  have hentered : entered escape (earlier ++ names) = entered escape earlier ++ names := by
    rw [entered, List.foldl_append, foldl_enter_names hescape hnames]
    rfl
  simp only [resolvedPath, hsplit, List.getLast?_append_of_ne_nil _ hne, hfinal, Option.any_some,
    hdots, decide_false, Bool.false_eq_true, if_false, List.append_nil, hentered,
    List.flatMap_append, String.ofList_append]

end Names

/-- The shortest path is named where none is written. -/
theorem resolvedPath_nil : resolvedPath escape [] = "/" := by
  simp [resolvedPath, entered, enter, here, above]

/-- The slash at the end of a path goes. -/
theorem withoutLastSlash_concat (cs : List Char) :
    withoutLastSlash (String.ofList (cs ++ ['/'])) = String.ofList cs := by
  rw [withoutLastSlash, String.toList_ofList, if_pos List.getLast?_concat, List.dropLast_concat]

/-- A path whose end holds no slash stays as it is. -/
theorem withoutLastSlash_append {cs rest : List Char} (hne : rest ≠ []) (hrest : '/' ∉ rest) :
    withoutLastSlash (String.ofList (cs ++ rest)) = String.ofList (cs ++ rest) := by
  rw [withoutLastSlash, String.toList_ofList, List.getLast?_append_of_ne_nil _ hne, if_neg]
  exact fun hlast => hrest (List.mem_of_getLast? hlast)

/-- The path that is named ends with a slash only for a segment of dots. -/
theorem withoutLastSlash_resolvedPath (hescape : IsEscape escape) (slash : Char) {path : List Char}
    (hne : path ≠ []) (hlast : ∀ c, path.getLast? = some c → isSlash c = false) :
    withoutLastSlash (resolvedPath escape (slash :: path)) =
      String.ofList ((entered escape (path.splitOnP isSlash)).flatMap ('/' :: ·)) := by
  obtain ⟨front, segment, hsplit, hsegment, hplain⟩ := exists_splitOnP_eq_concat hne hlast
  simp only [resolvedPath, List.tail_cons, hsplit, List.getLast?_concat, Option.any_some,
    decide_eq_true_eq]
  split
  next hdots =>
    rw [List.flatMap_append]
    exact withoutLastSlash_concat _
  next hdots =>
    rw [List.mem_append, not_or] at hdots
    have hentered : entered escape (front ++ [segment]) =
        entered escape front ++ [segment.flatMap escape] := by
      rw [entered, List.foldl_append, List.foldl_cons, List.foldl_nil, enter, if_neg hdots.2,
        if_neg hdots.1]
      rfl
    have hkept : segment.flatMap escape ≠ [] := by
      obtain ⟨c, rest, rfl⟩ := List.exists_cons_of_ne_nil hsegment
      rw [List.flatMap_cons]
      exact List.append_ne_nil_of_left_ne_nil (hescape.ne_nil c) _
    have hslash : '/' ∉ segment.flatMap escape := by
      rw [List.mem_flatMap]
      rintro ⟨c, hc, hmem⟩
      exact hescape.slash_notMem c (hplain c hc) hmem
    rw [List.append_nil, hentered, List.flatMap_append, List.flatMap_singleton,
      List.append_cons]
    exact withoutLastSlash_append hkept hslash

/-- **Paths below an address.** Names of small letters that are appended to a path lie below the
path that it names. -/
theorem resolvedPath_append_names (hescape : IsEscape escape) (hne : names ≠ [])
    (hnames : ∀ name ∈ names, ∀ c ∈ name, c.isLower = true) {path : List Char}
    (hhead : ∀ c, path.head? = some c → isSlash c = true)
    (hlast : ∀ c, path.getLast? = some c → isSlash c = false) :
    resolvedPath escape (path ++ names.flatMap ('/' :: ·)) =
      withoutLastSlash (resolvedPath escape path) ++ String.ofList (names.flatMap ('/' :: ·)) := by
  have hplain : ∀ name ∈ names, ∀ c ∈ name, isSlash c = false :=
    fun name hname c hc => (plain_of_isLower (hnames name hname c hc)).1
  cases path with
  | nil =>
    obtain ⟨name, others, rfl⟩ := List.exists_cons_of_ne_nil hne
    obtain ⟨hname, hothers⟩ := List.forall_mem_cons.mp hplain
    have hsplit : ((name :: others).flatMap ('/' :: ·)).tail.splitOnP isSlash =
        [] ++ name :: others := by
      rw [List.flatMap_cons, List.cons_append, List.tail_cons, splitOnP_append_names hothers,
        splitOnP_of_not_isSlash hname]
      rfl
    rw [List.nil_append, resolvedPath_of_splitOnP_eq hescape hnames hne hsplit, resolvedPath_nil]
    rfl
  | cons slash path =>
    have hpath : path ≠ [] := by
      rintro rfl
      exact absurd (hhead slash rfl) (by rw [hlast slash rfl]; exact Bool.false_ne_true)
    have hend : ∀ c, path.getLast? = some c → isSlash c = false := by
      intro c hc
      refine hlast c ?_
      rw [List.getLast?_cons, hc]
      rfl
    have hsplit : (slash :: path ++ names.flatMap ('/' :: ·)).tail.splitOnP isSlash =
        path.splitOnP isSlash ++ names := splitOnP_append_names hplain path
    rw [resolvedPath_of_splitOnP_eq hescape hnames hne hsplit,
      withoutLastSlash_resolvedPath hescape slash hpath hend]

/-- **Addresses below an address.** Names of small letters that are appended to the text of an
address are appended behind its host. The path is then that of what lies below the address, unless a
query or a fragment has begun: then it stays the same. -/
theorem exists_parts?_append_names (hescape : IsEscape escape) (hne : names ≠ [])
    (hnames : ∀ name ∈ names, ∀ c ∈ name, c.isLower = true) (h : parts? text = some parts)
    (hlast : ∀ c, text.toList.getLast? = some c → isSlash c = false ∧ isPadding c = false) :
    ∃ below, parts? (text ++ String.ofList (names.flatMap ('/' :: ·))) =
        some { parts with below := below } ∧
      (text.toList.any endsPath = false →
        resolvedPath escape (Parts.path { parts with below := below }) =
          withoutLastSlash (resolvedPath escape parts.path) ++
            String.ofList (names.flatMap ('/' :: ·))) ∧
      (text.toList.any endsPath = true →
        Parts.path { parts with below := below } = parts.path) := by
  have hletters : ∀ c ∈ names.flatMap ('/' :: ·), c = '/' ∨ c.isLower = true := by
    intro c hc
    obtain ⟨name, hname, hc⟩ := List.mem_flatMap.mp hc
    exact (List.mem_cons.mp hc).imp_right (hnames name hname c)
  have hplain : ∀ c ∈ names.flatMap ('/' :: ·), isPadding c = false ∧ endsPath c = false := by
    intro c hc
    rcases hletters c hc with rfl | hlower
    · exact ⟨rfl, rfl⟩
    · exact (plain_of_isLower hlower).2
  have happend : parts? (text ++ String.ofList (names.flatMap ('/' :: ·))) =
      some { parts with below := parts.below ++ names.flatMap ('/' :: ·) } := by
    obtain ⟨name, others, rfl⟩ := List.exists_cons_of_ne_nil hne
    exact parts?_append h (fun c hc => (hlast c hc).2) fun c hc => (hplain c hc).1
  have hends : (names.flatMap ('/' :: ·)).any endsPath = false := by
    rw [List.any_eq_false]
    intro c hc
    rw [(hplain c hc).2]
    exact Bool.false_ne_true
  obtain ⟨hgoes, hstays⟩ := parts.path_append hends
  rw [any_endsPath_below h] at hgoes hstays
  refine ⟨_, happend, fun htext => ?_, hstays⟩
  obtain ⟨hpath, happended⟩ := hgoes htext
  rw [happended]
  refine resolvedPath_append_names hescape hne hnames (fun c hc => ?_) fun c hc => ?_
  · rw [hpath] at hc
    have hauthority := endsAuthority_of_head?_below h hc
    have hnoEnd : endsPath c = false := by
      have hbelow := any_endsPath_below h
      rw [htext, List.any_eq_false] at hbelow
      exact Bool.eq_false_iff.mpr (hbelow c (List.mem_of_head? hc))
    rwa [endsAuthority, hnoEnd, Bool.or_false] at hauthority
  · rw [hpath] at hc
    have hbelow : parts.below ≠ [] := by
      intro hnil
      rw [hnil] at hc
      cases hc
    rw [getLast?_below h (fun c hc => (hlast c hc).2) hbelow] at hc
    exact (hlast c hc).1

end Url

end AgentFlow.Http
