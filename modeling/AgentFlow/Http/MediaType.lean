/-!
# Media types

Which values of the field `content-type` announce JSON: the type is `application`, and the subtype
is `json` or has that suffix. Letters of any case are meant, and parameters may follow, which have
to be well formed.
-/

namespace AgentFlow.Http

/-- A character of a name in a media type. -/
def isTokenChar (c : Char) : Bool := c.isAlphanum || "!#$%&'*+-.^_`|~".toList.contains c

/-- A character that may stand between quotes. -/
def isQuotedChar (c : Char) : Bool := 0x1F < c.toNat && c.toNat != 0x7F

/-- A character that a field is read with; a value with any other one is no media type. -/
def isPlainChar (c : Char) : Bool := (0x20 ≤ c.toNat && c.toNat < 0x7F) || c == '\t'

/-- What follows the value of a parameter between quotes, of which the first character has been
read: blanks, and after a semicolon further parameters. -/
def afterQuotes : List Char → Option (List Char)
  | [] => some []
  | ' ' :: rest => afterQuotes rest
  | ';' :: rest => some rest
  | _ => none

/-- What follows a quote that ends a value. -/
def endQuotes : List Char → Option (List Char)
  | [] => none
  | c :: rest =>
    if c = '"' then afterQuotes rest else if isQuotedChar c then endQuotes rest else none

/-- What follows the value of a parameter. A quote at the very beginning of a value between quotes
does not end it. -/
def afterValue (cs : List Char) : Option (List Char) :=
  match cs with
  | '"' :: c :: rest => if isQuotedChar c then endQuotes rest else none
  | cs =>
    match cs.takeWhile isTokenChar, cs.dropWhile isTokenChar with
    | _, [] => some []
    | _ :: _, ';' :: rest => some rest
    | _, _ => none

/-- The parameters after the semicolon are well formed. Each turn takes one, so as many turns as
there are characters suffice. -/
def areParameters : Nat → List Char → Bool
  | 0, _ => true
  | turns + 1, cs =>
    match cs.dropWhile (· == ' ') with
    | [] => true
    | cs =>
      match cs.takeWhile isTokenChar, cs.dropWhile isTokenChar with
      | _ :: _, '=' :: rest => (afterValue rest).any (areParameters turns)
      | _, _ => false

/-- A subtype that is JSON, or has it as the suffix after its last plus sign or as the name before
that sign. -/
def isJsonSubtype (cs : List Char) : Bool :=
  let json := "json".toList
  let suffix := (cs.reverse.takeWhile (· != '+')).reverse
  cs == json || (suffix.length < cs.length.pred &&
    (suffix == json || cs.take (cs.length - suffix.length - 1) == json))

/-- A media type that announces JSON. -/
def announcesJson (value : String) : Bool :=
  let cs := value.toList
  let type := cs.takeWhile isTokenChar
  match cs.all isPlainChar, cs.dropWhile isTokenChar with
  | true, '/' :: rest =>
    let subtype := rest.takeWhile isTokenChar
    let parameters := rest.dropWhile isTokenChar
    type.map Char.toLower == "application".toList && isJsonSubtype (subtype.map Char.toLower) &&
      match parameters with
      | [] => true
      | ';' :: parameters => areParameters (parameters.length + 1) parameters
      | _ => false
  | _, _ => false

end AgentFlow.Http
