import AgentFlow.Json.Printer

/-!
# Requests and responses

What a server is sent and what it answers, and what the program sends itself. Header fields are
names in small letters with their values, in order. A request for the head of an answer is answered
like one for the whole, without the body.
-/

namespace AgentFlow.Http

/-- A field: its name in small letters, and its value. -/
abbrev HeaderField := String × String

/-- A character that a field value may hold: no control character but the tab. -/
def isFieldChar (c : Char) : Bool := (0x20 ≤ c.toNat && c.toNat != 0x7F) || c == '\t'

/-- A text that may stand as the value of a field. -/
def isFieldValue (s : String) : Bool := s.toList.all isFieldChar

/-- The value of the first field with a name. -/
def fieldValue? (name : String) (fields : List HeaderField) : Option String := fields.lookup name

/-- What a client wants done with a resource. Names of methods are told apart by case. -/
inductive Method where
  | get
  | head
  | post
  | put
  | delete
  | options
  | other (name : String)
deriving DecidableEq, Repr

namespace Method

/-- The method with a name. -/
def ofName : String → Method
  | "GET" => get
  | "HEAD" => head
  | "POST" => post
  | "PUT" => put
  | "DELETE" => delete
  | "OPTIONS" => options
  | name => other name

/-- The name of a method. -/
def name : Method → String
  | get => "GET"
  | head => "HEAD"
  | post => "POST"
  | put => "PUT"
  | delete => "DELETE"
  | options => "OPTIONS"
  | other name => name

/-- The method whose answer this one asks for: the head of an answer is that of the whole. -/
def answered : Method → Method
  | head => get
  | m => m

end Method

/-- What a client sends to a server. -/
structure Request where
  method : Method
  /-- The path, and after a question mark the query. Scheme and host may stand before. -/
  target : String
  fields : List HeaderField
  body : ByteArray

/-- A character of the name of a scheme. -/
def isSchemeChar (c : Char) : Bool := c.isAlphanum || c == '+' || c == '-' || c == '.'

/-- A character at which the path of a target ends. -/
def endsPath (c : Char) : Bool := c == '?' || c == '#'

/-- What follows the scheme and the host, if a target names them. -/
def afterHost? (target : List Char) : Option (List Char) :=
  match target.takeWhile isSchemeChar, target.dropWhile isSchemeChar with
  | _ :: _, ':' :: '/' :: '/' :: rest => some (rest.dropWhile fun c => c != '/' && !endsPath c)
  | _, _ => none

/-- An address on the web, as it is read from a text. -/
structure Url where
  scheme : String
  /-- The host, with the port if one is named. -/
  host : String
  path : String
  query : Option String
deriving DecidableEq, Repr

/-- What a client sends to an address. The fields are those that are asked for; a client may add
some of its own. -/
structure Outgoing where
  method : Method
  url : Url
  fields : List HeaderField
  body : ByteArray

namespace Request

/-- The path of the target, without its query. Behind a host no path is the shortest one. -/
def path (r : Request) : String :=
  let path (cs : List Char) := cs.takeWhile (!endsPath ·)
  match afterHost? r.target.toList with
  | none => String.ofList (path r.target.toList)
  | some rest => if (path rest).isEmpty then "/" else String.ofList (path rest)

/-- The value of the first field with a name. -/
def field? (r : Request) (name : String) : Option String := fieldValue? name r.fields

end Request

/-- What a response holds. -/
inductive Body where
  | empty
  | text (s : String)
  | json (v : Json)
  /-- A stream of events, each with a value as its data. -/
  | events (data : List Json)

/-- A body as it is sent. An event is a line with its data and an empty line. -/
def Body.content : Body → String
  | empty => ""
  | text s => s
  | json v => v.compactText
  | events data => String.join (data.map fun v => s!"data: {v.compactText}\n\n")

/-- What a client is answered. -/
structure Response where
  status : Nat
  fields : List HeaderField
  body : Body

namespace Response

/-- A response without a body. -/
def empty (status : Nat) (fields : List HeaderField) : Response := ⟨status, fields, .empty⟩

/-- A text as a response. -/
def text (status : Nat) (s : String) : Response :=
  ⟨status, [("content-type", "text/plain; charset=utf-8")], .text s⟩

/-- A value as a response. -/
def json (status : Nat) (v : Json) : Response :=
  ⟨status, [("content-type", "application/json")], .json v⟩

/-- A stream of events as a response. -/
def events (data : List Json) : Response :=
  ⟨200, [("content-type", "text/event-stream"), ("cache-control", "no-cache")], .events data⟩

/-- A message that tells what is wrong, as a response. -/
def failure (status : Nat) (message : String) : Response :=
  json status (.object [("error", .string message)])

/-- The response without its body. -/
def withoutBody (r : Response) : Response := { r with body := .empty }

/-- The value of the first field with a name. -/
def field? (r : Response) (name : String) : Option String := fieldValue? name r.fields

end Response

end AgentFlow.Http
