import AgentFlow.Number.Integer

/-!
# Ids in paths

A segment of a path holds an id in decimal, of which any byte may be written as a percent sign with
two hexadecimal digits.
-/

namespace AgentFlow.Http

open Number

/-- Why a segment holds no id. -/
inductive PathFault where
  /-- The bytes of the segment are no text. -/
  | notText
  /-- The text of the segment is no id. -/
  | notAnId (text : String)
deriving DecidableEq, Repr

/-- The wording of what is wrong with a segment. -/
def PathFault.message : PathFault → String
  | notText => "Invalid URL: Invalid UTF-8 in `id`"
  | notAnId text => s!"Invalid URL: Cannot parse `{text}` to a `i64`"

/-- The value of a byte that stands for a hexadecimal digit. -/
def hexValue? (b : UInt8) : Option Nat := digitValue? 16 (Char.ofNat b.toNat)

/-- The bytes that are meant. A percent sign without two digits stands for itself. -/
def percentDecoded : List UInt8 → List UInt8
  | [] => []
  | b :: rest =>
    if b = 0x25 then
      match rest with
      | high :: low :: rest' =>
        match hexValue? high, hexValue? low with
        | some h, some l => (h * 16 + l).toUInt8 :: percentDecoded rest'
        | _, _ => b :: percentDecoded (high :: low :: rest')
      | rest => b :: percentDecoded rest
    else b :: percentDecoded rest

/-- The text that a segment of a path stands for. -/
def segmentText? (segment : String) : Option String :=
  String.fromUTF8? (ByteArray.mk (percentDecoded segment.toUTF8.toList).toArray)

/-- The id in a segment of a path. -/
def readId (segment : String) : Except PathFault Int :=
  match segmentText? segment with
  | none => .error .notText
  | some text =>
    match readInt? .int64 text.toList with
    | some id => .ok id
    | none => .error (.notAnId text)

end AgentFlow.Http
