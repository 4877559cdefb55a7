import SelfCheck.Wire.Line
import SelfCheck.Text.Split
import SelfCheck.Text.Quoted

/-!
# Responses of the tag reader

A response is a status and, after a scan, the barcode and the handle of the tag, separated by
`|` and ended by a carriage return. Line feeds in front of it are passed over, so that a reader
may end its lines with both. An empty field is an absent one.

## Main definitions

* `Reader.Response` — a response
* `Reader.FrameError` — what can be wrong with a frame, and its wording
* `Reader.Response.decode` — the response in a frame
-/

namespace SelfCheck.Reader

/-- The largest frame accepted from the reader, terminator included. -/
def maxFrameLength : Nat := 512

/-- A response of the reader. -/
structure Response where
  ok : Bool
  barcode : Option String := none
  tag : Option String := none
deriving DecidableEq, Repr

/-- What can be wrong with a frame. -/
inductive FrameError where
  | unterminated
  | tooLong
  | notText
  | unknownStatus (status : String)
  | tooManyFields (count : Nat)
deriving DecidableEq, Repr

/-- The wording of a frame error. -/
def FrameError.message : FrameError → String
  | unterminated => "frame is not terminated by CR"
  | tooLong => "frame exceeds " ++ toString maxFrameLength ++ " bytes"
  | notText => "frame is not valid UTF-8"
  | unknownStatus status => "unknown response status: " ++ Text.Quoted.render status
  | tooManyFields count => "too many fields in frame: " ++ toString count

namespace Response

/-- The bytes before a final terminator. -/
def body? (frame : Bytes) : Option Bytes :=
  if frame.getLast? = some Wire.terminator then some frame.dropLast else none

/-- The text of a field; an empty one is absent. -/
def field? (field : List Char) : Option String :=
  if field.isEmpty then none else some (String.ofList field)

/-- The status that a field spells. -/
def status? (field : List Char) : Option Bool :=
  if field = ['O', 'K'] then some true
  else if field = ['N', 'O', 'K'] then some false
  else none

/-- The response that the fields of a frame spell. -/
def ofFields (fields : List (List Char)) : Except FrameError Response :=
  match fields with
  | [] => .error (.unknownStatus "")
  | status :: rest =>
    if rest.length > 2 then .error (.tooManyFields fields.length)
    else match status? status with
      | none => .error (.unknownStatus (String.ofList status))
      | some ok =>
        .ok { ok, barcode := (rest[0]?).bind field?, tag := (rest[1]?).bind field? }

/-- The response in a frame, terminator included. Of several faults the first of length,
terminator, text, number of fields and status is reported. -/
def decode (frame : Bytes) : Except FrameError Response :=
  if frame.length > maxFrameLength then .error .tooLong
  else match body? frame with
    | none => .error .unterminated
    | some body =>
      match Bytes.text? body with
      | none => .error .notText
      | some text => ofFields (Text.splitOn '|' (text.toList.dropWhile (· = '\n')))

end Response

end SelfCheck.Reader
