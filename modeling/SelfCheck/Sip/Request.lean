/-!
# Requests to the circulation server

The server takes one-line requests: a number that says which one it is, a fixed part, and fields
that each begin with a two-letter code and end with a bar.

## Main definitions

* `Sip.Request` — the requests that a desk makes
* `Sip.Request.text` — their wording
-/

namespace SelfCheck.Sip

/-- A request that a desk makes. -/
inductive Request where
  | login (username password location : String)
  | checkin (timestamp branch institution barcode terminalPassword : String)
  | itemInformation (timestamp institution barcode terminalPassword : String)
deriving DecidableEq, Repr

/-- A field: its code, its value and a bar. -/
def field (code value : String) : String := code ++ value ++ "|"

/-- The wording of a request. -/
def Request.text : Request → String
  | login username password location =>
    "9300" ++ field "CN" username ++ field "CO" password ++ field "CP" location
  | checkin timestamp branch institution barcode terminalPassword =>
    "09N" ++ timestamp ++ timestamp ++ field "AP" branch ++ field "AO" institution ++
      field "AB" barcode ++ field "AC" terminalPassword
  | itemInformation timestamp institution barcode terminalPassword =>
    "17" ++ timestamp ++ field "AO" institution ++ field "AB" barcode ++
      field "AC" terminalPassword

end SelfCheck.Sip
