import SelfCheck.Registry
import SelfCheck.Text.Split

/-!
# What the hub serves

Besides the connections of screens, the hub serves two documents: whether it is well, and which
stations there are. Every answer may be used by pages of any origin. What the documents show of the
clock, how long the hub has run and since when a station is there, is left out.

## Main definitions

* `Web.Request`, `Web.Response` — a request and its answer
* `Web.respond` — the answer to a request
-/

namespace SelfCheck.Web

/-- A request. -/
structure Request where
  method : String
  /-- The path, without a query. -/
  path : String
  headers : List (String × String)
deriving DecidableEq, Repr

/-- What an answer holds. -/
inductive Content where
  | nothing
  | text (s : String)
  /-- That the hub is well, with the number of stations. -/
  | health (stations : Nat)
  /-- The stations, as addresses and connections. -/
  | stations (entries : List (String × Nat))
deriving DecidableEq, Repr

/-- The media type of a content. -/
def Content.mediaType? : Content → Option String
  | nothing => none
  | text _ => some "text/plain; charset=utf-8"
  | health _ | stations _ => some "application/json"

/-- An answer. -/
structure Response where
  status : Nat
  content : Content := .nothing
  /-- Only the head of the answer is sent. -/
  headOnly : Bool := false
deriving DecidableEq, Repr

/-- The origins whose pages may use an answer. -/
def allowedOrigin : String := "*"

/-- A text with its ASCII capitals made small. -/
def lowered (s : String) : List Char := s.toList.map Char.toLower

/-- The value of a header, whose name may be written in capitals or not. -/
def Request.header? (r : Request) (name : String) : Option String :=
  (r.headers.find? fun h => lowered h.1 = lowered name).map (·.2)

/-- A header has a value, capitals aside. -/
def Request.states (r : Request) (name value : String) : Bool :=
  ((r.header? name).map lowered) = some (lowered value)

/-- A header holds a word, capitals aside. -/
def Request.mentions (r : Request) (name word : String) : Bool :=
  match r.header? name with
  | none => false
  | some value => Text.occurs (lowered word) (lowered value)

/-- What keeps a request from becoming the connection of a screen, and the status of the answer
that says so. The last of these is that the request came over no connection of its own. -/
def upgradeFault (r : Request) : Nat × String :=
  if r.method ≠ "GET" then (405, "Request method must be " ++ quoted "GET")
  else if !r.mentions "connection" "upgrade" then
    (400, "Connection header did not include 'upgrade'")
  else if !r.states "upgrade" "websocket" then
    (400, quoted "Upgrade" ++ " header did not include 'websocket'")
  else if !r.states "sec-websocket-version" "13" then
    (400, quoted "Sec-WebSocket-Version" ++ " header did not include '13'")
  else if (r.header? "sec-websocket-key").isNone then
    (400, quoted "Sec-WebSocket-Key" ++ " header missing")
  else (426, "WebSocket request couldn't be upgraded since no upgrade state was present")
where
  /-- A word between grave accents. -/
  quoted (word : String) : String := "\x60" ++ word ++ "\x60"

/-- The answer of a document that can only be read. -/
def readOnly (r : Request) (content : Content) : Response :=
  if r.method = "GET" then { status := 200, content }
  else if r.method = "HEAD" then { status := 200, content, headOnly := true }
  else { status := 405 }

/-- The answer to a request, which asks first what is allowed if its method is `OPTIONS`. -/
def respond (registry : Registry) (r : Request) : Response :=
  if r.method = "OPTIONS" then { status := 200 }
  else if r.path = "/api/health" then readOnly r (.health registry.size)
  else if r.path = "/api/stations" then readOnly r (.stations registry.stations)
  else if r.path = "/ws" then
    if r.method = "GET" || r.method = "HEAD" then
      let (status, text) := upgradeFault r
      { status, content := .text text, headOnly := r.method = "HEAD" }
    else { status := 405 }
  else { status := 404 }

end SelfCheck.Web
