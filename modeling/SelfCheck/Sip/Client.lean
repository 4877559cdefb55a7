import SelfCheck.Settings.Basic
import SelfCheck.Sip.Connection
import SelfCheck.Sip.Pool
import SelfCheck.Sip.Request

/-!
# Calls to the circulation server

A call borrows a connection, sends its request, and reads the reply. It has a time limit, which
covers the waiting for a permit and the opening of a connection too. Only a connection that brought
a reply is given back.

## Main definitions

* `Sip.Client` — the pool, and the server behind it
* `Sip.Client.dial`, `Sip.Client.acquire` — opening a connection, borrowing one
* `Sip.Client.exchange` — one request and its reply
* `Sip.Client.checkin`, `Sip.Client.itemStatus` — the calls of a station
* `Sip.Client.start`, `Sip.Client.close` — the beginning and the end of the pool
-/

namespace SelfCheck.Sip

/-- The pool of a hub, and the state of the server. -/
structure Client (σ : Type) where
  settings : Settings.Sip
  pool : Pool Connection
  server : σ

namespace Client

variable {σ : Type}

/-- A client that has not called yet. -/
def ofSettings (settings : Settings.Sip) (server : σ) : Client σ :=
  ⟨settings, .ofSize settings.poolSize, server⟩

/-- The fault of a call that takes longer than it may. -/
def overdue (client : Client σ) : Fault := .timeout client.settings.callTimeout

/-- The request that logs in. -/
def loginRequest (client : Client σ) : String :=
  (Request.login client.settings.username client.settings.password client.settings.location).text

/-- The reply that an answer brings; silence lasts until the time limit. -/
def reply (client : Client σ) : Answer → Except Fault String
  | .line text => .ok text
  | .fault f => .error f
  | .silence => .error client.overdue

/-- Accepts or refuses a connection by the reply to its login. -/
def welcome (c : Connection) (text : String) : Except Fault Connection :=
  match loginAccepted text with
  | .ok true => .ok c
  | .ok false => .error .loginRejected
  | .error f => .error f

/-- Opens a connection and logs in. -/
def dial (server : Server σ) (client : Client σ) : Except Fault Connection × Client σ :=
  match server.accept client.server with
  | (.error reason, s) => (.error (.io reason), { client with server := s })
  | (.ok number, s) =>
    let (answer, c, s) := Connection.call server client.loginRequest { number } s
    ((client.reply answer).bind (welcome c), { client with server := s })

/-- Borrows a connection. -/
def acquire (server : Server σ) (client : Client σ) : Except Fault Connection × Client σ :=
  match client.pool.borrow with
  | .refused => (.error .poolClosed, client)
  | .wait => (.error client.overdue, client)
  | .reuse c pool => (.ok c, { client with pool })
  | .dial pool =>
    match dial server { client with pool } with
    | (.ok c, client) => (.ok c, client)
    | (.error f, client) => (.error f, { client with pool := client.pool.forfeit })

/-- Sends a request on a borrowed connection, which is given back if it brings a reply. -/
def callOn (server : Server σ) (request : String) (c : Connection) (client : Client σ) :
    Except Fault String × Client σ :=
  let (answer, c, s) := Connection.call server request c client.server
  let client := { client with server := s }
  match client.reply answer with
  | .ok text => (.ok text, { client with pool := client.pool.giveBack c })
  | .error f => (.error f, { client with pool := client.pool.forfeit })

/-- One request and its reply. -/
def exchange (server : Server σ) (request : String) (client : Client σ) :
    Except Fault String × Client σ :=
  match acquire server client with
  | (.error f, client) => (.error f, client)
  | (.ok c, client) => callOn server request c client

/-- Checks an item in, at the moment `now`. -/
def checkin (server : Server σ) (now branch barcode : String) (client : Client σ) :
    Except CallFailure Item × Client σ :=
  let request := Request.checkin now branch client.settings.institution barcode
    client.settings.terminalPassword
  let (answer, client) := exchange server request.text client
  ((answer.bind fun text => checkedIn text barcode).mapError Fault.callFailure, client)

/-- Looks an item up, at the moment `now`. -/
def itemStatus (server : Server σ) (now barcode : String) (client : Client σ) :
    Except CallFailure Item × Client σ :=
  let request := Request.itemInformation now client.settings.institution barcode
    client.settings.terminalPassword
  let (answer, client) := exchange server request.text client
  ((answer.bind fun text => itemInformation text barcode).mapError Fault.callFailure, client)

/-- Opens a first connection ahead of the calls, if the server lets it. -/
def start (server : Server σ) (client : Client σ) : Client σ :=
  match dial server client with
  | (.ok c, client) => { client with pool := client.pool.warm c }
  | (.error _, client) => client

/-- Closes the pool. -/
def close (client : Client σ) : Client σ := { client with pool := client.pool.close }

end Client

end SelfCheck.Sip
