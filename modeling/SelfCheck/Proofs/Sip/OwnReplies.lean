import SelfCheck.Message.Frame
import SelfCheck.Proofs.Reader.Frames
import SelfCheck.Sip.Client
import Mathlib.Data.List.Basic
import Mathlib.Tactic.Common

/-!
# Whose reply a call gets

A call takes the next line of its connection for its reply, and a connection is given back with
whatever is still unread on it. The server answers lines, and nothing in a request is escaped: a
request with a carriage return in one of its values is two lines to the server. Its second answer
stays on the connection, where the next call finds it. So every call gets the server's answer to its
own request just if no earlier request on the connection, the login included, holds a carriage
return.

## Main definitions

* `Sip.Request.values`, `Sip.Request.lines` — what a request carries, and the lines that the server
  finds in it
* `Sip.Server.Conforming` — the server accepts the login and answers each line with one reply
* `Sip.Client.results`, `Sip.Client.ownReplies` — what several calls bring, and what the server's
  answer to each of their requests says
* `Sip.Client.Linked` — the connection that the next call uses, and the replies unread on it

## Main results

* `Sip.Client.Linked.place` — a call takes the first reply that is unread after its request
* `Sip.Client.own_replies_iff` — when every call gets the answer to its own request
-/

namespace SelfCheck.Sip

/-! ### Requests as lines -/

namespace Request

/-- The values that a request carries. -/
def values : Request → List String
  | login username password location => [username, password, location]
  | checkin timestamp branch institution barcode terminalPassword =>
    [timestamp, branch, institution, barcode, terminalPassword]
  | itemInformation timestamp institution barcode terminalPassword =>
    [timestamp, institution, barcode, terminalPassword]

/-- The lines that the server finds in a request. -/
def lines (r : Request) : List Bytes := (Text.splitOn '\r' r.text.toList).map Bytes.ofChars

/-- The line that begins a request. -/
def first (r : Request) : Bytes := r.lines.headD []

variable {r : Request}

/-- Nothing but its values brings a carriage return into a request. -/
theorem return_mem_text_iff : '\r' ∈ r.text.toList ↔ ∃ v ∈ r.values, '\r' ∈ v.toList := by
  cases r <;> simp [text, values, field]

theorem lines_frame (r : Request) :
    Wire.lines (Connection.frame r.text) = (r.lines, []) := by
  have read := Wire.lines_ofChars r.text.toList []
  rw [show Wire.lines [] = ([], []) from rfl, List.append_nil] at read
  exact read

theorem lines_eq (r : Request) : r.lines = r.first :: r.lines.tail := by
  have some : r.lines ≠ [] := mt List.map_eq_nil_iff.1 (Text.splitOn_ne_nil _ _)
  rw [first]
  cases h : r.lines with
  | nil => exact absurd h some
  | cons line lines => rfl

theorem length_lines_eq (r : Request) : r.lines.length = r.lines.tail.length + 1 :=
  congrArg List.length r.lines_eq

theorem length_lines (r : Request) : r.lines.length = r.text.toList.count '\r' + 1 := by
  rw [lines, List.length_map, Text.length_splitOn]

end Request

/-! ### Servers -/

variable {σ : Type} {server : Server σ} {settings : Settings.Sip} {number : Nat}

/-- A reply: one line of no more bytes than are accepted. -/
def IsReply (bs : Bytes) : Prop :=
  ∃ body, Wire.terminator ∉ body ∧ body.length < maxReplyLength ∧ bs = body ++ [Wire.terminator]

/-- The request that logs in. -/
def Request.ofSettings (settings : Settings.Sip) : Request :=
  .login settings.username settings.password settings.location

/-- The server accepts every connection and the login on it, and answers each line with one
reply. -/
structure Server.Conforming (server : Server σ) (settings : Settings.Sip) : Prop where
  accepts : ∀ s, ∃ number s', server.accept s = (.ok number, s') ∧
    loginAccepted (Connection.lineText
      (server.react number (Request.ofSettings settings).first s').1.sends) = .ok true
  answers : ∀ number line s, IsReply (server.react number line s).1.sends ∧
    (server.react number line s).1.ends = false

/-- What the server sends for several lines, and its state after them. -/
def Server.answers (server : Server σ) (number : Nat) : List Bytes → σ → List Bytes × σ
  | [], s => ([], s)
  | line :: lines, s =>
    let (reaction, s) := server.react number line s
    let (more, s) := server.answers number lines s
    (reaction.sends :: more, s)

/-- The first of the answers to a request is the one to the line that begins it. -/
theorem Server.answers_lines (server : Server σ) (number : Nat) (r : Request) (s : σ) :
    (server.answers number r.lines s).1 = (server.react number r.first s).1.sends ::
      (server.answers number r.lines s).1.tail := by
  rw [r.lines_eq]
  rfl

/-- A request of one line is answered by one reply. -/
theorem Server.tail_answers_of_plain (server : Server σ) (number : Nat) {r : Request} (s : σ)
    (plain : '\r' ∉ r.text.toList) : (server.answers number r.lines s).1.tail = [] := by
  have one : r.lines.length = 1 := by rw [r.length_lines, List.count_eq_zero.2 plain]
  obtain ⟨line, lines⟩ := List.length_eq_one_iff.1 one
  rw [lines]
  rfl

theorem Server.Conforming.isReply (conforms : server.Conforming settings) (lines : List Bytes)
    (s : σ) : ∀ reply ∈ (server.answers number lines s).1, IsReply reply := by
  induction lines generalizing s with
  | nil => exact List.forall_mem_nil _
  | cons line lines ih =>
    exact List.forall_mem_cons.2 ⟨(conforms.answers number line s).1, ih _⟩

namespace Connection

/-- A connection on which the server has sent some replies that nobody has read. -/
def holding (number : Nat) (replies : List Bytes) : Connection :=
  { number, unread := replies.flatten }

theorem deliver_holding (conforms : server.Conforming settings) (lines : List Bytes)
    (replies : List Bytes) (s : σ) :
    deliver server lines (holding number replies) s =
      (holding number (replies ++ (server.answers number lines s).1),
        (server.answers number lines s).2) := by
  induction lines generalizing replies s with
  | nil => rw [Server.answers, List.append_nil, deliver]
  | cons line lines ih =>
    have goes := (conforms.answers number line s).2
    have next : (holding number replies).receive (server.react number line s).1 =
        holding number (replies ++ [(server.react number line s).1.sends]) := by
      simp [holding, receive, goes]
    have number' : (holding number replies).number = number := rfl
    rw [deliver, number']
    dsimp only
    rw [next, ih, List.append_assoc]
    rfl

/-- The next line is the first reply that is unread. -/
theorem readLine_holding {reply : Bytes} (h : IsReply reply) (replies : List Bytes) :
    (holding number (reply :: replies)).readLine =
      (.line (lineText reply), holding number replies) := by
  obtain ⟨body, plain, fits, rfl⟩ := h
  have cut : Wire.cut maxReplyLength (holding number ((body ++ [Wire.terminator]) :: replies)).unread =
      .line (body ++ [Wire.terminator]) replies.flatten :=
    Wire.cut_eq_line_iff.2 ⟨body, rfl, plain, fits, rfl⟩
  rw [readLine, cut]
  rfl

/-- A request brings the first reply that is unread once the server has answered it. -/
theorem call_holding (conforms : server.Conforming settings) (r : Request) {replies : List Bytes}
    {s : σ} {reply : Bytes} {rest : List Bytes}
    (unread : replies ++ (server.answers number r.lines s).1 = reply :: rest)
    (whole : IsReply reply) :
    call server r.text (holding number replies) s =
      (.line (lineText reply), holding number rest, (server.answers number r.lines s).2) := by
  have lines : Wire.lines ((holding number replies).begun ++ frame r.text) = (r.lines, []) :=
    r.lines_frame
  have begun : { holding number replies with begun := [] } = holding number replies := rfl
  rw [call, write, lines]
  dsimp only
  rw [begun, deliver_holding conforms, unread, readLine_holding whole]

end Connection

/-! ### Calls -/

namespace Client

/-- The request of a call that is made at a moment. -/
def request (settings : Settings.Sip) : String × Call → Request
  | (now, .checkin branch barcode) =>
    .checkin now branch settings.institution barcode settings.terminalPassword
  | (now, .itemStatus barcode) =>
    .itemInformation now settings.institution barcode settings.terminalPassword

/-- What a text says in reply to a call. -/
def said : Call → String → Except Fault Item
  | .checkin _ barcode, text => checkedIn text barcode
  | .itemStatus barcode, text => itemInformation text barcode

/-- What a call brings when the server replies to it. -/
def outcome (call : Call) (reply : Bytes) : Except CallFailure Item :=
  (said call (Connection.lineText reply)).mapError Fault.callFailure

variable (server : Server σ)

/-- Makes a call at a moment. -/
def place (client : Client σ) : String × Call → Except CallFailure Item × Client σ
  | (now, .checkin branch barcode) => checkin server now branch barcode client
  | (now, .itemStatus barcode) => itemStatus server now barcode client

/-- What calls bring that are made one after the other. -/
def results (client : Client σ) : List (String × Call) → List (Except CallFailure Item)
  | [] => []
  | call :: calls =>
    let (result, client) := place server client call
    result :: results client calls

/-- What the server's own answer to the request of a call says, in the state in which the request
reaches it. -/
def ownReply (client : Client σ) (call : String × Call) : Except CallFailure Item :=
  match acquire server client with
  | (.error f, _) => .error f.callFailure
  | (.ok c, at_) =>
    outcome call.2
      (server.react c.number (request client.settings call).first at_.server).1.sends

/-- What the server's own answers to calls say that are made one after the other. -/
def ownReplies (client : Client σ) : List (String × Call) → List (Except CallFailure Item)
  | [] => []
  | call :: calls => ownReply server client call :: ownReplies (place server client call).2 calls

theorem place_eq (client : Client σ) (call : String × Call) :
    place server client call =
      ((((exchange server (request client.settings call).text client).1.bind
        (said call.2)).mapError Fault.callFailure),
        (exchange server (request client.settings call).text client).2) := by
  obtain ⟨now, branch | barcode⟩ := call <;> rfl

/-- The next call uses a connection on which some replies are unread. -/
structure Linked (client : Client σ) (number : Nat) (replies : List Bytes) (s : σ) : Prop where
  acquired : ∃ free, acquire server client =
    (.ok (.holding number replies),
      { client with pool := { free }, server := s })
  whole : ∀ reply ∈ replies, IsReply reply

variable {server} {client : Client σ} {replies : List Bytes} {s : σ} {call : String × Call}

theorem Linked.ownReply (linked : Linked server client number replies s) :
    ownReply server client call =
      outcome call.2 (server.react number (request client.settings call).first s).1.sends := by
  obtain ⟨free, acquired⟩ := linked.acquired
  rw [Client.ownReply, acquired]
  rfl

/-- The connection that was given back last is the next that is used. -/
theorem linked_of_idle {free : Nat}
    (pool : client.pool = { free := free + 1, idle := [.holding number replies] })
    (whole : ∀ reply ∈ replies, IsReply reply) :
    Linked server client number replies client.server := by
  refine ⟨⟨free, ?_⟩, whole⟩
  rw [acquire, pool]
  rfl

/-- A call takes the first reply that is unread after its request, and leaves the others. -/
theorem Linked.place (conforms : server.Conforming client.settings)
    (linked : Linked server client number replies s) {reply : Bytes} {rest : List Bytes}
    (unread : replies ++
      (server.answers number (request client.settings call).lines s).1 = reply :: rest) :
    (place server client call).1 = outcome call.2 reply ∧
      (place server client call).2.settings = client.settings ∧
      Linked server (place server client call).2 number rest
        (server.answers number (request client.settings call).lines s).2 := by
  obtain ⟨free, acquired⟩ := linked.acquired
  have whole : ∀ r ∈ reply :: rest, IsReply r := by
    intro r hr
    rw [← unread, List.mem_append] at hr
    exact hr.elim (linked.whole r) (conforms.isReply _ s r)
  have called := Connection.call_holding conforms (request client.settings call) unread
    (whole reply List.mem_cons_self)
  have exchanged : exchange server (request client.settings call).text client =
      (.ok (Connection.lineText reply),
        { client with
          pool := { free := free + 1, idle := [.holding number rest] }
          server := (server.answers number (request client.settings call).lines s).2 }) := by
    rw [exchange, acquired]
    dsimp only
    rw [callOn, called]
    rfl
  rw [place_eq, exchanged]
  refine ⟨rfl, rfl, ?_⟩
  exact linked_of_idle rfl fun r hr => whole r (List.mem_cons_of_mem reply hr)

/-- A client that has not called yet, or has opened a connection ahead of the calls. -/
def begun (server : Server σ) (settings : Settings.Sip) (s : σ) (ahead : Bool) : Client σ :=
  if ahead then start server (ofSettings settings s) else ofSettings settings s

/-- The first connection is opened by a login, to which the server has given the first reply. -/
theorem dial_eq (conforms : server.Conforming client.settings) :
    ∃ number s, dial server client =
      (.ok (.holding number
          (server.answers number (Request.ofSettings client.settings).lines s).1.tail),
        { client with
          server := (server.answers number (Request.ofSettings client.settings).lines s).2 }) ∧
      server.accept client.server = (.ok number, s) := by
  obtain ⟨number, s, accepted, welcomed⟩ := conforms.accepts client.server
  refine ⟨number, s, ?_, accepted⟩
  have login : client.loginRequest = (Request.ofSettings client.settings).text := rfl
  have answered := server.answers_lines number (Request.ofSettings client.settings) s
  have called := @Connection.call_holding _ _ _ number conforms (.ofSettings client.settings) []
    s _ _ answered (conforms.answers number _ s).1
  have fresh : { number } = Connection.holding number [] := rfl
  rw [dial, accepted, login]
  dsimp only
  rw [fresh, called]
  dsimp only
  rw [reply, Except.bind, welcome, welcomed]

/-- The first call finds what the server has answered to the login beyond its first line. -/
theorem linked_begun (conforms : server.Conforming settings) (s₀ : σ) (ahead : Bool) :
    (begun server settings s₀ ahead).settings = settings ∧
    ∃ number s, Linked server (begun server settings s₀ ahead) number
      (server.answers number (Request.ofSettings settings).lines s).1.tail
      (server.answers number (Request.ofSettings settings).lines s).2 ∧
      server.accept s₀ = (.ok number, s) := by
  obtain ⟨free, room⟩ : ∃ free, max settings.poolSize 1 = free + 1 :=
    Nat.exists_eq_add_of_le' (Nat.le_max_right _ 1)
  have whole (number : Nat) (s : σ) : ∀ reply ∈
      (server.answers number (Request.ofSettings settings).lines s).1.tail, IsReply reply :=
    fun reply h => conforms.isReply _ s reply (List.mem_of_mem_tail h)
  -- A connection opened ahead is idle by then; otherwise the first borrower opens it.
  cases ahead with
  | true =>
    obtain ⟨number, s, dialled, accepted⟩ := @dial_eq _ server (ofSettings settings s₀) conforms
    have opened : begun server settings s₀ true = start server (ofSettings settings s₀) := rfl
    rw [opened, start, dialled]
    refine ⟨rfl, number, s, ?_, accepted⟩
    have pool : (ofSettings settings s₀).pool = { free := free + 1 } :=
      congrArg (Pool.mk · [] false) room
    refine @linked_of_idle _ number server _ _ free ?_ (whole number s)
    dsimp only
    rw [pool]
    rfl
  | false =>
    obtain ⟨number, s, dialled, accepted⟩ :=
      @dial_eq _ server { ofSettings settings s₀ with pool := { free } } conforms
    refine ⟨rfl, number, s, ⟨⟨free, ?_⟩, whole number s⟩, accepted⟩
    have pool : (ofSettings settings s₀).pool = { free := free + 1 } :=
      congrArg (Pool.mk · [] false) room
    have opened : begun server settings s₀ false = ofSettings settings s₀ := rfl
    rw [opened, acquire, pool, Pool.borrow]
    simp only [Bool.false_eq_true, if_false]
    rw [dialled]
    rfl

/-- As long as no request but the last is more than one line, every call finds the connection as
clean as it was. -/
theorem Linked.results_eq (conforms : server.Conforming settings) {calls : List (String × Call)}
    (same : client.settings = settings) (linked : Linked server client number [] s)
    (plain : ∀ r ∈ (calls.map (request settings)).dropLast, '\r' ∉ r.text.toList) :
    results server client calls = ownReplies server client calls := by
  induction calls generalizing client s with
  | nil => rfl
  | cons call calls ih =>
    subst same
    have answered := server.answers_lines number (request client.settings call) s
    obtain ⟨brought, same, next⟩ := linked.place conforms answered
    rw [results, ownReplies, linked.ownReply]
    refine congrArg₂ List.cons brought ?_
    cases calls with
    | nil => rfl
    | cons call' calls =>
      rw [List.map_cons, List.map_cons, List.dropLast_cons_cons] at plain
      have alone := server.tail_answers_of_plain number s (plain _ List.mem_cons_self)
      rw [alone] at next
      exact ih same next fun r h => plain r (List.mem_cons_of_mem _ h)

end Client

/-! ### A server that counts -/

/-- A server that gives its replies in a fixed order, whatever it is asked. -/
def Server.scripted (texts : Nat → String) : Server Nat where
  accept _ := (.ok 0, 0)
  react _ _ t := ({ sends := Connection.frame (texts t) }, t + 1)

section

variable {texts : Nat → String}

theorem Server.conforming_scripted
    (plain : ∀ t, '\r' ∉ (texts t).toList ∧ (Bytes.ofText (texts t)).length < maxReplyLength)
    (accepted : loginAccepted (Connection.lineText (Connection.frame (texts 0))) = .ok true) :
    (Server.scripted texts).Conforming settings where
  accepts _ := ⟨0, 0, rfl, accepted⟩
  answers _ _ t := by
    obtain ⟨noReturn, fits⟩ := plain t
    exact ⟨⟨_, mt Bytes.terminator_mem_ofChars_iff.1 noReturn, fits, rfl⟩, rfl⟩

/-- So many replies, from one number on. -/
def Server.replies (texts : Nat → String) (start count : Nat) : List Bytes :=
  (List.range' start count).map fun t => Connection.frame (texts t)

theorem Server.replies_succ (start count : Nat) :
    Server.replies texts start (count + 1) =
      Connection.frame (texts start) :: Server.replies texts (start + 1) count := by
  rw [Server.replies, List.range'_succ, List.map_cons, Server.replies]

theorem Server.replies_append (start count more : Nat) :
    Server.replies texts start count ++ Server.replies texts (start + count) more =
      Server.replies texts start (count + more) := by
  rw [Server.replies, Server.replies, ← List.map_append, List.range'_append_1, Server.replies]

theorem Server.answers_scripted (number : Nat) (lines : List Bytes) (t : Nat) :
    (Server.scripted texts).answers number lines t =
      (Server.replies texts t lines.length, t + lines.length) := by
  induction lines generalizing t with
  | nil => rfl
  | cons line lines ih =>
    have later := ih (t + 1)
    rw [Nat.add_right_comm, Nat.add_assoc] at later
    rw [Server.answers, List.length_cons, Server.replies_succ]
    exact congrArg (fun more => (Connection.frame (texts t) :: more.1, more.2)) later

namespace Client

/-- Against a server that counts, each call gets the next reply, and its own is the one that counts
all lines sent before it. -/
theorem Linked.scripted (conforms : (Server.scripted texts).Conforming settings)
    {client : Client Nat} {calls : List (String × Call)} (same : client.settings = settings)
    {start count : Nat} (linked : Linked (.scripted texts) client number
      (Server.replies texts start count) (start + count)) (k : Nat) :
    (results (.scripted texts) client calls)[k]? =
      calls[k]?.map (fun call => outcome call.2 (Connection.frame (texts (start + k)))) ∧
    (ownReplies (.scripted texts) client calls)[k]? =
      calls[k]?.map (fun call => outcome call.2 (Connection.frame (texts (start + count +
        (((calls.map (request settings)).take k).flatMap Request.lines).length)))) := by
  -- `start` counts the replies that are taken, `count` those that are unread: each call takes one,
  -- and adds one for each line of its request.
  induction calls generalizing client start count k with
  | nil => exact ⟨rfl, rfl⟩
  | cons call calls ih =>
    subst same
    generalize hr : request client.settings call = r
    have length := r.length_lines_eq
    have unread : Server.replies texts start count ++
        ((Server.scripted texts).answers number r.lines (start + count)).1 =
          Connection.frame (texts start) ::
            Server.replies texts (start + 1) (count + r.lines.tail.length) := by
      rw [Server.answers_scripted, Server.replies_append, length, ← Nat.add_assoc,
        Server.replies_succ]
    rw [← hr] at unread
    obtain ⟨brought, same, next⟩ := linked.place conforms unread
    rw [hr, Server.answers_scripted] at next
    have moved : start + count + r.lines.length = start + 1 + (count + r.lines.tail.length) := by
      omega
    dsimp only at next
    rw [moved] at next
    cases k with
    | zero =>
      refine ⟨congrArg some brought, ?_⟩
      rw [ownReplies, linked.ownReply]
      rfl
    | succ k =>
      obtain ⟨taken, own⟩ := ih same next k
      rw [Nat.add_right_comm] at taken
      have passed (more : Nat) : start + 1 + (count + r.lines.tail.length) + more =
          start + count + (r.lines.length + more) := by
        omega
      simp only [passed] at own
      refine ⟨taken, ?_⟩
      rw [List.map_cons, List.take_succ_cons, List.flatMap_cons, List.length_append, hr]
      exact own

theorem linked_begun_scripted (conforms : (Server.scripted texts).Conforming settings)
    (ahead : Bool) :
    (begun (.scripted texts) settings 0 ahead).settings = settings ∧
    Linked (.scripted texts) (begun (.scripted texts) settings 0 ahead) 0
      (Server.replies texts 1 (Request.ofSettings settings).lines.tail.length)
      (1 + (Request.ofSettings settings).lines.tail.length) := by
  obtain ⟨same, number, s, linked, accepted⟩ := linked_begun conforms 0 ahead
  cases accepted
  have sum : 0 + ((Request.ofSettings settings).lines.tail.length + 1) =
      1 + (Request.ofSettings settings).lines.tail.length := by
    omega
  rw [Server.answers_scripted, Request.length_lines_eq, Server.replies_succ, List.tail_cons,
    sum] at linked
  exact ⟨same, linked⟩

/-- A request that is more than one line puts every later one further back. -/
theorem lt_length_lines {requests : List Request} {k : Nat} {r : Request}
    (at_ : requests[k]? = some r) (broken : '\r' ∈ r.text.toList) :
    k + 1 < ((requests.take (k + 1)).flatMap Request.lines).length := by
  induction requests generalizing k with
  | nil => cases at_
  | cons r' requests ih =>
    rw [List.take_succ_cons, List.flatMap_cons, List.length_append, r'.length_lines]
    cases k with
    | zero =>
      obtain rfl := Option.some.inj at_
      have some := List.count_pos_iff.2 broken
      omega
    | succ k =>
      have later := ih at_
      omega

end Client

end

/-! ### Every call gets its own reply -/

namespace Client

/-- A reply to a call, with nothing in it. -/
def blankReply : Call → String
  | .checkin _ _ => "10                      "
  | .itemStatus _ => "18                        "

/-- The replies of a server that gets one call wrong. -/
def oneWrong (call : Call) (k t : Nat) : String :=
  if t = 0 then "941" else if t = k then "" else blankReply call

/-- A blank reply is one, and an empty line is none. -/
theorem parse_blankReply :
    (∃ r, Reply.parse "10" checkinFixedLength
      (Connection.lineText (Connection.frame "10                      ")) = .ok r) ∧
    (∃ r, Reply.parse "18" itemFixedLength
      (Connection.lineText (Connection.frame "18                        ")) = .ok r) := by
  refine ⟨⟨⟨"10                      ", []⟩, ?_⟩, ⟨⟨"18                        ", []⟩, ?_⟩⟩
  · decide +kernel
  · decide +kernel

theorem outcome_blankReply (call : Call) :
    ∃ item, outcome call (Connection.frame (blankReply call)) = .ok item := by
  obtain ⟨⟨r, checkin⟩, ⟨r', status⟩⟩ := parse_blankReply
  cases call with
  | checkin branch barcode =>
    rw [outcome, blankReply, said, checkedIn, checkin]
    exact ⟨_, rfl⟩
  | itemStatus barcode =>
    rw [outcome, blankReply, said, itemInformation, status]
    exact ⟨_, rfl⟩

theorem outcome_empty (call : Call) :
    ∃ f, outcome call (Connection.frame "") = .error f := by
  have none (number : String) (length : Nat) (h : number.toList.isPrefixOf [] = false) :
      ∃ f, Reply.parse number length (Connection.lineText (Connection.frame "")) = .error f := by
    have text : Reply.chomp (Connection.lineText (Connection.frame "")) = [] := by decide +kernel
    rw [Reply.parse, text, h]
    exact ⟨_, rfl⟩
  cases call with
  | checkin branch barcode =>
    obtain ⟨f, checkin⟩ := none "10" checkinFixedLength (by decide)
    rw [outcome, said, checkedIn, checkin]
    exact ⟨_, rfl⟩
  | itemStatus barcode =>
    obtain ⟨f, status⟩ := none "18" itemFixedLength (by decide)
    rw [outcome, said, itemInformation, status]
    exact ⟨_, rfl⟩

theorem conforming_oneWrong (call : Call) (k : Nat) :
    (Server.scripted (oneWrong call k)).Conforming settings := by
  have short : ∀ text ∈ ["941", "", blankReply (.checkin "" ""), blankReply (.itemStatus "")],
      '\r' ∉ text.toList ∧ (Bytes.ofText text).length < maxReplyLength := by
    decide +kernel
  have login : loginAccepted (Connection.lineText (Connection.frame "941")) = .ok true := by
    decide +kernel
  refine Server.conforming_scripted (fun t => short _ ?_) login
  rw [oneWrong]
  split_ifs
  · simp
  · simp
  · cases call <;> simp [blankReply]

/-- Every call gets the server's answer to its own request, whatever the server answers, just if no
carriage return stands in any value of the login or of a call before the last. -/
theorem own_replies_iff (settings : Settings.Sip) (ahead : Bool) (calls : List (String × Call)) :
    (∀ (σ : Type) (server : Server σ) (s : σ), server.Conforming settings →
      results server (begun server settings s ahead) calls =
        ownReplies server (begun server settings s ahead) calls) ↔
    ∀ r ∈ (Request.ofSettings settings :: calls.map (request settings)).dropLast,
      ∀ v ∈ r.values, '\r' ∉ v.toList := by
  have plain_iff (r : Request) : (∀ v ∈ r.values, '\r' ∉ v.toList) ↔ '\r' ∉ r.text.toList := by
    rw [Request.return_mem_text_iff]
    simp
  simp only [plain_iff]
  constructor
  · intro own r mem broken
    obtain ⟨k, at_⟩ := List.mem_iff_getElem?.1 mem
    rw [List.getElem?_dropLast] at at_
    split_ifs at at_ with before
    have passed := lt_length_lines at_ broken
    rw [List.length_cons, List.length_map, Nat.add_sub_cancel] at before
    -- The call behind the broken request gets the reply that the server gets wrong.
    have conforms := @conforming_oneWrong settings calls[k].2 (k + 1)
    obtain ⟨same, linked⟩ := linked_begun_scripted conforms ahead
    obtain ⟨taken, mine⟩ := linked.scripted conforms same k
    rw [own ℕ _ 0 conforms, mine, List.getElem?_eq_getElem before, Option.map_some,
      Option.map_some, Option.some_inj] at taken
    rw [List.take_succ_cons, List.flatMap_cons, List.length_append,
      Request.length_lines_eq] at passed
    have wrong : oneWrong calls[k].2 (k + 1) (1 + k) = "" := by
      rw [oneWrong, if_neg (by omega), if_pos (by omega)]
    rw [wrong, oneWrong, if_neg (by omega), if_neg (by omega)] at taken
    obtain ⟨item, good⟩ := outcome_blankReply calls[k].2
    obtain ⟨f, bad⟩ := outcome_empty calls[k].2
    rw [good, bad] at taken
    cases taken
  · intro plain σ server s conforms
    obtain ⟨same, number, s', linked, -⟩ := linked_begun conforms s ahead
    cases calls with
    | nil => rfl
    | cons call calls =>
      rw [List.map_cons, List.dropLast_cons_cons] at plain
      have login := plain _ List.mem_cons_self
      rw [server.tail_answers_of_plain number s' login] at linked
      exact linked.results_eq conforms same fun r h => plain r (List.mem_cons_of_mem _ h)

/-- A server that knows two items, asked about each once; the line between the two requests is none
that it knows, and it asks for it again. -/
def twoItems : Nat → String
  | 0 => "941"
  | 1 => "1803020120260101    120000AJDune|ABA1|"
  | 2 => "96"
  | _ => "1803020120260101    120001AJThe Hobbit|ABB2|"

theorem conforming_twoItems : (Server.scripted twoItems).Conforming settings := by
  have known : ∀ text ∈ (List.range 4).map twoItems,
      '\r' ∉ text.toList ∧ (Bytes.ofText text).length < maxReplyLength := by
    decide +kernel
  have login : loginAccepted (Connection.lineText (Connection.frame (twoItems 0))) = .ok true := by
    decide +kernel
  refine Server.conforming_scripted (fun t => known _ ?_) login
  rw [List.mem_map]
  match t with
  | 0 | 1 | 2 | 3 => exact ⟨_, by decide, rfl⟩
  | t + 4 => exact ⟨3, by decide, rfl⟩

/-- A browser asks about an item whose barcode holds a carriage return, which it may write as an
escape. The request is two lines to the server, and the next call, about another item, takes the
second answer for its own. -/
theorem not_own_replies :
    let frame := Bytes.ofText
      "\x7b\"action\":\"ITEM-INFO\",\"item\":\x7b\"barcode\":\"A1\\rX\"\x7d\x7d"
    let m : Message := { action := .itemInfo, item := some { barcode := "A1\rX" } }
    let calls := [("20260101    120000", Call.itemStatus "A1\rX"),
      ("20260101    120001", Call.itemStatus "B2")]
    let server := Server.scripted twoItems
    let client := begun server {} 0 false
    Message.decodeFrame 512 frame = some m ∧ m.namedBarcode? = some "A1\rX" ∧
      server.Conforming {} ∧
      results server client calls =
        [.ok { barcode := "A1", title := "Dune" },
          .error ⟨"malformed SIP response: expected message 18, got \"96\""⟩] ∧
      ownReplies server client calls =
        [.ok { barcode := "A1", title := "Dune" }, .ok { barcode := "B2", title := "The Hobbit" }] := by
  refine ⟨?_, ?_, conforming_twoItems, ?_, ?_⟩
  · decide +kernel
  · decide +kernel
  · decide +kernel
  · decide +kernel

end Client

end SelfCheck.Sip
