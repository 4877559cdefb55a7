import SelfCheck.Proofs.Reader.LineEnds
import SelfCheck.Proofs.Sip.OwnReplies
import SelfCheck.Proofs.Sip.ReplyFields

/-!
# Replies kept apart

A server may end its replies with a carriage return, or with a carriage return and a line feed, and
it may do so reply by reply as it likes. A call takes the bytes up to the carriage return. A line
feed behind it may not even have come when the call ends; it is read with the next reply, counted
among the bytes of that one, and taken off its text. However the bytes are divided among the calls,
each call on a connection brings the text of one reply, whole and in order, up to the first call
that fails.

Behind a call that has failed for the length of its reply, this is no longer so. The bytes that were
read are gone, the others stay on the connection, and another call would take them for a reply.

## Main definitions

* `Sip.ReplyLine` — a reply with the way in which its line ends
* `Sip.ReplyLine.Fit` — no reply is too long, the line feed in front of it counted
* `Sip.Connection.calls`, `Sip.Connection.arrivals` — several calls, and what has come for each
* `Sip.Connection.InTime` — what each call waits for has come

## Main results

* `Sip.Connection.calls_of_fit` — calls bring the texts of replies that are not too long
* `Sip.Connection.fit_of_lines` — calls of which none fails have found such replies
* `Sip.Connection.replies_kept_apart` — both, and how the next call fails without a reply
* `Sip.Connection.call_behind_failure` — a part of a reply behind a call that has failed
-/

namespace SelfCheck

open Wire (terminator lineFeed)

/-- To trim takes off what stands around a text, if the text itself has nothing of the class. -/
theorem Text.trim_append {p : Char → Bool} {front cs back : List Char}
    (fronts : ∀ c ∈ front, p c = true) (firm : ∀ c ∈ cs, p c = false)
    (backs : ∀ c ∈ back, p c = true) : trim p (front ++ (cs ++ back)) = cs := by
  rw [trim, List.dropWhile_append_of_pos fronts]
  cases cs with
  | nil =>
    have none : List.dropWhile p back = [] := List.dropWhile_eq_nil_iff.mpr backs
    rw [List.nil_append, none]
    rfl
  | cons c cs =>
    have first : ¬ p c = true := by simp [firm c List.mem_cons_self]
    rw [List.cons_append, List.dropWhile_cons_of_neg first, ← List.cons_append,
      trimEnd_append_of_forall backs]
    exact trimEnd_eq_self fun d last => firm d (List.mem_of_mem_getLast? last)

namespace Sip

/-- A reply, with the way in which the server ends its line. -/
structure ReplyLine where
  text : String
  /-- A line feed follows the carriage return. -/
  paired : Bool
  plain : ∀ c ∈ text.toList, Text.isLineEnd c = false

namespace ReplyLine

/-- The line feed of a pair. -/
def feed (paired : Bool) : Bytes := if paired then [lineFeed] else []

/-- The bytes of a reply. -/
def bytes (l : ReplyLine) : Bytes := Connection.frame l.text ++ feed l.paired

/-- No reply is longer than is accepted, where a line feed that is left over from the reply before
is counted with it. The first is `led` by one, or not. -/
def Fit : Bool → List ReplyLine → Prop
  | _, [] => True
  | led, l :: ls =>
    (feed led).length + (Connection.frame l.text).length ≤ maxReplyLength ∧ Fit l.paired ls

/-- A line feed is left over behind the last of some replies. -/
def leftover : Bool → List ReplyLine → Bool
  | led, [] => led
  | _, l :: ls => leftover l.paired ls

variable {l : ReplyLine} {led : Bool}

theorem terminator_notMem_feed : terminator ∉ feed led := by
  cases led <;> decide

theorem terminator_notMem_text (l : ReplyLine) : terminator ∉ Bytes.ofText l.text := by
  refine mt Bytes.terminator_mem_ofChars_iff.mp fun inside => ?_
  exact absurd (l.plain _ inside) (by decide)

/-- The text of a reply is what is left of its line without the line ends around it. -/
theorem lineText_line (l : ReplyLine) :
    Connection.lineText (feed led ++ Bytes.ofText l.text ++ [terminator]) = l.text := by
  obtain ⟨front, fronts, spelled⟩ : ∃ front : String,
      (∀ c ∈ front.toList, Text.isLineEnd c = true) ∧ feed led = Bytes.ofText front := by
    cases led with
    | false => exact ⟨"", by simp, rfl⟩
    | true => exact ⟨"\n", by simp [Text.isLineEnd], by decide⟩
  have line : feed led ++ Bytes.ofText l.text ++ [terminator] =
      Bytes.ofText (front ++ (l.text ++ "\r")) := by
    rw [spelled, Bytes.ofText_append, Bytes.ofText_append, List.append_assoc]
    rfl
  rw [Connection.lineText, line, Bytes.lossyText_ofText, String.toList_append, String.toList_append,
    Text.trim_append fronts l.plain (by simp [Text.isLineEnd]), String.ofList_toList]

end ReplyLine

namespace Connection

variable {σ : Type} {server : Server σ} {c : Connection} {s : σ} {request : String}
  {requests : List String} {led : Bool} {l : ReplyLine} {replies : List ReplyLine} {more : Bytes}

/-! ### One call -/

/-- The bytes that come for a call once its request has been sent. -/
def arrived (server : Server σ) (request : String) (c : Connection) (s : σ) : Bytes :=
  (write server (frame request) c s).1.unread.drop c.unread.length

theorem prefix_unread_deliver (lines : List Bytes) (c : Connection) (s : σ) :
    c.unread <+: (deliver server lines c s).1.unread := by
  induction lines generalizing c s with
  | nil => exact List.prefix_rfl
  | cons line lines ih =>
    have one : c.unread <+: (c.receive (server.react c.number line s).1).unread := by
      unfold receive
      split
      · exact List.prefix_rfl
      · exact List.prefix_append _ _
    exact one.trans (ih _ _)

/-- What has come stands behind what was unread. -/
theorem unread_write (server : Server σ) (request : String) (c : Connection) (s : σ) :
    (write server (frame request) c s).1.unread = c.unread ++ arrived server request c s := by
  have kept : c.unread <+: (write server (frame request) c s).1.unread :=
    prefix_unread_deliver (Wire.lines (c.begun ++ frame request)).1
      { c with begun := (Wire.lines (c.begun ++ frame request)).2 } s
  exact (List.prefix_iff_eq_append.mp kept).symm

/-- A call takes the line that what is unread begins with. -/
theorem call_of_line {body rest : Bytes} (plain : terminator ∉ body)
    (fits : body.length < maxReplyLength)
    (unread : c.unread ++ arrived server request c s = body ++ [terminator] ++ rest) :
    (call server request c s).1 = .line (lineText (body ++ [terminator])) ∧
      (call server request c s).2.1.unread = rest := by
  have cut : Wire.cut maxReplyLength (write server (frame request) c s).1.unread =
      .line (body ++ [terminator]) rest := by
    rw [unread_write, unread]
    exact Wire.cut_eq_line_iff.mpr ⟨body, rfl, plain, fits, rfl⟩
  have taken : (write server (frame request) c s).1.readLine =
      (.line (lineText (body ++ [terminator])),
        { (write server (frame request) c s).1 with unread := rest }) := by
    rw [readLine, cut]
  exact ⟨congrArg Prod.fst taken, congrArg (·.2.unread) taken⟩

/-- A call brings a line only where what is unread begins with one. -/
theorem exists_of_call_eq_line {text : String} (h : (call server request c s).1 = .line text) :
    ∃ body rest, terminator ∉ body ∧ body.length < maxReplyLength ∧
      c.unread ++ arrived server request c s = body ++ [terminator] ++ rest := by
  change (write server (frame request) c s).1.readLine.1 = .line text at h
  unfold readLine at h
  split at h
  · next line rest cut =>
    obtain ⟨body, rfl, plain, fits, unread⟩ := Wire.cut_eq_line_iff.mp cut
    exact ⟨body, rest, plain, fits, (unread_write server request c s).symm.trans unread⟩
  · cases h
  · split at h <;> cases h

/-- What stands in front of the first terminator of a stream is determined by it. -/
theorem eq_of_first {body body' rest rest' : Bytes} (plain : terminator ∉ body)
    (plain' : terminator ∉ body')
    (h : body ++ [terminator] ++ rest = body' ++ [terminator] ++ rest') : body = body' := by
  let limit := body.length + body'.length + 1
  have cut : Wire.cut limit (body ++ [terminator] ++ rest) = .line (body ++ [terminator]) rest :=
    Wire.cut_eq_line_iff.mpr ⟨body, rfl, plain, by omega, rfl⟩
  have cut' : Wire.cut limit (body ++ [terminator] ++ rest) = .line (body' ++ [terminator]) rest' :=
    Wire.cut_eq_line_iff.mpr ⟨body', rfl, plain', by omega, h⟩
  exact List.append_cancel_right (Wire.Cut.line.inj (cut.symm.trans cut')).1

/-- A line at the beginning of a stream has come whole, once a terminator has come. -/
theorem exists_of_prefix {u body rest : Bytes} (plain : terminator ∉ body) (come : terminator ∈ u)
    (h : u <+: body ++ [terminator] ++ rest) :
    ∃ v, u = body ++ [terminator] ++ v ∧ v <+: rest := by
  rcases List.prefix_or_prefix_of_prefix h (List.prefix_append (body ++ [terminator]) rest)
    with short | ⟨v, rfl⟩
  · rcases List.prefix_concat_iff.mp short with rfl | inside
    · exact ⟨[], (List.append_nil _).symm, List.nil_prefix⟩
    · exact absurd (inside.subset come) plain
  · exact ⟨v, rfl, (List.prefix_append_right_inj _).mp h⟩

/-! ### Several calls -/

/-- Calls one after another on one connection, with what they bring. -/
def calls (server : Server σ) : List String → Connection → σ → List Answer × Connection × σ
  | [], c, s => ([], c, s)
  | request :: requests, c, s =>
    let (answer, c, s) := call server request c s
    let (answers, c, s) := calls server requests c s
    (answer :: answers, c, s)

/-- What has come for each of several calls. -/
def arrivals (server : Server σ) : List String → Connection → σ → List Bytes
  | [], _, _ => []
  | request :: requests, c, s =>
    let (_, c', s') := call server request c s
    arrived server request c s :: arrivals server requests c' s'

/-- The bytes that a connection has when the calls are made, those that come for them included. -/
def stream (server : Server σ) (requests : List String) (c : Connection) (s : σ) : Bytes :=
  c.unread ++ (arrivals server requests c s).flatten

/-- No call waits in vain: the terminators of as many replies as calls have come, each by its
call. -/
def InTime (server : Server σ) (requests : List String) (c : Connection) (s : σ) : Prop :=
  ∀ k < requests.length,
    k < (c.unread ++ ((arrivals server requests c s).take (k + 1)).flatten).count terminator

theorem calls_cons (server : Server σ) (request : String) (requests : List String) (c : Connection)
    (s : σ) : calls server (request :: requests) c s =
      let next := call server request c s
      let later := calls server requests next.2.1 next.2.2
      (next.1 :: later.1, later.2) := rfl

theorem arrivals_cons (server : Server σ) (request : String) (requests : List String)
    (c : Connection) (s : σ) : arrivals server (request :: requests) c s =
      arrived server request c s :: arrivals server requests (call server request c s).2.1
        (call server request c s).2.2 := rfl

/-- Behind a call that has taken a line, the stream goes on. -/
theorem stream_cons {line rest : Bytes}
    (unread : c.unread ++ arrived server request c s = line ++ rest)
    (left : (call server request c s).2.1.unread = rest) :
    stream server (request :: requests) c s =
      line ++ stream server requests (call server request c s).2.1
        (call server request c s).2.2 := by
  rw [stream, arrivals_cons, List.flatten_cons, ← List.append_assoc, unread, stream, left,
    List.append_assoc]

/-- Behind a call that has taken a line, the others are in time if all are. -/
theorem inTime_cons_iff {body rest : Bytes} (plain : terminator ∉ body)
    (unread : c.unread ++ arrived server request c s = body ++ [terminator] ++ rest)
    (left : (call server request c s).2.1.unread = rest) :
    InTime server (request :: requests) c s ↔
      InTime server requests (call server request c s).2.1 (call server request c s).2.2 := by
  have one : (body ++ [terminator]).count terminator = 1 := by
    rw [List.count_append, List.count_eq_zero.mpr plain]
    rfl
  have counted (k : Nat) :
      (c.unread ++ ((arrivals server (request :: requests) c s).take (k + 1)).flatten).count
          terminator =
        1 + ((call server request c s).2.1.unread ++ ((arrivals server requests
          (call server request c s).2.1 (call server request c s).2.2).take k).flatten).count
            terminator := by
    rw [arrivals_cons, List.take_succ_cons, List.flatten_cons, ← List.append_assoc, unread, left,
      List.append_assoc, List.count_append, one]
  constructor
  · intro all k bound
    have later := all (k + 1) (Nat.succ_lt_succ bound)
    rw [counted] at later
    omega
  · intro later k bound
    rw [counted]
    cases k with
    | zero => omega
    | succ k =>
      have := later k (Nat.lt_of_succ_lt_succ bound)
      omega

theorem inTime_first (h : InTime server (request :: requests) c s) :
    terminator ∈ c.unread ++ arrived server request c s := by
  have first := h 0 (Nat.succ_pos _)
  rw [arrivals_cons, List.take_succ_cons, List.take_zero, List.flatten_cons, List.flatten_nil,
    List.append_nil] at first
  exact List.count_pos_iff.mp first

theorem stream_of_reply (led : Bool) (l : ReplyLine) (replies : List ReplyLine) (more : Bytes) :
    ReplyLine.feed led ++ (l :: replies).flatMap ReplyLine.bytes ++ more =
      ReplyLine.feed led ++ Bytes.ofText l.text ++ [terminator] ++
        (ReplyLine.feed l.paired ++ replies.flatMap ReplyLine.bytes ++ more) := by
  simp [ReplyLine.bytes, frame]

theorem plain_of_reply (led : Bool) (l : ReplyLine) :
    terminator ∉ ReplyLine.feed led ++ Bytes.ofText l.text := by
  simp [ReplyLine.terminator_notMem_feed, l.terminator_notMem_text]

/-- Where replies come, what has come for a call begins with the first of them as soon as it holds a
terminator. -/
theorem exists_of_replies
    (replied : stream server (request :: requests) c s <+:
      ReplyLine.feed led ++ (l :: replies).flatMap ReplyLine.bytes ++ more)
    (come : terminator ∈ c.unread ++ arrived server request c s) :
    ∃ v, c.unread ++ arrived server request c s =
      ReplyLine.feed led ++ Bytes.ofText l.text ++ [terminator] ++ v := by
  have first : c.unread ++ arrived server request c s <+:
      stream server (request :: requests) c s := by
    rw [stream, arrivals_cons, List.flatten_cons, ← List.append_assoc]
    exact List.prefix_append _ _
  rw [stream_of_reply] at replied
  obtain ⟨v, unread, -⟩ := exists_of_prefix (plain_of_reply led l) come (first.trans replied)
  exact ⟨v, unread⟩

/-- A call that finds a reply that is not too long brings its text, and the other replies follow. -/
theorem call_of_reply {rest : Bytes}
    (fits : (ReplyLine.feed led).length + (frame l.text).length ≤ maxReplyLength)
    (unread : c.unread ++ arrived server request c s =
      ReplyLine.feed led ++ Bytes.ofText l.text ++ [terminator] ++ rest)
    (replied : stream server (request :: requests) c s <+:
      ReplyLine.feed led ++ (l :: replies).flatMap ReplyLine.bytes ++ more) :
    let next := call server request c s
    next.1 = .line l.text ∧ next.2.1.unread = rest ∧
      (InTime server (request :: requests) c s ↔ InTime server requests next.2.1 next.2.2) ∧
      stream server (request :: requests) c s =
        ReplyLine.feed led ++ Bytes.ofText l.text ++ [terminator] ++
          stream server requests next.2.1 next.2.2 ∧
      stream server requests next.2.1 next.2.2 <+:
        ReplyLine.feed l.paired ++ replies.flatMap ReplyLine.bytes ++ more := by
  intro next
  have room : (ReplyLine.feed led ++ Bytes.ofText l.text).length < maxReplyLength := by
    rw [frame, List.length_append, List.length_singleton] at fits
    rw [List.length_append]
    omega
  obtain ⟨brought, left⟩ := call_of_line (plain_of_reply led l) room unread
  have goes : stream server (request :: requests) c s = _ := stream_cons unread left
  refine ⟨brought.trans (congrArg _ l.lineText_line), left,
    inTime_cons_iff (plain_of_reply led l) unread left, goes, ?_⟩
  rw [goes, stream_of_reply] at replied
  exact (List.prefix_append_right_inj _).mp replied

/-- Calls that are in time, and whose replies are not too long, bring the texts of the replies. What
is then left on the connection comes behind the last reply, but for a line feed of its own. -/
theorem calls_of_fit (same : replies.length = requests.length) (fit : ReplyLine.Fit led replies)
    (inTime : InTime server requests c s)
    (replied : stream server requests c s <+:
      ReplyLine.feed led ++ replies.flatMap ReplyLine.bytes ++ more) :
    (calls server requests c s).1 = replies.map (.line ·.text) ∧
      ∃ taken, stream server requests c s = taken ++ (calls server requests c s).2.1.unread ∧
        ReplyLine.feed led ++ replies.flatMap ReplyLine.bytes =
          taken ++ ReplyLine.feed (ReplyLine.leftover led replies) := by
  -- On the replies: what was left over from the one before is part of what the call reads.
  induction replies generalizing requests c s led with
  | nil =>
    obtain rfl := List.length_eq_zero_iff.mp same.symm
    refine ⟨rfl, [], ?_, ?_⟩
    · simp [stream, arrivals, calls]
    · simp [ReplyLine.leftover]
  | cons l replies ih =>
    obtain ⟨request, requests, rfl⟩ := List.exists_cons_of_length_eq_add_one same.symm
    obtain ⟨rest, unread⟩ := exists_of_replies replied (inTime_first inTime)
    obtain ⟨brought, -, inTime_iff, goes, replied'⟩ := call_of_reply fit.1 unread replied
    obtain ⟨later, taken, split, line⟩ :=
      ih (Nat.succ.inj same) fit.2 (inTime_iff.mp inTime) replied'
    refine ⟨?_, ReplyLine.feed led ++ Bytes.ofText l.text ++ [terminator] ++ taken, ?_, ?_⟩
    · rw [calls_cons, List.map_cons]
      exact congrArg₂ List.cons brought later
    · rw [goes, split, ← List.append_assoc]
      rfl
    · have shape := stream_of_reply led l replies []
      rw [List.append_nil, List.append_nil, line] at shape
      rw [shape, ReplyLine.leftover, ← List.append_assoc]

/-- If no call fails, the calls are in time and their replies are not too long. -/
theorem fit_of_lines (same : replies.length = requests.length)
    (lines : ∀ a ∈ (calls server requests c s).1, ∃ text, a = .line text)
    (replied : stream server requests c s <+:
      ReplyLine.feed led ++ replies.flatMap ReplyLine.bytes ++ more) :
    ReplyLine.Fit led replies ∧ InTime server requests c s := by
  induction replies generalizing requests c s led with
  | nil =>
    obtain rfl := List.length_eq_zero_iff.mp same.symm
    exact ⟨trivial, fun k bound => absurd bound (Nat.not_lt_zero k)⟩
  | cons l replies ih =>
    obtain ⟨request, requests, rfl⟩ := List.exists_cons_of_length_eq_add_one same.symm
    rw [calls_cons] at lines
    obtain ⟨⟨text, brought⟩, later⟩ := List.forall_mem_cons.mp lines
    obtain ⟨body, rest, plain, fits, first⟩ := exists_of_call_eq_line brought
    have come : terminator ∈ c.unread ++ arrived server request c s := by simp [first]
    obtain ⟨rest', unread⟩ := exists_of_replies replied come
    -- The line that the call has taken is that of the reply: both end at the first terminator.
    have fits : (ReplyLine.feed led).length + (frame l.text).length ≤ maxReplyLength := by
      obtain rfl := eq_of_first plain (plain_of_reply led l) (first.symm.trans unread)
      rw [frame, List.length_append, List.length_singleton]
      rw [List.length_append] at fits
      omega
    obtain ⟨-, -, inTime_iff, -, replied'⟩ := call_of_reply fits unread replied
    obtain ⟨fit, inTime⟩ := ih (Nat.succ.inj same) later replied'
    exact ⟨⟨fits, fit⟩, inTime_iff.mpr inTime⟩

/-! ### A call without a reply -/

/-- A call that finds as many bytes as a reply may have, and no terminator among them, fails. -/
theorem call_of_long {unread : Bytes} (eq : c.unread ++ arrived server request c s = unread)
    (long : maxReplyLength ≤ unread.length) (open_ : terminator ∉ unread.take maxReplyLength) :
    call server request c s = (.fault (.malformed "response too long"),
      { (write server (frame request) c s).1 with unread := unread.drop maxReplyLength },
      (write server (frame request) c s).2) := by
  have cut : Wire.cut maxReplyLength (write server (frame request) c s).1.unread = .tooLong := by
    rw [unread_write, eq]
    exact Wire.cut_eq_tooLong_iff.mpr ⟨long, open_⟩
  have taken : (write server (frame request) c s).1.readLine =
      (.fault (.malformed "response too long"),
        { (write server (frame request) c s).1 with unread := unread.drop maxReplyLength }) := by
    rw [readLine, cut]
    simp only [unread_write, eq]
  exact congrArg
    (fun a : Answer × Connection => (a.1, a.2, (write server (frame request) c s).2)) taken

/-- A call that finds fewer bytes, and no terminator among them, fails if the server sends nothing
more. -/
theorem call_of_ended {unread : Bytes} (eq : c.unread ++ arrived server request c s = unread)
    (ended : (write server (frame request) c s).1.ended = true)
    (short : unread.length < maxReplyLength) (open_ : terminator ∉ unread) :
    (call server request c s).1 = .fault .closed := by
  have cut : Wire.cut maxReplyLength (write server (frame request) c s).1.unread = .short := by
    rw [unread_write, eq]
    exact Wire.cut_eq_short_iff.mpr ⟨short, open_⟩
  change (write server (frame request) c s).1.readLine.1 = _
  rw [readLine, cut, if_pos ended]

/-- The calls on a connection bring the texts of the replies, whole and in order: all of them if the
replies are not too long and come in time, and as many as there are calls before the first that
fails. A further call fails, and with it the replies end, when there is no terminator among as many
bytes as a reply may have, or the stream ends before that. -/
theorem replies_kept_apart (server : Server σ) (c : Connection) (s : σ) {requests : List String}
    {led : Bool} {replies : List ReplyLine} {tail : Bytes} (same : replies.length = requests.length)
    (replied : stream server requests c s <+:
      ReplyLine.feed led ++ replies.flatMap ReplyLine.bytes ++ tail) :
    let run := calls server requests c s
    (ReplyLine.Fit led replies → InTime server requests c s →
      run.1 = replies.map (.line ·.text) ∧
      ∀ request,
        stream server requests c s ++ arrived server request run.2.1 run.2.2 =
          ReplyLine.feed led ++ replies.flatMap ReplyLine.bytes ++ tail →
        let unread := ReplyLine.feed (ReplyLine.leftover led replies) ++ tail
        (maxReplyLength ≤ unread.length → terminator ∉ unread.take maxReplyLength →
          (call server request run.2.1 run.2.2).1 = .fault (.malformed "response too long")) ∧
        ((write server (frame request) run.2.1 run.2.2).1.ended = true →
          unread.length < maxReplyLength → terminator ∉ unread →
            (call server request run.2.1 run.2.2).1 = .fault .closed)) ∧
    ((∀ a ∈ run.1, ∃ text, a = .line text) → run.1 = replies.map (.line ·.text)) := by
  intro run
  refine ⟨fun fit inTime => ?_, fun lines => ?_⟩
  · obtain ⟨texts, taken, split, line⟩ := calls_of_fit same fit inTime replied
    refine ⟨texts, ?_⟩
    intro request come unread
    have left : run.2.1.unread ++ arrived server request run.2.1 run.2.2 = unread := by
      rw [split, line, List.append_assoc, List.append_assoc] at come
      exact List.append_cancel_left come
    exact ⟨fun long open_ => congrArg Prod.fst (call_of_long left long open_),
      fun ended short open_ => call_of_ended left ended short open_⟩
  · obtain ⟨fit, inTime⟩ := fit_of_lines same lines replied
    exact (calls_of_fit same fit inTime replied).1

end Connection

/-- A server that reacts in a fixed order, whatever it is asked. -/
def Server.played : Server (List Reaction) where
  accept s := (.ok 0, s)
  react _ _
    | [] => ({}, [])
    | reaction :: later => (reaction, later)

namespace Connection

instance (server : Server σ) (requests : List String) (c : Connection) (s : σ) :
    Decidable (InTime server requests c s) :=
  inferInstanceAs (Decidable (∀ k < _, _))

/-- A request of one line is followed by one reaction. -/
theorem write_played {reaction : Reaction} {later : List Reaction} (begun : c.begun = [])
    (plain : terminator ∉ Bytes.ofText request) :
    write .played (frame request) c (reaction :: later) = (c.receive reaction, later) := by
  have line : Wire.lines (c.begun ++ frame request) = ([Bytes.ofText request], []) := by
    rw [begun]
    exact Wire.lines_append_terminator plain []
  have same : { c with begun := [] } = c := by
    cases c
    exact begun ▸ rfl
  rw [write, line]
  dsimp only
  rw [same]
  rfl

/-- A line feed may come after the call that its reply answers. The server breaks off a third
reply. -/
theorem replies_kept_apart_lateLineFeed :
    let reactions : List Reaction := [{ sends := Bytes.ofText "941\r" },
      { sends := Bytes.ofText "\n18A\r\nX" }, { sends := Bytes.ofText "Y", ends := true }]
    let run := calls .played ["93", "17"] { number := 0 } reactions
    run.1 = [.line "941", .line "18A"] ∧
      (call .played "17" run.2.1 run.2.2).1 = .fault .closed := by
  intro reactions run
  let replies : List ReplyLine :=
    [⟨"941", true, by simp [Text.isLineEnd]⟩, ⟨"18A", true, by simp [Text.isLineEnd]⟩]
  obtain ⟨all, -⟩ :=
    @replies_kept_apart _ .played { number := 0 } reactions ["93", "17"] false replies
      (Bytes.ofText "XY") rfl (by decide +kernel)
  obtain ⟨texts, next⟩ := all ⟨by decide, by decide, trivial⟩ (by decide +kernel)
  obtain ⟨-, closed⟩ := next "17" (by decide +kernel)
  exact ⟨texts, closed (by decide +kernel) (by decide +kernel) (by decide +kernel)⟩

/-- A call behind one that has failed for the length of its reply brings the rest of that reply, if
this is a line, and nothing of the next. -/
theorem calls_of_long {sends sends' body : Bytes} (long : maxReplyLength ≤ sends.length)
    (unended : terminator ∉ sends.take maxReplyLength)
    (left : sends.drop maxReplyLength = body ++ [terminator]) (plain : terminator ∉ body)
    (fits : body.length < maxReplyLength) :
    (calls .played ["98", "98"] { number := 0 } [{ sends }, { sends := sends' }]).1 =
      [.fault (.malformed "response too long"), .line (lineText (body ++ [terminator]))] := by
  have single : terminator ∉ Bytes.ofText "98" := by decide
  -- The first call takes as many bytes as a reply may have; the second finds the others in front of
  -- its own reply.
  have written : write .played (frame "98") { number := 0 } [{ sends }, { sends := sends' }] =
      ({ number := 0, unread := sends }, [{ sends := sends' }]) := write_played rfl single
  have unread := unread_write .played "98" { number := 0 } [{ sends }, { sends := sends' }]
  rw [written] at unread
  have failed := call_of_long unread.symm long unended
  rw [written, left] at failed
  have written' : write .played (frame "98") { number := 0, unread := body ++ [terminator] }
      [{ sends := sends' }] = ({ number := 0, unread := body ++ [terminator] ++ sends' }, []) :=
    write_played rfl single
  have unread' := unread_write .played "98" { number := 0, unread := body ++ [terminator] }
    [{ sends := sends' }]
  rw [written'] at unread'
  obtain ⟨brought, -⟩ := call_of_line plain fits unread'.symm
  rw [calls_cons, failed]
  exact congrArg (fun a => [Answer.fault _, a]) brought

/-- The text of a reply that is too long. -/
def longText : List Char := List.replicate maxReplyLength 'A' ++ ['B']

/-- The end of a reply that is too long is brought for a reply, and the next reply is not. -/
theorem call_behind_failure :
    let long : ReplyLine := ⟨String.ofList longText, false, by
      simp [longText, Text.isLineEnd, List.mem_replicate, or_imp, forall_and]⟩
    let next : ReplyLine := ⟨"C", false, by simp [Text.isLineEnd]⟩
    (calls .played ["98", "98"] { number := 0 }
      [{ sends := long.bytes }, { sends := next.bytes }]).1 =
        [.fault (.malformed "response too long"), .line "B"] := by
  intro long next
  have bytes : long.bytes = List.replicate maxReplyLength 0x41 ++ Bytes.ofText "B\r" := by
    have letters : Bytes.ofChars (List.replicate maxReplyLength 'A') =
        List.replicate maxReplyLength 0x41 := Bytes.ofChars_replicate rfl _
    have text : Bytes.ofText long.text =
        List.replicate maxReplyLength 0x41 ++ Bytes.ofChars ['B'] := by
      rw [Bytes.ofText, String.toList_ofList, longText, Bytes.ofChars_append, letters]
    rw [ReplyLine.bytes, frame, text, List.append_assoc, List.append_assoc]
    rfl
  have size : maxReplyLength ≤ long.bytes.length := by
    rw [bytes, List.length_append, List.length_replicate]
    omega
  have unended : terminator ∉ long.bytes.take maxReplyLength := by
    rw [bytes, List.take_left' List.length_replicate]
    exact fun inside => absurd (List.eq_of_mem_replicate inside) (by decide)
  have left : long.bytes.drop maxReplyLength = Bytes.ofText "B" ++ [terminator] := by
    rw [bytes, List.drop_left' List.length_replicate]
    rfl
  rw [calls_of_long size unended left (by decide) (by decide)]
  decide +kernel

end Connection

end Sip

end SelfCheck
