import SelfCheck.Proofs.Sip.Lending

/-!
# Whatever happens to the pool

The pool does not look at what it is given back. A borrower may give back a connection on which a
call has just failed, and it is idle then; the pool leaves it to the borrower to drop it instead. A
call of the client gives its connection back only with a reply in hand, so what such calls leave
idle has replied to everything that was asked on it. The calls of the client are courses of the
events that may happen to a pool, whatever other loans and openings are under way.

## Main definitions

* `Sip.Lending.Everywhere` — a kind that all connections of the pool are of
* `Sip.Lending.client` — the client that makes the calls

## Main results

* `Sip.Lending.loggedIn_run`, `Sip.Lending.completed_run` — what holds of all connections
* `Sip.Lending.exists_run_exchange` — a call of the client is one such course of events
* `Sip.Lending.loans_accounted` — where permits and connections are, whatever has happened
-/

namespace SelfCheck.Sip

variable {σ : Type}

namespace Lending

variable {server : Server σ} {settings : Settings.Sip} {l l' : Lending σ} {d : Deed σ} {line : Line}

/-! ### Where connections come from -/

/-- What is given back was borrowed, and has perhaps replied to one more call. -/
theorem mem_of_returned? (h : l.returned? server d = some line) :
    line ∈ l.lent ∨ ∃ request, ∃ earlier ∈ l.lent,
      line = (earlier.call server request l.server).2.1 ∧
        (earlier.call server request l.server).1.isLine = true := by
  cases d with
  | giveBack n => exact .inl (List.mem_of_getElem? h)
  | serve n request =>
    obtain ⟨earlier, lent, h⟩ := Option.bind_eq_some_iff.1 h
    dsimp only at h
    split_ifs at h with replied
    exact .inr ⟨request, earlier, List.mem_of_getElem? lent, (Option.some.inj h).symm, replied⟩
  | _ => cases h

/-- An idle connection was idle before, or has just been opened ahead or given back. -/
theorem mem_idle_of_move (move : Move server settings l d l') (h : line ∈ l'.pool.idle) :
    line ∈ l.pool.idle ∨ (∃ s, Line.dial server settings l.server = (some line, s)) ∨
      l.returned? server d = some line := by
  cases move with
  | warmed running opened s dialed =>
    rcases List.mem_cons.1 h with rfl | h
    · exact .inr (.inl ⟨s, dialed⟩)
    · exact .inl h
  | reuse ready borrowed pool lends =>
    rw [(Pool.borrow_eq_reuse_iff.1 lends).2]
    exact .inl (List.mem_cons_of_mem _ h)
  | dial ready pool lends =>
    rw [(Pool.borrow_eq_dial_iff.1 lends).2.2]
    exact .inl h
  | settle d n lent s =>
    dsimp only [Lending.settle] at h
    split at h
    · next returned given =>
      rw [Pool.giveBack] at h
      split at h
      · exact .inl h
      · rcases List.mem_cons.1 h with rfl | h
        · exact .inr (.inr given)
        · exact .inl h
    · exact .inl h
  | close ready => cases h
  | _ => exact .inl h

/-- A borrowed connection was borrowed or idle before, perhaps with one call less, or has just been
opened. -/
theorem mem_lent_of_move (move : Move server settings l d l') (h : line ∈ l'.lent) :
    line ∈ l.lent ∨ line ∈ l.pool.idle ∨ (∃ s, Line.dial server settings l.server = (some line, s)) ∨
      ∃ n request, d = .call n request ∧
        ∃ earlier ∈ l.lent, line = (earlier.call server request l.server).2.1 := by
  cases move with
  | reuse ready borrowed pool lends =>
    rcases List.mem_append.1 h with h | h
    · exact .inl h
    · rw [(Pool.borrow_eq_reuse_iff.1 lends).2, List.mem_singleton.1 h]
      exact .inr (.inl List.mem_cons_self)
  | dialed dials awaited opened s dialed =>
    rcases List.mem_append.1 h with h | h
    · exact .inl h
    · rw [List.mem_singleton.1 h]
      exact .inr (.inr (.inl ⟨s, dialed⟩))
  | call n request earlier lent =>
    rcases List.mem_or_eq_of_mem_set h with h | rfl
    · exact .inl h
    · exact .inr (.inr (.inr ⟨n, request, rfl, earlier, List.mem_of_getElem? lent, rfl⟩))
  | settle d n lent s => exact .inl (List.mem_of_mem_eraseIdx h)
  | _ => exact .inl h

/-- Every connection of the pool, idle or borrowed, is of some kind. -/
def Everywhere (P : Line → Prop) (l : Lending σ) : Prop :=
  (∀ line ∈ l.pool.idle, P line) ∧ ∀ line ∈ l.lent, P line

/-- What holds of a new connection and is kept by every call holds everywhere. -/
theorem Everywhere.step {P : Line → Prop} (h : Everywhere P l)
    (opened : ∀ line s, Line.dial server settings l.server = (some line, s) → P line)
    (served : ∀ line request, P line → (line.call server request l.server).1.isLine = true →
      P (line.call server request l.server).2.1)
    (called : ∀ n request, d = .call n request → ∀ line, P line →
      P (line.call server request l.server).2.1)
    (move : Move server settings l d l') : Everywhere P l' := by
  obtain ⟨idle, lent⟩ := h
  constructor
  · intro line mem
    rcases mem_idle_of_move move mem with mem | ⟨s, dialed⟩ | returned
    · exact idle line mem
    · exact opened line s dialed
    · rcases mem_of_returned? returned with mem | ⟨request, earlier, was, rfl, replied⟩
      · exact lent line mem
      · exact served earlier request (lent earlier was) replied
  · intro line mem
    rcases mem_lent_of_move move mem with mem | mem | ⟨s, dialed⟩ |
      ⟨n, request, direct, earlier, was, rfl⟩
    · exact lent line mem
    · exact idle line mem
    · exact opened line s dialed
    · exact called n request direct earlier (lent earlier was)

theorem everywhere_begun (settings : Settings.Sip) (P : Line → Prop) (s : σ) :
    Everywhere P (begun settings s) :=
  ⟨List.forall_mem_nil _, List.forall_mem_nil _⟩

theorem loggedIn_run (settings : Settings.Sip) (s : σ) (deeds : List (Deed σ)) :
    Everywhere (·.LoggedIn settings) ((begun settings s).run server settings deeds) :=
  run_invariant (everywhere_begun settings _ s) (fun _ _ _ h move => h.step
    (fun _ _ dialed => (Line.loggedIn_of_dial dialed).1) (fun _ _ login _ => login.call)
    (fun _ _ _ _ login => login.call) move) deeds

/-- As long as only the client makes calls, every connection has replied to everything. -/
theorem completed_run (s : σ) {deeds : List (Deed σ)}
    (client : ∀ n request, .call n request ∉ deeds) :
    Everywhere Line.Completed ((begun settings s).run server settings deeds) := by
  -- Not every step keeps this, so it is no invariant of runs; the assumption goes with the deeds.
  induction deeds using List.reverseRecOn with
  | nil => exact everywhere_begun settings _ s
  | append_singleton deeds d ih =>
    simp only [List.mem_append, List.mem_singleton, not_or] at client
    rw [run_concat]
    exact (ih fun n request => (client n request).1).step
      (fun _ _ dialed => (Line.loggedIn_of_dial dialed).2) (fun _ _ completed => completed.call)
      (fun n request direct => absurd direct.symm (client n request).2) (move_step d)

/-- The calls of the client are prudent. -/
theorem prudent_of_client (s : σ) {deeds : List (Deed σ)}
    (client : ∀ n request, .call n request ∉ deeds) :
    Prudent server settings (begun settings s) deeds := by
  rintro before d later rfl line returned
  have completed := (@completed_run _ server settings s before fun n request mem =>
    client n request (List.mem_append_left _ mem)).2
  rcases mem_of_returned? returned with mem | ⟨request, earlier, mem, rfl, replied⟩
  · exact completed line mem
  · exact (completed earlier mem).call replied

/-- If whatever is given back has replied to everything, so has whatever is idle. -/
theorem completed_idle_of_prudent (s : σ) {deeds : List (Deed σ)}
    (prudent : Prudent server settings (begun settings s) deeds) :
    ∀ line ∈ ((begun settings s).run server settings deeds).pool.idle, line.Completed := by
  induction deeds using List.reverseRecOn with
  | nil => exact List.forall_mem_nil _
  | append_singleton deeds d ih =>
    rw [run_concat]
    intro line mem
    rcases mem_idle_of_move (move_step d) mem with mem | ⟨s, dialed⟩ | returned
    · refine ih ?_ line mem
      rintro before deed later rfl
      exact prudent before deed (later ++ [d]) (by simp)
    · exact (Line.loggedIn_of_dial dialed).2
    · exact prudent deeds d [] rfl line returned

end Lending

/-! ### The calls of the client -/

/-- A connection is accepted if its login is. -/
theorem Client.toOption_welcome (client : Client σ) (answer : Answer) (c : Connection) :
    ((client.reply answer).bind (Client.welcome c)).toOption =
      if answer.admits then some c else none := by
  cases answer with
  | fault f => rfl
  | silence => rfl
  | line text =>
    have admits : (Answer.line text).admits = ((loginAccepted text).toOption == some true) := rfl
    rw [admits, Client.reply, Except.bind, Client.welcome]
    cases loginAccepted text with
    | error f => rfl
    | ok accepted => cases accepted <;> rfl

/-- A pool of the same connections, seen otherwise. -/
def Pool.map {κ κ' : Type} (f : κ → κ') (p : Pool κ) : Pool κ' :=
  ⟨p.free, p.idle.map f, p.closed⟩

/-- What is lent from such a pool. -/
def Pool.Loan.map {κ κ' : Type} (f : κ → κ') : Pool.Loan κ → Pool.Loan κ'
  | refused => refused
  | wait => wait
  | reuse c p => reuse (f c) (p.map f)
  | dial p => dial (p.map f)

section

variable {κ κ' : Type} {f : κ → κ'} {p : Pool κ}

theorem Pool.borrow_map : (p.map f).borrow = p.borrow.map f := by
  obtain ⟨free, idle, closed⟩ := p
  cases closed <;> cases free <;> cases idle <;> rfl

theorem Pool.map_giveBack (c : κ) : (p.giveBack c).map f = (p.map f).giveBack (f c) := by
  obtain ⟨free, idle, closed⟩ := p
  cases closed <;> rfl

end

namespace Lending

variable {server : Server σ} {settings : Settings.Sip} {l : Lending σ} {line : Line}

/-- The client that makes the calls. -/
def client (settings : Settings.Sip) (l : Lending σ) : Client σ :=
  ⟨settings, l.pool.map (·.connection), l.server⟩

theorem client_begun (settings : Settings.Sip) (s : σ) :
    (begun settings s).client settings = .ofSettings settings s :=
  rfl

theorem client_close (ready : l.warming ≠ .running) :
    (l.step server settings .close).client settings = (l.client settings).close := by
  rw [step, if_neg ready]
  rfl

/-- A borrower's connection is opened as the client opens it. -/
theorem client_dial (l : Lending σ) :
    (Client.dial server (l.client settings)).1.toOption =
        (Line.dial server settings l.server).1.map (·.connection) ∧
      (Client.dial server (l.client settings)).2 =
        { l with server := (Line.dial server settings l.server).2 }.client settings := by
  rw [Client.dial, Line.dial]
  cases accepted : server.accept l.server with
  | mk result s =>
    rw [show (l.client settings).server = l.server from rfl, accepted]
    cases result with
    | error reason => exact ⟨rfl, rfl⟩
    | ok number =>
      dsimp only [Line.call]
      rw [show (l.client settings).loginRequest = (Request.ofSettings settings).text from rfl]
      generalize Connection.call server (Request.ofSettings settings).text { number } s = called
      obtain ⟨answer, connection, s⟩ := called
      refine ⟨?_, rfl⟩
      rw [Client.toOption_welcome]
      dsimp only
      split <;> rfl

theorem client_dial_of_some {s : σ} (opened : Line.dial server settings l.server = (some line, s)) :
    Client.dial server (l.client settings) =
      (.ok line.connection, { l with server := s }.client settings) := by
  obtain ⟨got, after⟩ := @client_dial _ server settings l
  rw [opened] at got after
  refine Prod.ext ?_ after
  cases result : (Client.dial server (l.client settings)).1 with
  | error f => rw [result] at got; cases got
  | ok c =>
    rw [result] at got
    exact congrArg Except.ok (Option.some.inj got)

theorem client_dial_of_none {s : σ} (opened : Line.dial server settings l.server = (none, s)) :
    ∃ f, Client.dial server (l.client settings) =
      (.error f, { l with server := s }.client settings) := by
  obtain ⟨got, after⟩ := @client_dial _ server settings l
  rw [opened] at got after
  cases result : (Client.dial server (l.client settings)).1 with
  | ok c => rw [result] at got; cases got
  | error f => exact ⟨f, Prod.ext result after⟩

/-- What opens a connection ahead is what the client begins with. -/
theorem client_start (due : l.warming = .due) :
    ((l.step server settings .warm).step server settings .warmed).client settings =
      Client.start server (l.client settings) := by
  have began : l.step server settings .warm = { l with warming := .running } := if_pos due
  rw [began, step, if_pos rfl, Client.start]
  cases opened : Line.dial server settings l.server with
  | mk line s =>
    cases line with
    | some line =>
      rw [client_dial_of_some opened]
      rfl
    | none =>
      obtain ⟨f, failed⟩ := client_dial_of_none opened
      rw [failed]
      rfl

/-- A call of the client on the connection that was borrowed last. -/
theorem client_serve {lent : List Line} (borrowed : l.lent = lent ++ [line]) (request : String) :
    (l.step server settings (.serve lent.length request)).client settings =
        (Client.callOn server request line.connection (l.client settings)).2 ∧
      (l.step server settings (.serve lent.length request)).lent = lent ∧
      (l.step server settings (.serve lent.length request)).dials = l.dials := by
  have last : l.lent[lent.length]? = some line := by rw [borrowed, List.getElem?_concat_length]
  rw [step, last]
  dsimp only
  refine ⟨?_, ?_, rfl⟩
  · rw [returned?, last, Option.bind_some, Line.call, Client.callOn,
      show (l.client settings).server = l.server from rfl]
    obtain ⟨answer, connection, s⟩ := Connection.call server request line.connection l.server
    cases answer with
    | line text => exact congrArg (Client.mk settings · s) (Pool.map_giveBack _)
    | fault f => rfl
    | silence => rfl
  · -- The last of the loans ends, and the others keep their places.
    change l.lent.eraseIdx lent.length = lent
    rw [borrowed, List.eraseIdx_append_of_length_le (Nat.le_refl _), Nat.sub_self]
    exact List.append_nil lent

/-- One request of the client and its reply are such a course of events, whatever else is under
way. -/
theorem exists_run_exchange (ready : l.warming ≠ .running) (request : String) :
    ∃ deeds : List (Deed σ), (∀ n r, .call n r ∉ deeds) ∧
      (l.run server settings deeds).client settings =
        (Client.exchange server request (l.client settings)).2 ∧
      (l.run server settings deeds).lent = l.lent ∧
      (l.run server settings deeds).dials = l.dials := by
  have borrowed : (l.client settings).pool.borrow = l.pool.borrow.map (·.connection) :=
    Pool.borrow_map
  have began : l.step server settings .borrow = { l with warming := .past }.borrow := if_neg ready
  -- The pool decides on the course: no loan, a loan and a call, or an opening in between.
  rw [Client.exchange, Client.acquire, borrowed]
  cases lends : l.pool.borrow with
  | refused =>
    refine ⟨[.borrow], by simp, ?_⟩
    rw [run, List.foldl_cons, List.foldl_nil, began, borrow, lends]
    exact ⟨rfl, rfl, rfl⟩
  | wait =>
    refine ⟨[.borrow], by simp, ?_⟩
    rw [run, List.foldl_cons, List.foldl_nil, began, borrow, lends]
    exact ⟨rfl, rfl, rfl⟩
  | reuse line pool =>
    refine ⟨[.borrow, .serve l.lent.length request], by simp, ?_⟩
    rw [run, List.foldl_cons, List.foldl_cons, List.foldl_nil, began, borrow, lends]
    exact client_serve rfl request
  | dial pool =>
    dsimp only [Pool.Loan.map]
    rw [show (⟨(l.client settings).settings, pool.map (·.connection), (l.client settings).server⟩ :
      Client σ) = { l with pool }.client settings from rfl]
    cases opened : Line.dial server settings l.server with
    | mk line s =>
      cases line with
      | none =>
        obtain ⟨f, failed⟩ := client_dial_of_none (l := { l with pool }) opened
        refine ⟨[.borrow, .dialed], by simp, ?_⟩
        rw [failed, run, List.foldl_cons, List.foldl_cons, List.foldl_nil, began, borrow, lends]
        dsimp only [step]
        rw [opened]
        exact ⟨rfl, rfl, rfl⟩
      | some line =>
        refine ⟨[.borrow, .dialed, .serve l.lent.length request], by simp, ?_⟩
        rw [client_dial_of_some (l := { l with pool }) opened, run, List.foldl_cons,
          List.foldl_cons, List.foldl_cons, List.foldl_nil, began, borrow, lends]
        have dialed : { l with pool, warming := .past, dials := l.dials + 1 }.step server settings
            .dialed = { l with pool, warming := .past, server := s, lent := l.lent ++ [line] } := by
          dsimp only [step]
          rw [opened]
        dsimp only
        rw [dialed]
        exact client_serve rfl request

/-! ### Whatever has happened -/

/-- Whatever has happened to a pool, there are no more connections than permits, and each permit is
free, goes with a loan, or goes with an opening for a borrower. What is idle has logged in and, if
connections are given back only after they have replied to everything, as those of the client's calls
are, it has replied to everything. After the pool was closed nothing is idle, and whoever asks for a
connection is told so. -/
theorem loans_accounted (server : Server σ) (settings : Settings.Sip) (s : σ)
    (deeds : List (Deed σ)) :
    let pools := fun deeds => (begun settings s).run server settings deeds
    let l := pools deeds
    l.pool.idle.length + l.lent.length + l.running ≤ max settings.poolSize 1 ∧
    l.pool.free + l.lent.length + l.dials = max settings.poolSize 1 ∧
    (∀ line ∈ l.pool.idle, line.LoggedIn settings) ∧
    (Prudent server settings (begun settings s) deeds → ∀ line ∈ l.pool.idle, line.Completed) ∧
    ((∀ n request, .call n request ∉ deeds) → Prudent server settings (begun settings s) deeds) ∧
    ∀ before later, deeds = before ++ .close :: later → (pools before).warming ≠ .running →
      l.pool.idle = [] ∧ (Client.acquire server (l.client settings)).1 = .error .poolClosed := by
  have balanced := Balanced.run server settings s deeds
  refine ⟨balanced.bound, balanced.permits, (loggedIn_run settings s deeds).1,
    completed_idle_of_prudent s, prudent_of_client s, ?_⟩
  rintro before later rfl ready
  have closed := @closed_run_of_close _ _ _ _ before later ready
  have refused : (((begun settings s).run server settings (before ++ .close :: later)).client
      settings).pool.borrow = .refused := Pool.borrow_eq_refused_iff.2 closed
  refine ⟨(balanced.closed closed).2, ?_⟩
  dsimp only
  rw [Client.acquire, refused]

/-- A server that accepts a login and says no more. -/
def departing : Server Bool where
  accept welcomed := (.ok 0, welcomed)
  react _ _ welcomed :=
    (if welcomed then { ends := true } else { sends := Connection.frame "941" }, true)

/-- The pool takes whatever it is given: a borrower whose call has failed may give its connection
back all the same, and it is idle then. -/
theorem idle_after_failed_call :
    let deeds := [.borrow, .dialed, .call 0 "98", .giveBack 0]
    let l := (begun {} false).run departing {} deeds
    l.pool.idle.map Line.calls =
        [[("9300CN|CO|CP|", .line "941"), ("98", .fault .closed)]] ∧
      ¬ ∀ line ∈ l.pool.idle, line.Completed := by
  refine ⟨?_, ?_⟩
  · decide +kernel
  · decide +kernel

end Lending

end SelfCheck.Sip
