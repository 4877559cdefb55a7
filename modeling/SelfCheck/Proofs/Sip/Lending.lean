import SelfCheck.Proofs.Sip.OwnReplies
import Mathlib.Data.List.Basic
import Mathlib.Data.List.Induction
import Mathlib.Tactic.Common

/-!
# Lending connections

Several calls may be under way at the same time, each with a connection that it has borrowed or is
about to open. A permit goes with every loan and with every opening of a borrower, and none with an
idle connection. What keeps the number of connections within bounds is that one is opened only when
none is idle. A connection that is opened ahead of all calls has no permit either; it is opened
before the first loan.

## Main definitions

* `Sip.Line` — a connection with all calls that were made on it
* `Sip.Lending` — the pool, the loans and the openings under way
* `Sip.Lending.Deed`, `Sip.Lending.step` — what may happen, in any order
* `Sip.Lending.Prudent` — every connection that is given back has replied to every call on it

## Main results

* `Sip.Lending.move_step` — all that a step can do
* `Sip.Lending.Balanced.step` — no step gains or loses a permit, or opens one connection too many
* `Sip.Lending.closed_run_of_close` — once closed, always closed
-/

namespace SelfCheck.Sip

variable {σ : Type}

/-! ### Connections and their calls -/

/-- The reply that was waited for has come. -/
def Answer.isLine : Answer → Bool
  | line _ => true
  | _ => false

/-- The reply accepts a login. -/
def Answer.admits : Answer → Bool
  | line text => (loginAccepted text).toOption == some true
  | _ => false

/-- A connection with the calls that were made on it and what came of them, its login first. -/
structure Line where
  connection : Connection
  calls : List (String × Answer)
deriving DecidableEq, Repr

namespace Line

/-- The connection after a call, with what the call brought. -/
def call (server : Server σ) (request : String) (line : Line) (s : σ) : Answer × Line × σ :=
  let (answer, connection, s) := Connection.call server request line.connection s
  (answer, ⟨connection, line.calls ++ [(request, answer)]⟩, s)

/-- Opens a connection and logs in, if the server lets it. -/
def dial (server : Server σ) (settings : Settings.Sip) (s : σ) : Option Line × σ :=
  match server.accept s with
  | (.error _, s) => (none, s)
  | (.ok number, s) =>
    let (answer, line, s) := call server (Request.ofSettings settings).text ⟨{ number }, []⟩ s
    (if answer.admits then some line else none, s)

/-- Every call has brought a reply. -/
def Completed (line : Line) : Prop := ∀ c ∈ line.calls, c.2.isLine = true

instance (line : Line) : Decidable line.Completed :=
  inferInstanceAs (Decidable (∀ c ∈ line.calls, c.2.isLine = true))

/-- The first call was a login, and the server has accepted it. -/
def LoggedIn (settings : Settings.Sip) (line : Line) : Prop :=
  ∃ answer, line.calls.head? = some ((Request.ofSettings settings).text, answer) ∧
    answer.admits = true

end Line

theorem Answer.isLine_of_admits {a : Answer} (h : a.admits = true) : a.isLine = true := by
  cases a with
  | line text => rfl
  | fault f => cases h
  | silence => cases h

section

variable {server : Server σ} {settings : Settings.Sip} {line : Line} {request : String} {s : σ}

theorem Line.calls_call : (line.call server request s).2.1.calls =
    line.calls ++ [(request, (line.call server request s).1)] :=
  rfl

/-- A call brings its connection a reply or not, and takes back none that it had. -/
theorem Line.Completed.call (completed : line.Completed)
    (replied : (line.call server request s).1.isLine = true) :
    (line.call server request s).2.1.Completed := by
  rw [Completed, calls_call]
  exact List.forall_mem_append.2 ⟨completed, List.forall_mem_singleton.2 replied⟩

theorem Line.LoggedIn.call (login : line.LoggedIn settings) :
    (line.call server request s).2.1.LoggedIn settings := by
  obtain ⟨answer, first, admitted⟩ := login
  refine ⟨answer, ?_, admitted⟩
  rw [calls_call, List.head?_append, first]
  rfl

/-- A connection that has been opened has logged in. -/
theorem Line.loggedIn_of_dial {s' : σ} (opened : dial server settings s = (some line, s')) :
    line.LoggedIn settings ∧ line.Completed := by
  rw [dial] at opened
  cases accepted : server.accept s with
  | mk result after =>
    rw [accepted] at opened
    cases result with
    | error reason => exact nomatch (Prod.mk.inj opened).1
    | ok number =>
      have calls := @calls_call _ server ⟨{ number }, []⟩ (Request.ofSettings settings).text after
      dsimp only at opened
      generalize call server (Request.ofSettings settings).text ⟨{ number }, []⟩ after = called
        at opened calls
      split_ifs at opened with admitted
      · -- The login is the only call so far, and it was accepted.
        cases opened
        refine ⟨⟨_, by rw [calls]; rfl, admitted⟩, ?_⟩
        rw [Completed, calls]
        exact List.forall_mem_singleton.2 (Answer.isLine_of_admits admitted)
      · cases opened

end

/-! ### The pool and its borrowers -/

/-- Whether a connection is opened ahead of all borrowers. -/
inductive Lending.Warming where
  /-- It may still be. -/
  | due
  /-- It is being opened. -/
  | running
  /-- It has been opened, or there was no time for it. -/
  | past
deriving DecidableEq, Repr

/-- How many connections are being opened ahead. -/
def Lending.Warming.count : Lending.Warming → Nat
  | running => 1
  | _ => 0

/-- A pool with what is borrowed from it and what is being opened for it. -/
structure Lending (σ : Type) where
  pool : Pool Line
  warming : Lending.Warming := .due
  /-- The connections that are borrowed. -/
  lent : List Line := []
  /-- How many borrowers wait for a connection to be opened. -/
  dials : Nat := 0
  server : σ

namespace Lending

/-- What may happen to a pool. Borrowed connections are told apart by their place. -/
inductive Deed (σ : Type) where
  /-- The opening of a connection ahead of all borrowers begins. -/
  | warm
  /-- It comes to its end, or to its time limit. -/
  | warmed
  | unwarmed
  /-- Somebody borrows a connection. -/
  | borrow
  /-- The opening of a connection for a borrower comes to its end, or to its time limit. -/
  | dialed
  | undialed
  /-- A borrower makes a call, whatever comes of it. -/
  | call (n : Nat) (request : String)
  /-- A call of the client: its connection is given back if it brings a reply, and dropped if not. -/
  | serve (n : Nat) (request : String)
  /-- A borrower gives its connection back, or drops it. -/
  | giveBack (n : Nat)
  | forfeit (n : Nat)
  /-- The pool is closed. -/
  | close
  /-- The server is in some other state, by itself or by what was cut short. -/
  | meanwhile (s : σ)

variable (server : Server σ) (settings : Settings.Sip) (l : Lending σ)

/-- A pool that nobody has used. -/
def begun (s : σ) : Lending σ := { pool := .ofSize settings.poolSize, server := s }

/-- Somebody borrows a connection, or waits until it can be had. -/
def borrow : Lending σ :=
  match l.pool.borrow with
  | .refused => l
  | .wait => l
  | .reuse line pool => { l with pool, lent := l.lent ++ [line] }
  | .dial pool => { l with pool, dials := l.dials + 1 }

/-- The connection that somebody gives back, if there is one. -/
def returned? : Deed σ → Option Line
  | .giveBack n => l.lent[n]?
  | .serve n request => l.lent[n]?.bind fun line =>
    let (answer, line, _) := line.call server request l.server
    if answer.isLine then some line else none
  | _ => none

/-- A loan ends, and a connection may be given back. -/
def settle (n : Nat) (returned : Option Line) : Lending σ :=
  { l with
    lent := l.lent.eraseIdx n
    pool := match returned with
      | some line => l.pool.giveBack line
      | none => l.pool.forfeit }

/-- What happens, if it may. While a connection is opened ahead, nobody borrows and the pool is not
closed; after either, none is opened ahead. -/
def step (d : Deed σ) : Lending σ :=
  match d with
  | .warm => if l.warming = .due then { l with warming := .running } else l
  | .warmed =>
    if l.warming = .running then
      let (line, s) := Line.dial server settings l.server
      { l with
        warming := .past
        server := s
        pool := match line with
          | some line => l.pool.warm line
          | none => l.pool }
    else l
  | .unwarmed => if l.warming = .running then { l with warming := .past } else l
  | .borrow => if l.warming = .running then l else { l with warming := .past }.borrow
  | .dialed =>
    match l.dials with
    | 0 => l
    | dials + 1 =>
      match Line.dial server settings l.server with
      | (some line, s) => { l with dials, server := s, lent := l.lent ++ [line] }
      | (none, s) => { l with dials, server := s, pool := l.pool.forfeit }
  | .undialed =>
    match l.dials with
    | 0 => l
    | dials + 1 => { l with dials, pool := l.pool.forfeit }
  | .call n request =>
    match l.lent[n]? with
    | none => l
    | some line =>
      let (_, line, s) := line.call server request l.server
      { l with lent := l.lent.set n line, server := s }
  | .serve n request =>
    match l.lent[n]? with
    | none => l
    | some line =>
      { l.settle n (l.returned? server (.serve n request)) with
        server := (line.call server request l.server).2.2 }
  | .giveBack n =>
    match l.lent[n]? with
    | none => l
    | some line => l.settle n (some line)
  | .forfeit n => if n < l.lent.length then l.settle n none else l
  | .close => if l.warming = .running then l else { l with pool := l.pool.close, warming := .past }
  | .meanwhile s => { l with server := s }

/-- What comes of a sequence of deeds. -/
def run (deeds : List (Deed σ)) : Lending σ := deeds.foldl (step server settings) l

/-- The openings under way, for a borrower or ahead of all. -/
def running : Nat := l.dials + l.warming.count

/-- Every connection that is given back has replied to every call that was made on it. -/
def Prudent (deeds : List (Deed σ)) : Prop :=
  ∀ before deed later, deeds = before ++ deed :: later →
    ∀ line, (l.run server settings before).returned? server deed = some line → line.Completed

/-- What a deed makes of a pool, with what it takes for that. -/
inductive Move : Deed σ → Lending σ → Prop where
  /-- It may not be done, or changes nothing. -/
  | stay (d : Deed σ) : Move d l
  | meanwhile (s : σ) : Move (.meanwhile s) { l with server := s }
  | warm (due : l.warming = .due) : Move .warm { l with warming := .running }
  | warmed (running : l.warming = .running) (line : Line) (s : σ)
      (opened : Line.dial server settings l.server = (some line, s)) :
      Move .warmed { l with warming := .past, server := s, pool := l.pool.warm line }
  | unwarmed (running : l.warming = .running) (d : Deed σ) (s : σ) :
      Move d { l with warming := .past, server := s }
  /-- No connection can be had. -/
  | wait (ready : l.warming ≠ .running) : Move .borrow { l with warming := .past }
  | reuse (ready : l.warming ≠ .running) (line : Line) (pool : Pool Line)
      (lends : l.pool.borrow = .reuse line pool) :
      Move .borrow { l with pool, warming := .past, lent := l.lent ++ [line] }
  | dial (ready : l.warming ≠ .running) (pool : Pool Line) (lends : l.pool.borrow = .dial pool) :
      Move .borrow { l with pool, warming := .past, dials := l.dials + 1 }
  | dialed (dials : Nat) (awaited : l.dials = dials + 1) (line : Line) (s : σ)
      (opened : Line.dial server settings l.server = (some line, s)) :
      Move .dialed { l with dials, server := s, lent := l.lent ++ [line] }
  | undialed (dials : Nat) (awaited : l.dials = dials + 1) (d : Deed σ) (s : σ) :
      Move d { l with dials, server := s, pool := l.pool.forfeit }
  | call (n : Nat) (request : String) (line : Line) (lent : l.lent[n]? = some line) :
      Move (.call n request) { l with
        lent := l.lent.set n (line.call server request l.server).2.1
        server := (line.call server request l.server).2.2 }
  | settle (d : Deed σ) (n : Nat) (lent : n < l.lent.length) (s : σ) :
      Move d { l.settle n (l.returned? server d) with server := s }
  | close (ready : l.warming ≠ .running) :
      Move .close { l with pool := l.pool.close, warming := .past }

variable {server : Server σ} {settings : Settings.Sip} {l l' : Lending σ} {d : Deed σ} {size : Nat}

theorem move_step (d : Deed σ) : Move server settings l d (l.step server settings d) := by
  -- A deed whose time has not come changes nothing.
  cases d with
  | warm =>
    rw [step]
    split
    · next due => exact .warm due
    · exact .stay _
  | warmed =>
    rw [step]
    split
    · next running =>
      cases opened : Line.dial server settings l.server with
      | mk line s =>
        cases line with
        | none => exact .unwarmed running _ s
        | some line => exact .warmed running line s opened
    · exact .stay _
  | unwarmed =>
    rw [step]
    split
    · next running => exact .unwarmed running _ _
    · exact .stay _
  | borrow =>
    rw [step]
    split
    · exact .stay _
    · next ready =>
      rw [borrow]
      split
      · exact .wait ready
      · exact .wait ready
      · next line pool lends => exact .reuse ready line pool lends
      · next pool lends => exact .dial ready pool lends
  | dialed =>
    rw [step]
    split
    · exact .stay _
    · next awaited =>
      split
      · next line s opened => exact .dialed _ awaited line s opened
      · next s _ => exact .undialed _ awaited _ s
  | undialed =>
    rw [step]
    split
    · exact .stay _
    · next awaited => exact .undialed _ awaited _ _
  | call n request =>
    rw [step]
    split
    · exact .stay _
    · next line lent => exact .call n request line lent
  | serve n request =>
    rw [step]
    split
    · exact .stay _
    · next line lent => exact .settle _ n (List.getElem?_eq_some_iff.1 lent).1 _
  | giveBack n =>
    rw [step]
    split
    · exact .stay _
    · next line lent =>
      rw [← lent]
      exact .settle (.giveBack n) n (List.getElem?_eq_some_iff.1 lent).1 l.server
  | forfeit n =>
    rw [step]
    split
    · next lent => exact .settle (.forfeit n) n lent l.server
    · exact .stay _
  | close =>
    rw [step]
    split
    · exact .stay _
    · next ready => exact .close ready
  | meanwhile s => exact .meanwhile s

theorem run_concat (l : Lending σ) (deeds : List (Deed σ)) (d : Deed σ) :
    l.run server settings (deeds ++ [d]) =
      (l.run server settings deeds).step server settings d := by
  rw [run, List.foldl_append]
  rfl

theorem run_append (l : Lending σ) (deeds more : List (Deed σ)) :
    l.run server settings (deeds ++ more) =
      (l.run server settings deeds).run server settings more := by
  rw [run, List.foldl_append]
  rfl

/-- What every step keeps, a run keeps. -/
theorem run_invariant {P : Lending σ → Prop} (h : P l)
    (step : ∀ l d l', P l → Move server settings l d l' → P l') (deeds : List (Deed σ)) :
    P (l.run server settings deeds) := by
  induction deeds using List.reverseRecOn with
  | nil => exact h
  | append_singleton deeds d ih =>
    rw [run_concat]
    exact step _ d _ ih (move_step d)

/-! ### Permits and connections -/

/-- A permit goes with every loan and every opening for a borrower, and there are never more
connections than permits. -/
structure Balanced (size : Nat) (l : Lending σ) : Prop where
  permits : l.pool.free + l.lent.length + l.dials = size
  bound : l.pool.idle.length + l.lent.length + l.running ≤ size
  /-- Nothing is borrowed until the time for opening a connection ahead is past. -/
  untouched : l.warming ≠ .past → l.pool.idle = [] ∧ l.lent = [] ∧ l.dials = 0
  closed : l.pool.closed = true → l.warming = .past ∧ l.pool.idle = []

theorem balanced_begun (settings : Settings.Sip) (s : σ) :
    Balanced (max settings.poolSize 1) (begun settings s) where
  permits := rfl
  bound := Nat.zero_le _
  untouched _ := ⟨rfl, rfl, rfl⟩
  closed shut := nomatch shut

theorem Warming.count_of_ne {w : Warming} (h : w ≠ .running) : w.count = 0 := by
  cases w <;> simp_all [count]

/-- Whoever has borrowed a connection or waits for one has come after the opening ahead. -/
theorem Balanced.past (h : Balanced size l) (used : 0 < l.lent.length + l.dials) :
    l.warming = .past := by
  by_contra before
  obtain ⟨-, lent, dials⟩ := h.untouched before
  simp [lent, dials] at used

/-- A loan that ends sets its permit free, and its connection is idle or gone. -/
theorem Balanced.settle (h : Balanced size l) {n : Nat} (lent : n < l.lent.length)
    (returned : Option Line) (s : σ) :
    Balanced size { l.settle n returned with server := s } := by
  have past := h.past (by omega)
  have fewer := List.length_eraseIdx_of_lt lent
  have permits := h.permits
  have bound := h.bound
  -- The permit is free again in any case.
  have gone : Balanced size
      { l with lent := l.lent.eraseIdx n, pool := l.pool.forfeit, server := s } := by
    refine ⟨?_, ?_, fun before => absurd past before, h.closed⟩
    · simp only [Pool.forfeit]
      omega
    · simp only [running, Pool.forfeit] at bound ⊢
      omega
  cases returned with
  | none => exact gone
  | some line =>
    dsimp only [Lending.settle]
    rw [Pool.giveBack]
    split
    · -- A closed pool drops what it is given.
      exact gone
    · next unshut =>
      refine ⟨?_, ?_, fun before => absurd past before, fun shut => absurd shut unshut⟩
      · simp only [Pool.forfeit, Pool.warm]
        omega
      · simp only [running, Pool.forfeit, Pool.warm, List.length_cons] at bound ⊢
        omega

/-- A borrower takes an idle connection and a permit. -/
theorem Balanced.reuse (h : Balanced size l) (ready : l.warming ≠ .running) {line : Line}
    {pool : Pool Line} (lends : l.pool.borrow = .reuse line pool) :
    Balanced size { l with pool, warming := .past, lent := l.lent ++ [line] } := by
  obtain ⟨unshut, was⟩ := Pool.borrow_eq_reuse_iff.1 lends
  have permits := h.permits
  have bound := h.bound
  -- One idle connection less is one loan more, and the loan has the permit of a free one.
  rw [was] at permits bound unshut
  simp only [running, Warming.count_of_ne ready, List.length_cons] at permits bound
  refine ⟨?_, ?_, fun before => absurd rfl before, fun shut => ?_⟩
  · simp only [List.length_append, List.length_singleton]
    omega
  · simp only [running, Warming.count, List.length_append, List.length_singleton]
    omega
  · cases unshut.symm.trans shut

/-- A borrower has a connection opened only if none is idle, so loans and openings are all there is,
and each of them has a permit. -/
theorem Balanced.dial (h : Balanced size l) {pool : Pool Line}
    (lends : l.pool.borrow = .dial pool) :
    Balanced size { l with pool, warming := .past, dials := l.dials + 1 } := by
  obtain ⟨-, idle, was⟩ := Pool.borrow_eq_dial_iff.1 lends
  have permits := h.permits
  rw [was] at permits
  simp only at permits
  refine ⟨?_, ?_, fun before => absurd rfl before, fun _ => ⟨rfl, idle⟩⟩
  · simp only
    omega
  · simp only [running, Warming.count, idle, List.length_nil]
    omega

/-- No step gains or loses a permit, or opens one connection too many. -/
theorem Balanced.step (room : 0 < size) (h : Balanced size l) (move : Move server settings l d l') :
    Balanced size l' := by
  have permits := h.permits
  have bound := h.bound
  simp only [running] at bound
  cases move with
  | stay => exact h
  | meanwhile s => exact ⟨permits, bound, h.untouched, h.closed⟩
  | warm due =>
    -- Nothing is idle or borrowed yet, so there is room for one.
    obtain ⟨idle, lent, dials⟩ := h.untouched (by simp [due])
    refine ⟨permits, ?_, fun _ => ⟨idle, lent, dials⟩, fun shut => ?_⟩
    · simp only [running, Warming.count, idle, lent, dials, List.length_nil]
      omega
    · cases due.symm.trans (h.closed shut).1
  | warmed running line s opened =>
    simp only [running, Warming.count] at bound
    refine ⟨permits, ?_, fun before => absurd rfl before, fun shut => ?_⟩
    · simp only [Lending.running, Warming.count, Pool.warm, List.length_cons]
      omega
    · cases running.symm.trans (h.closed shut).1
  | unwarmed running d s =>
    refine ⟨permits, ?_, fun before => absurd rfl before, fun shut => ⟨rfl, (h.closed shut).2⟩⟩
    simp only [Lending.running, Warming.count]
    omega
  | wait ready =>
    refine ⟨permits, ?_, fun before => absurd rfl before, fun shut => ⟨rfl, (h.closed shut).2⟩⟩
    simp only [running, Warming.count]
    omega
  | reuse ready line pool lends => exact h.reuse ready lends
  | dial ready pool lends => exact h.dial lends
  | dialed dials awaited line s opened =>
    have past := h.past (by omega)
    refine ⟨?_, ?_, fun before => absurd past before, h.closed⟩
    · simp only [List.length_append, List.length_singleton]
      omega
    · simp only [running, List.length_append, List.length_singleton]
      omega
  | undialed dials awaited d s =>
    have past := h.past (by omega)
    refine ⟨?_, ?_, fun before => absurd past before, h.closed⟩
    · simp only [Pool.forfeit]
      omega
    · simp only [running, Pool.forfeit]
      omega
  | call n request line lent =>
    have some_ : n < l.lent.length := (List.getElem?_eq_some_iff.1 lent).1
    have past := h.past (by omega)
    refine ⟨?_, ?_, fun before => absurd past before, h.closed⟩
    · simpa using permits
    · simpa [running] using bound
  | settle d n lent s => exact h.settle lent _ s
  | close ready =>
    refine ⟨permits, ?_, fun before => absurd rfl before, fun _ => ⟨rfl, rfl⟩⟩
    simp only [running, Warming.count, Pool.close, List.length_nil]
    omega

theorem Balanced.run (server : Server σ) (settings : Settings.Sip) (s : σ)
    (deeds : List (Deed σ)) :
    Balanced (max settings.poolSize 1) ((begun settings s).run server settings deeds) :=
  have room : 0 < max settings.poolSize 1 := Nat.lt_of_lt_of_le Nat.one_pos (Nat.le_max_right _ _)
  run_invariant (balanced_begun settings s) (fun _ _ _ h move => h.step room move) deeds

/-! ### The end of the pool -/

/-- A closed pool stays closed. -/
theorem closed_step (move : Move server settings l d l') (h : l.pool.closed = true) :
    l'.pool.closed = true := by
  have refused := Pool.borrow_eq_refused_iff.2 h
  cases move with
  | reuse ready line pool lends => cases refused.symm.trans lends
  | dial ready pool lends => cases refused.symm.trans lends
  | settle d n lent s =>
    dsimp only [Lending.settle]
    split <;> simp [Pool.giveBack, Pool.forfeit, h]
  | close ready => rfl
  | _ => exact h

/-- Once it was closed, the pool is closed. -/
theorem closed_run_of_close {before later : List (Deed σ)}
    (ready : (l.run server settings before).warming ≠ .running) :
    (l.run server settings (before ++ .close :: later)).pool.closed = true := by
  rw [run_append]
  refine run_invariant (P := fun l => l.pool.closed = true) ?_
    (fun _ _ _ closed move => closed_step move closed) later
  rw [step, if_neg ready]
  rfl

end Lending

end SelfCheck.Sip
