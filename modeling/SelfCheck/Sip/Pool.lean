/-!
# The connection pool

Connections to the circulation server are kept for the next call. A borrower needs a permit, and
there are only so many; a connection that did not serve a call well is not given back. Once the
pool is closed it lends no more and keeps nothing that is given back.

## Main definitions

* `Sip.Pool` — permits and idle connections
* `Sip.Pool.borrow` — what a borrower gets
* `Sip.Pool.giveBack`, `Sip.Pool.forfeit` — the ends of a loan
* `Sip.Pool.warm`, `Sip.Pool.close` — the beginning and the end of the pool

## Main results

* `Sip.Pool.borrow_eq_reuse_iff`, `Sip.Pool.borrow_eq_dial_iff` — when a borrower gets what
-/

namespace SelfCheck.Sip

/-- A pool of connections of type `κ`. -/
structure Pool (κ : Type) where
  /-- Permits that nobody holds. -/
  free : Nat
  /-- Connections that nobody uses, the one used last in front. -/
  idle : List κ := []
  closed : Bool := false
deriving DecidableEq, Repr

namespace Pool

variable {κ : Type}

/-- A pool of a given size; there is always room for one connection. -/
def ofSize (size : Nat) : Pool κ := { free := max size 1 }

/-- What a borrower gets. -/
inductive Loan (κ : Type) where
  /-- Nothing: the pool is closed. -/
  | refused
  /-- Nothing yet: all permits are held. -/
  | wait
  /-- A permit, and a connection that was idle. -/
  | reuse (connection : κ) (pool : Pool κ)
  /-- A permit to open a connection. -/
  | dial (pool : Pool κ)

/-- Borrows a connection. -/
def borrow (p : Pool κ) : Loan κ :=
  if p.closed then .refused
  else match p.free, p.idle with
    | 0, _ => .wait
    | free + 1, [] => .dial { p with free }
    | free + 1, c :: idle => .reuse c { p with free, idle }

/-- Ends a loan without giving the connection back. -/
def forfeit (p : Pool κ) : Pool κ := { p with free := p.free + 1 }

/-- Adds an idle connection. -/
def warm (c : κ) (p : Pool κ) : Pool κ := { p with idle := c :: p.idle }

/-- Ends a loan and gives the connection back. -/
def giveBack (c : κ) (p : Pool κ) : Pool κ := if p.closed then p.forfeit else (p.warm c).forfeit

/-- Closes the pool. -/
def close (p : Pool κ) : Pool κ := { p with idle := [], closed := true }

variable {p q : Pool κ} {c : κ}

/-- A closed pool lends nothing, and no other refuses. -/
theorem borrow_eq_refused_iff : p.borrow = .refused ↔ p.closed = true := by
  unfold borrow
  split
  · next closed => exact iff_of_true rfl closed
  · next closed => split <;> simp [closed]

/-- A borrower gets the connection that was used last, and a permit. -/
theorem borrow_eq_reuse_iff : p.borrow = .reuse c q ↔
    p.closed = false ∧ p = { q with free := q.free + 1, idle := c :: q.idle } := by
  constructor
  · intro lends
    obtain ⟨free, idle, closed⟩ := p
    cases closed with
    | true => cases lends
    | false =>
      cases free with
      | zero => cases lends
      | succ free =>
        cases idle with
        | nil => cases lends
        | cons d idle =>
          cases lends
          exact ⟨rfl, rfl⟩
  · rintro ⟨unshut, was⟩
    rw [was] at unshut ⊢
    rw [borrow, if_neg (Bool.eq_false_iff.1 unshut)]

/-- A borrower opens a connection if there is a permit and none is idle. -/
theorem borrow_eq_dial_iff : p.borrow = .dial q ↔
    p.closed = false ∧ q.idle = [] ∧ p = { q with free := q.free + 1 } := by
  constructor
  · intro lends
    obtain ⟨free, idle, closed⟩ := p
    cases closed with
    | true => cases lends
    | false =>
      cases free with
      | zero => cases lends
      | succ free =>
        cases idle with
        | nil =>
          cases lends
          exact ⟨rfl, rfl, rfl⟩
        | cons d idle => cases lends
  · rintro ⟨unshut, none, was⟩
    rw [was] at unshut ⊢
    rw [borrow, if_neg (Bool.eq_false_iff.1 unshut)]
    simp only [none]
    rw [← none]

end Pool

end SelfCheck.Sip
