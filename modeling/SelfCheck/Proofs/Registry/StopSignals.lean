import SelfCheck.Proofs.Registry.History

/-!
# Who was told to stop

A connection is told to stop by the next registration of its address, or with all others when the
hub shuts down, and only while it is the current one of its address. So whoever was neither told to
stop nor removed by its own clean-up is the current connection of its address, and no address has
two of them.

## Main definitions

* `Registry.Deed.Stops` — the deed tells the current connection of an address to stop
* `Registry.WhileCurrent` — something was done while a registration was the current one
* `Registry.Active` — a registration that was neither told to stop nor removed

## Main results

* `Registry.isStopped_run_concat` — what a deed adds to those that were told to stop
* `Registry.isStopped_run` — who was told to stop
* `Registry.stopped_while_current` — the same for a whole history, and that an address has at most
  one active registration
-/

namespace SelfCheck

namespace Registry

/-- The deed tells the current connection of an address to stop. -/
def Deed.Stops (address : String) (deed : Deed) : Prop :=
  deed = .register address ∨ deed = .stopAll

/-- After the registration of an address behind `before`, and while it was the current one, a deed
of some kind was done. -/
def WhileCurrent (before : List Deed) (address : String) (later : List Deed)
    (kind : Deed → Prop) : Prop :=
  ∃ between deed rest, later = between ++ deed :: rest ∧
    Current (before ++ .register address :: between) address (registrations before) ∧ kind deed

/-- A registration that was neither told to stop nor removed by its own clean-up. -/
structure Active (history before : List Deed) (address : String) (later : List Deed) : Prop where
  registered : history = before ++ .register address :: later
  unstopped : (run history).isStopped (registrations before) = false
  unremoved : ¬ WhileCurrent before address later (· = .unregister address (registrations before))

variable {history before later before' later' : List Deed} {deed : Deed}
  {address other : String} {connection : Nat}

/-! ### Numbers of connections -/

/-- A history that goes on behind another and has as many registrations registers no more. -/
theorem eq_nil_of_registrations_append {more : List Deed}
    (number : registrations before = registrations (before ++ more))
    (rest : .register address :: later = more ++ .register other :: later') :
    more = [] ∧ address = other := by
  cases more with
  | nil => exact ⟨rfl, Deed.register.inj (List.head_eq_of_cons_eq rest)⟩
  | cons deed more =>
    obtain rfl := List.head_eq_of_cons_eq rest
    simp [registrations, Deed.registers] at number

/-- The number of a registration tells which one it is. -/
theorem registration_unique (number : registrations before = registrations before')
    (h : before ++ .register address :: later = before' ++ .register other :: later') :
    before = before' ∧ address = other := by
  -- One of the two beginnings goes on behind the other.
  rcases List.append_eq_append_iff.1 h with ⟨more, rfl, rest⟩ | ⟨more, rfl, rest⟩
  · obtain ⟨rfl, same⟩ := eq_nil_of_registrations_append number rest
    exact ⟨(List.append_nil _).symm, same⟩
  · obtain ⟨rfl, same⟩ := eq_nil_of_registrations_append number.symm rest
    exact ⟨List.append_nil _, same.symm⟩

theorem Current.lt (current : Current history address connection) :
    connection < registrations history := by
  obtain ⟨before, later, rfl, rfl, -, -⟩ := current
  simp [registrations, Deed.registers]

/-- A registration is current for its own address only. -/
theorem Current.address_eq (h : history = before ++ .register address :: later)
    (current : Current history other (registrations before)) : other = address := by
  obtain ⟨before', later', split, number, -, -⟩ := current
  exact (registration_unique number.symm (split.symm.trans h)).2

/-- An address has one current connection. -/
theorem Current.unique {connection' : Nat} (current : Current history address connection)
    (current' : Current history address connection') : connection = connection' :=
  Option.some.inj ((connection?_run.2 current).symm.trans (connection?_run.2 current'))

/-! ### Who is told to stop -/

/-- A deed tells those to stop that are current for an address for which it does so. -/
theorem isStopped_run_concat :
    (run (history ++ [deed])).isStopped connection = true ↔
      (run history).isStopped connection = true ∨
        ∃ address, Current history address connection ∧ deed.Stops address := by
  simp only [run_concat, isStopped, ← connection?_run, Deed.Stops]
  cases deed with
  | register address => simp [after, register, and_comm]
  | unregister address number =>
    rw [after, unregister]
    split <;> simp
  | stopAll =>
    have listed (address : String) : (run history).connection? address = some connection ↔
        (address, connection) ∈ (run history).stations := (ordered_run history).mem_iff.symm
    simp [after, stopAll, listed]

theorem lt_of_isStopped_run (stopped : (run history).isStopped connection = true) :
    connection < registrations history := by
  induction history using List.reverseRecOn with
  | nil => cases stopped
  | append_singleton history deed ih =>
    rw [registrations_concat]
    rcases isStopped_run_concat.1 stopped with stopped | ⟨_, current, -⟩
    · exact Nat.lt_add_right _ (ih stopped)
    · exact Nat.lt_add_right _ current.lt

/-- Whoever was told to stop stays told. -/
theorem isStopped_run_append (more : List Deed)
    (stopped : (run history).isStopped connection = true) :
    (run (history ++ more)).isStopped connection = true := by
  induction more using List.reverseRecOn with
  | nil => rwa [List.append_nil]
  | append_singleton more deed ih =>
    rw [← List.append_assoc]
    exact isStopped_run_concat.2 (.inl ih)

theorem whileCurrent_concat {kind : Deed → Prop} :
    WhileCurrent before address (later ++ [deed]) kind ↔
      WhileCurrent before address later kind ∨
        Current (before ++ .register address :: later) address (registrations before) ∧
          kind deed := by
  constructor
  · rintro ⟨between, done, rest, split, current, of⟩
    rcases concat_eq_append_cons split with ⟨rfl, rfl, rfl⟩ | ⟨rest, rfl, earlier⟩
    · exact .inr ⟨current, of⟩
    · exact .inl ⟨between, done, rest, earlier, current, of⟩
  · rintro (⟨between, done, rest, rfl, current, of⟩ | ⟨current, of⟩)
    · exact ⟨between, done, rest ++ [deed], by simp, current, of⟩
    · exact ⟨later, deed, [], rfl, current, of⟩

/-- A connection was told to stop just if, while it was current, its address was registered again
or all were told to stop. -/
theorem isStopped_run (before : List Deed) (address : String) (later : List Deed) :
    (run (before ++ .register address :: later)).isStopped (registrations before) = true ↔
      WhileCurrent before address later (Deed.Stops address) := by
  induction later using List.reverseRecOn with
  | nil =>
    refine iff_of_false (fun stopped => ?_) ?_
    · -- Nobody has a number yet that is given only now.
      rcases isStopped_run_concat.1 stopped with stopped | ⟨_, current, -⟩
      · exact (lt_of_isStopped_run stopped).ne rfl
      · exact current.lt.ne rfl
    · rintro ⟨between, deed, rest, split, -⟩
      exact List.append_ne_nil_of_right_ne_nil between (List.cons_ne_nil deed rest) split.symm
  | append_singleton later deed ih =>
    rw [← List.cons_append, ← List.append_assoc, isStopped_run_concat, ih, whileCurrent_concat]
    refine or_congr_right ⟨?_, fun ⟨current, stops⟩ => ⟨address, current, stops⟩⟩
    rintro ⟨other, current, stops⟩
    -- A connection has one address.
    obtain rfl := current.address_eq rfl
    exact ⟨current, stops⟩

/-- A registration stays current unless it is told to stop or removed. -/
theorem current_of_unmet (before : List Deed) (address : String) (later : List Deed)
    (unstopped : ¬ WhileCurrent before address later (Deed.Stops address))
    (unremoved :
      ¬ WhileCurrent before address later (· = .unregister address (registrations before))) :
    Current (before ++ .register address :: later) address (registrations before) := by
  induction later using List.reverseRecOn with
  | nil => exact ⟨before, [], rfl, rfl, List.not_mem_nil, List.not_mem_nil⟩
  | append_singleton later deed ih =>
    rw [whileCurrent_concat, not_or] at unstopped unremoved
    have current := ih unstopped.1 unremoved.1
    rw [← List.cons_append, ← List.append_assoc]
    exact current_concat.2 (.inr ⟨current, fun again => unstopped.2 ⟨current, .inl again⟩,
      fun own => unremoved.2 ⟨current, own⟩⟩)

theorem Active.current (active : Active history before address later) :
    Current history address (registrations before) := by
  obtain ⟨rfl, unstopped, unremoved⟩ := active
  refine current_of_unmet before address later (fun stops => ?_) unremoved
  rw [(isStopped_run before address later).2 stops] at unstopped
  cases unstopped

/-- A connection was told to stop just if, while it was the current one of its address, the address
was registered again or all were told to stop, and that is never taken back. So an address has at
most one registration that was neither told to stop nor removed by its own clean-up, and the
registry knows the address by it. -/
theorem stopped_while_current (history : List Deed) :
    (∀ before address later, history = before ++ .register address :: later →
      ((run history).isStopped (registrations before) = true ↔
        WhileCurrent before address later (Deed.Stops address))) ∧
    (∀ connection more, (run history).isStopped connection = true →
      (run (history ++ more)).isStopped connection = true) ∧
    (∀ address before later before' later', Active history before address later →
      Active history before' address later' → before = before' ∧ later = later') ∧
    ∀ address before later, Active history before address later →
      (run history).connection? address = some (registrations before) := by
  refine ⟨?_, fun connection more => isStopped_run_append more, ?_, ?_⟩
  · rintro before address later rfl
    exact isStopped_run before address later
  · intro address before later before' later' active active'
    have split := active.registered.symm.trans active'.registered
    obtain ⟨rfl, -⟩ := registration_unique (active.current.unique active'.current) split
    exact ⟨rfl, List.tail_eq_of_cons_eq (List.append_cancel_left split)⟩
  · intro address before later active
    exact connection?_run.2 active.current

end Registry

end SelfCheck
