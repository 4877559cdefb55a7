import SelfCheck.Settings.Load
import Mathlib.Tactic.Common

/-!
# What the environment overrides

Every variable sets one setting and leaves the others alone, so their order does not matter, except
for which of several bad ones is reported.

## Main definitions

* `Settings.Sound` — no variable has a value that makes no sense
* `Settings.merged` — each setting that has a variable, by its variable

## Main results

* `Settings.override_eq_iff` — the overrides of sound environments are the merged settings
* `Settings.merged_merged` — overriding twice is overriding once
* `Settings.load_eq_ok_iff` — which settings are loaded
-/

namespace SelfCheck.Settings

/-- No variable has a value that makes no sense. -/
structure Sound (environment : Environment) : Prop where
  port : ∀ value, environment "RFIDHUB_DEVICE_PORT" = some value → tcpPort? value ≠ none
  policy : ∀ value, environment "RFIDHUB_BACKEND_FAILURE_POLICY" = some value →
    (FailurePolicy.ofText value).toOption ≠ none

/-- Each setting that has a variable, by its variable if it is set. -/
def merged (environment : Environment) (s : Settings) : Settings where
  server := { bind := (environment "RFIDHUB_BIND").getD s.server.bind }
  device := { s.device with
    tcpPort := ((environment "RFIDHUB_DEVICE_PORT").bind tcpPort?).getD s.device.tcpPort }
  sip := { s.sip with
    addr := (environment "RFIDHUB_SIP_ADDR").getD s.sip.addr
    username := (environment "RFIDHUB_SIP_USER").getD s.sip.username
    password := (environment "RFIDHUB_SIP_PASSWORD").getD s.sip.password
    institution := (environment "RFIDHUB_SIP_INSTITUTION").getD s.sip.institution }
  ui := s.ui
  station := {
    failurePolicy := ((environment "RFIDHUB_BACKEND_FAILURE_POLICY").bind
      fun value => (FailurePolicy.ofText value).toOption).getD s.station.failurePolicy }

variable {environment : Environment} {s s' : Settings}

/-- Settings after one variable, which is not set or makes sense. -/
def Follows (environment : Environment) (v : Variable) (s s' : Settings) : Prop :=
  match environment v.name with
  | none => s' = s
  | some value => v.apply value s = .ok s'

theorem overrideBy_cons_iff {v : Variable} {vs : List Variable} :
    overrideBy environment (v :: vs) s = (s', none) ↔
      ∃ s₁, Follows environment v s s₁ ∧ overrideBy environment vs s₁ = (s', none) := by
  unfold Follows
  rw [overrideBy]
  cases environment v.name with
  | none => simp
  | some value =>
    dsimp only
    cases v.apply value s with
    | error shown => simp
    | ok s₁ => simp

theorem overrideBy_nil_iff : overrideBy environment [] s = (s', none) ↔ s' = s := by
  rw [overrideBy, Prod.mk.injEq]
  exact ⟨fun h => h.1.symm, fun h => ⟨h.symm, rfl⟩⟩

/-- A variable whose values all make sense. -/
theorem follows_text_iff {name : String} {set : String → Settings → Settings}
    {g : Settings → String} (same : ∀ s, set (g s) s = s) :
    Follows environment ⟨name, fun v s => .ok (set v s)⟩ s s' ↔
      s' = set ((environment name).getD (g s)) s := by
  unfold Follows
  dsimp only
  cases environment name with
  | none => rw [Option.getD_none, same]
  | some value =>
    dsimp only
    rw [Option.getD_some, Except.ok.injEq, eq_comm]

theorem follows_port_iff : Follows environment
      ⟨"RFIDHUB_DEVICE_PORT", fun v s => match tcpPort? v with
        | some tcpPort => .ok { s with device := { s.device with tcpPort } }
        | none => .error v⟩ s s' ↔
      (∀ value, environment "RFIDHUB_DEVICE_PORT" = some value → tcpPort? value ≠ none) ∧
      s' = { s with device := { s.device with
        tcpPort := ((environment "RFIDHUB_DEVICE_PORT").bind tcpPort?).getD s.device.tcpPort } } := by
  unfold Follows
  dsimp only
  cases environment "RFIDHUB_DEVICE_PORT" with
  | none => simp
  | some value =>
    cases port : tcpPort? value with
    | none => simp [port]
    | some p => simp [port, eq_comm]

theorem follows_policy_iff : Follows environment
      ⟨"RFIDHUB_BACKEND_FAILURE_POLICY", fun v s =>
        (FailurePolicy.ofText v).map fun p => { s with station := { failurePolicy := p } }⟩ s s' ↔
      (∀ value, environment "RFIDHUB_BACKEND_FAILURE_POLICY" = some value →
        (FailurePolicy.ofText value).toOption ≠ none) ∧
      s' = { s with station := {
        failurePolicy := ((environment "RFIDHUB_BACKEND_FAILURE_POLICY").bind
          fun value => (FailurePolicy.ofText value).toOption).getD s.station.failurePolicy } } := by
  unfold Follows
  dsimp only
  cases environment "RFIDHUB_BACKEND_FAILURE_POLICY" with
  | none => simp
  | some value =>
    cases policy : FailurePolicy.ofText value with
    | error shown => simp [policy, Except.map, Except.toOption]
    | ok p => simp [policy, Except.map, Except.toOption, eq_comm]

/-- The overrides of an environment are the merged settings, unless a value makes no sense. -/
theorem override_eq_iff :
    override environment s = (s', none) ↔ Sound environment ∧ s' = merged environment s := by
  rw [override, overrides]
  simp only [overrideBy_cons_iff, overrideBy_nil_iff]
  -- One step for each variable; each sets a setting of its own, so the steps do not meet.
  constructor
  · rintro ⟨s₁, bind, s₂, port, s₃, addr, s₄, user, s₅, password, s₆, institution, s₇, policy, rfl⟩
    obtain ⟨portSound, rfl⟩ := follows_port_iff.1 port
    obtain ⟨policySound, rfl⟩ := follows_policy_iff.1 policy
    have bind := (follows_text_iff (g := fun s => s.server.bind) fun _ => rfl).1 bind
    have addr := (follows_text_iff (g := fun s => s.sip.addr) fun _ => rfl).1 addr
    have user := (follows_text_iff (g := fun s => s.sip.username) fun _ => rfl).1 user
    have password := (follows_text_iff (g := fun s => s.sip.password) fun _ => rfl).1 password
    have institution :=
      (follows_text_iff (g := fun s => s.sip.institution) fun _ => rfl).1 institution
    subst bind addr user password institution
    exact ⟨⟨portSound, policySound⟩, rfl⟩
  · rintro ⟨⟨port, policy⟩, rfl⟩
    exact ⟨_, (follows_text_iff (g := fun s => s.server.bind) fun _ => rfl).2 rfl,
      _, follows_port_iff.2 ⟨port, rfl⟩,
      _, (follows_text_iff (g := fun s => s.sip.addr) fun _ => rfl).2 rfl,
      _, (follows_text_iff (g := fun s => s.sip.username) fun _ => rfl).2 rfl,
      _, (follows_text_iff (g := fun s => s.sip.password) fun _ => rfl).2 rfl,
      _, (follows_text_iff (g := fun s => s.sip.institution) fun _ => rfl).2 rfl,
      _, follows_policy_iff.2 ⟨policy, rfl⟩, rfl⟩

/-- Overriding twice is overriding once. -/
theorem merged_merged : merged environment (merged environment s) = merged environment s := by
  have again {α : Type} (o : Option α) (a : α) : o.getD (o.getD a) = o.getD a := by
    cases o <;> rfl
  simp only [merged, again]

/-! ### Loading -/

theorem overridden_eq_ok_iff : overridden environment s = .ok s' ↔
    Sound environment ∧ s' = merged environment s := by
  rw [← override_eq_iff, overridden]
  cases override environment s with
  | mk s₁ bad => cases bad <;> simp

theorem checked_eq_ok_iff : checked s = .ok s' ↔ s' = s ∧ s.defect? = none := by
  rw [checked]
  cases s.defect? with
  | none => simp [eq_comm]
  | some defect => simp

variable {source : Source}

theorem bind_eq_ok_iff {ε α β : Type} {x : Except ε α} {f : α → Except ε β} {b : β} :
    x >>= f = .ok b ↔ ∃ a, x = .ok a ∧ f a = .ok b := by
  cases x <;> simp [bind, Except.bind]

/-- Settings are loaded from a source if its values and those of the environment make sense, and
the two together are usable. -/
theorem load_eq_ok_iff : load source environment = .ok s' ↔ ∃ s, source.settings = .ok s ∧
    Sound environment ∧ s' = merged environment s ∧ s'.defect? = none := by
  simp only [load, bind_eq_ok_iff, overridden_eq_ok_iff, checked_eq_ok_iff]
  refine exists_congr fun s => and_congr_right fun _ => ⟨?_, ?_⟩
  · rintro ⟨_, ⟨sound, rfl⟩, rfl, usable⟩
    exact ⟨sound, rfl, usable⟩
  · rintro ⟨sound, rfl, usable⟩
    exact ⟨_, ⟨sound, rfl⟩, rfl, usable⟩

end SelfCheck.Settings
