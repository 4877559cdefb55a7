import SelfCheck.Proofs.Settings.Overrides
import SelfCheck.Proofs.Toml.Range
import Mathlib.Tactic.Common

/-!
# Loaded settings can be written

A whole number of the settings may have 64 bits and no sign, which is more than a document can hold.
But such numbers come from a document, or they are defaults; the environment sets none of them except
a port, which is small.

## Main results

* `Settings.isWritable_iff` — which settings a document can hold
* `Settings.isWritable_load` — it can hold all settings that have been loaded
-/

namespace SelfCheck.Settings

open Toml (Fits AllFit)

/-- A whole number that a document can hold. -/
abbrev Writable (n : Nat) : Prop := n < Nat.pow 2 63

/-- A document can hold the settings of the tag readers. -/
def Device.IsWritable (d : Device) : Prop :=
  Writable d.connectTimeout ∧ Writable d.handshakeTimeout

/-- A document can hold the settings of the circulation server. -/
def Sip.IsWritable (d : Sip) : Prop := Writable d.poolSize ∧ Writable d.callTimeout

/-- A document can hold the settings of the screens. -/
def Screen.IsWritable (d : Screen) : Prop :=
  Writable d.writeTimeout ∧ Writable d.pongWait ∧ Writable d.maxMessageSize

/-- The other groups have no numbers that a document could not hold. -/
theorem isWritable_iff {s : Settings} :
    s.isWritable = true ↔ s.device.IsWritable ∧ s.sip.IsWritable ∧ s.ui.IsWritable := by
  have port : Writable s.device.tcpPort.toNat :=
    Nat.lt_trans s.device.tcpPort.toNat_lt (by decide)
  simp only [isWritable, groups, Value.isWritable, List.all_cons, List.all_nil,
    Bool.and_eq_true, decide_eq_true_eq, Device.IsWritable, Sip.IsWritable, Screen.IsWritable]
  tauto

/-! ### What a document holds -/

section

variable {t : Toml}

/-- The fields of a record fit if it does. -/
theorem fits_fields? {names : List String} (fit : Fits t) {fields : List (Option Toml)}
    (h : t.fields? names = some fields) : ∀ o ∈ fields, ∀ x, o = some x → Fits x := by
  rintro o mem x rfl
  cases fit with
  | table origin entries fit =>
    cases h
    obtain ⟨name, -, found⟩ := List.mem_map.1 mem
    exact AllFit.valueOf? fit found
  | array elements fit =>
    cases h
    obtain ⟨i, -, found⟩ := List.mem_map.1 mem
    exact fit x (List.mem_of_getElem? found)
  | tables elements fit =>
    cases h
    obtain ⟨i, -, found⟩ := List.mem_map.1 mem
    obtain ⟨entries, element, rfl⟩ := Option.map_eq_some_iff.1 found
    exact .table _ _ (fit entries (List.mem_of_getElem? element))
  | moment =>
    cases h
    obtain ⟨name, -, found⟩ := List.mem_map.1 mem
    cases found
  | _ => cases h

theorem writable_natural? {default n : Nat} {o : Option Toml} (h : natural? default o = some n)
    (fit : ∀ x, o = some x → Fits x) (small : Writable default) : Writable n := by
  cases o with
  | none =>
    cases h
    exact small
  | some x =>
    cases fit x rfl with
    | integer m least most =>
      simp only [natural?, value?, Toml.natural?] at h
      split_ifs at h
      -- The reader's own bound is wider than what a document can hold, so `fit` is what counts.
      cases h
      simp only [Writable]
      omega
    | _ => cases h

theorem Device.isWritable_ofToml? {d : Device} (h : Device.ofToml? t = some d) (fit : Fits t) :
    d.IsWritable := by
  unfold Device.ofToml? at h
  split at h
  · next port connect handshake fields =>
    have fits := fits_fields? fit fields
    obtain ⟨_, -, h⟩ := Option.bind_eq_some_iff.1 h
    obtain ⟨_, connected, h⟩ := Option.bind_eq_some_iff.1 h
    obtain ⟨_, shaken, h⟩ := Option.bind_eq_some_iff.1 h
    cases h
    exact ⟨writable_natural? connected (fits connect (by simp)) (by decide),
      writable_natural? shaken (fits handshake (by simp)) (by decide)⟩
  · cases h

theorem Sip.isWritable_ofToml? {d : Sip} (h : Sip.ofToml? t = some d) (fit : Fits t) :
    d.IsWritable := by
  unfold Sip.ofToml? at h
  split at h
  · next addr username password institution location terminalPassword poolSize callTimeout fields =>
    have fits := fits_fields? fit fields
    obtain ⟨_, -, h⟩ := Option.bind_eq_some_iff.1 h
    obtain ⟨_, -, h⟩ := Option.bind_eq_some_iff.1 h
    obtain ⟨_, -, h⟩ := Option.bind_eq_some_iff.1 h
    obtain ⟨_, -, h⟩ := Option.bind_eq_some_iff.1 h
    obtain ⟨_, -, h⟩ := Option.bind_eq_some_iff.1 h
    obtain ⟨_, -, h⟩ := Option.bind_eq_some_iff.1 h
    obtain ⟨_, pooled, h⟩ := Option.bind_eq_some_iff.1 h
    obtain ⟨_, called, h⟩ := Option.bind_eq_some_iff.1 h
    cases h
    exact ⟨writable_natural? pooled (fits poolSize (by simp)) (by decide),
      writable_natural? called (fits callTimeout (by simp)) (by decide)⟩
  · cases h

theorem Screen.isWritable_ofToml? {d : Screen} (h : Screen.ofToml? t = some d) (fit : Fits t) :
    d.IsWritable := by
  unfold Screen.ofToml? at h
  split at h
  · next write pong size fields =>
    have fits := fits_fields? fit fields
    obtain ⟨_, written, h⟩ := Option.bind_eq_some_iff.1 h
    obtain ⟨_, awaited, h⟩ := Option.bind_eq_some_iff.1 h
    obtain ⟨_, sized, h⟩ := Option.bind_eq_some_iff.1 h
    cases h
    exact ⟨writable_natural? written (fits write (by simp)) (by decide),
      writable_natural? awaited (fits pong (by simp)) (by decide),
      writable_natural? sized (fits size (by simp)) (by decide)⟩
  · cases h

/-- What holds of a group's defaults and of whatever a fitting value makes of it holds of the
group. -/
theorem of_value? {α : Type} {P : α → Prop} {read : Toml → Option α} {default a : α}
    {o : Option Toml} (h : value? read default o = some a) (fit : ∀ x, o = some x → Fits x)
    (reads : ∀ x a, read x = some a → Fits x → P a) (defaults : P default) : P a := by
  cases o with
  | none =>
    cases h
    exact defaults
  | some x => exact reads x a h (fit x rfl)

theorem isWritable_ofToml? {s : Settings} (h : ofToml? t = some s) (fit : Fits t) :
    s.isWritable = true := by
  unfold ofToml? at h
  split at h
  · next server device sip ui station fields =>
    have fits := fits_fields? fit fields
    obtain ⟨_, -, h⟩ := Option.bind_eq_some_iff.1 h
    obtain ⟨_, readers, h⟩ := Option.bind_eq_some_iff.1 h
    obtain ⟨_, circulation, h⟩ := Option.bind_eq_some_iff.1 h
    obtain ⟨_, screens, h⟩ := Option.bind_eq_some_iff.1 h
    obtain ⟨_, -, h⟩ := Option.bind_eq_some_iff.1 h
    cases h
    refine isWritable_iff.2 ⟨?_, ?_, ?_⟩
    · exact of_value? readers (fits device (by simp)) (fun _ _ => Device.isWritable_ofToml?)
        ⟨by decide, by decide⟩
    · exact of_value? circulation (fits sip (by simp)) (fun _ _ => Sip.isWritable_ofToml?)
        ⟨by decide, by decide⟩
    · exact of_value? screens (fits ui (by simp)) (fun _ _ => Screen.isWritable_ofToml?)
        ⟨by decide, by decide, by decide⟩
  · cases h

end

/-! ### What is loaded -/

variable {source : Source} {environment : Environment} {s s' : Settings}

/-- No variable sets a number other than the port. -/
theorem isWritable_merged (h : s.isWritable = true) :
    (merged environment s).isWritable = true := by
  rw [isWritable_iff] at h ⊢
  exact h

/-- What stands in a file fits, and so do the defaults. -/
theorem isWritable_settings (h : source.settings = .ok s) : s.isWritable = true := by
  unfold Source.settings at h
  split at h
  · cases h
    rfl
  · cases h
  · split at h
    · cases h
    · split at h
      · cases h
      · next read =>
        cases h
        obtain ⟨entries, parsed, read⟩ := Option.bind_eq_some_iff.1 read
        exact isWritable_ofToml? read (.table _ _ (Toml.fits_parse? parsed))

/-- A document can hold all settings that have been loaded. -/
theorem isWritable_load (h : load source environment = .ok s) : s.isWritable = true := by
  obtain ⟨read, settings, -, rfl, -⟩ := load_eq_ok_iff.1 h
  exact isWritable_merged (isWritable_settings settings)

end SelfCheck.Settings
