import SelfCheck.Proofs.Settings.RoundTrip

/-!
# Pings go out before the answer is due

A screen is pinged every nine tenths of the time that it has for an answer. The time is positive,
since other settings are refused, and then so are its nine tenths, which are less. They are exact: a
tenth of a second is a whole number of nanoseconds.

They are computed by way of the ninefold, and that may be too much for the 64 bits in which seconds
are counted. A document may hold a time of up to 63 bits, and the check of the settings asks no more
than that it is positive, so settings are loaded for which there is no interval.

## Main results

* `Time.Duration.times?_eq_some_iff` — when a multiple can be counted, and what it is
* `Settings.Screen.pingInterval?_eq_some_iff` — the interval, and when there is one
* `Settings.exists_load_pongWait` — which times are loaded
* `Settings.pingInterval?_of_load` — the interval of settings that have been loaded
-/

namespace SelfCheck

namespace Time.Duration

variable {d e : Duration} {n : Nat}

theorem total_ofSeconds (n : Nat) : (ofSeconds n).total = n * nanosPerSecond := by
  rw [total, ofSeconds, Nat.add_zero]

/-- A duration has fewer than `n` whole seconds just if it is shorter than `n` seconds. -/
theorem seconds_ofTotal_lt_iff {m : Nat} : (ofTotal m).seconds < n ↔ m < (ofSeconds n).total := by
  rw [total_ofSeconds]
  exact Nat.div_lt_iff_lt_mul (by decide)

/-- A multiple is exact, and it is there if its seconds have 64 bits. -/
theorem times?_eq_some_iff :
    d.times? n = some e ↔ d.total * n < (ofSeconds (Nat.pow 2 64)).total ∧
      e = ofTotal (d.total * n) := by
  simp only [times?, seconds_ofTotal_lt_iff]
  split_ifs with fits
  · simp [fits, eq_comm]
  · simp [fits]

end Time.Duration

open Time (Duration nanosPerSecond)

namespace Settings

/-- Nine tenths of a second, in nanoseconds. -/
def nineTenths : Nat := 900000000

/-- The interval is nine tenths of the time, and it is there if the ninefold can be counted. -/
theorem Screen.pingInterval?_eq_some_iff {s : Screen} {d : Duration} :
    s.pingInterval? = some d ↔
      9 * s.pongWait < Nat.pow 2 64 ∧ d = .ofTotal (s.pongWait * nineTenths) := by
  have ninefold : (Duration.ofSeconds s.pongWait).total * 9 <
      (Duration.ofSeconds (Nat.pow 2 64)).total ↔ 9 * s.pongWait < Nat.pow 2 64 := by
    rw [Duration.total_ofSeconds, Duration.total_ofSeconds, Nat.mul_right_comm,
      Nat.mul_lt_mul_right (by decide), Nat.mul_comm]
  have tenth : (Duration.ofTotal ((Duration.ofSeconds s.pongWait).total * 9)).dividedBy 10 =
      .ofTotal (s.pongWait * nineTenths) := by
    -- The tenth is taken of the nine seconds, not of their number, so nothing is rounded.
    rw [Duration.dividedBy, Duration.total_ofTotal, Duration.total_ofSeconds, Nat.mul_assoc,
      Nat.mul_div_assoc _ (by decide +kernel)]
    rfl
  unfold pingInterval?
  rw [Option.map_eq_some_iff, ← ninefold, ← tenth]
  constructor
  · rintro ⟨e, multiple, rfl⟩
    obtain ⟨fits, rfl⟩ := Duration.times?_eq_some_iff.mp multiple
    exact ⟨fits, rfl⟩
  · rintro ⟨fits, rfl⟩
    exact ⟨_, Duration.times?_eq_some_iff.mpr ⟨fits, rfl⟩, rfl⟩

variable {source : Source} {environment : Environment} {s : Settings}

theorem pongWait_of_load (h : load source environment = .ok s) :
    0 < s.ui.pongWait ∧ s.ui.pongWait < Nat.pow 2 63 := by
  -- The upper bound is that of the document, the lower one that of the check.
  obtain ⟨-, -, screens⟩ := isWritable_iff.mp (isWritable_load h)
  obtain ⟨-, -, -, -, usable⟩ := load_eq_ok_iff.mp h
  obtain ⟨-, -, -, -, -, positive, -⟩ := defect?_eq_none_iff.mp usable
  exact ⟨positive, screens.2.1⟩

/-- Every positive time of up to 63 bits is loaded from some file. -/
theorem exists_load_pongWait {n : Nat} (positive : 0 < n) (fits : n < Nat.pow 2 63) :
    ∃ text, load (.file (Bytes.ofText text)) (fun _ => none) = .ok { ui := { pongWait := n } } := by
  -- The other settings are the defaults.
  let s : Settings := { ui := { pongWait := n } }
  have writable : s.isWritable = true := by
    obtain ⟨device, sip, write, -, size⟩ := isWritable_iff.mp (rfl : ({} : Settings).isWritable)
    exact isWritable_iff.mpr ⟨device, sip, write, fits, size⟩
  have usable : s.defect? = none := by
    obtain ⟨pool, call, connect, greet, write, -, size⟩ :=
      defect?_eq_none_iff.mp (rfl : ({} : Settings).defect? = none)
    exact defect?_eq_none_iff.mpr ⟨pool, call, connect, greet, write, positive, size⟩
  exact ⟨s.render, load_ofText (ofText?_render writable) usable ⟨nofun, nofun⟩ rfl⟩

/-- The time for an answer is positive in all settings that have been loaded, and the interval is
nine tenths of it to the nanosecond, which is positive and less. There is an interval just if the
ninefold can be counted. -/
theorem pingInterval?_of_load (h : load source environment = .ok s) :
    let wait := Duration.ofSeconds s.ui.pongWait
    (0 < s.ui.pongWait ∧ s.ui.pongWait < Nat.pow 2 63) ∧
    ((∃ d, s.ui.pingInterval? = some d) ↔ 9 * s.ui.pongWait < Nat.pow 2 64) ∧
    ∀ d, s.ui.pingInterval? = some d →
      10 * d.total = 9 * wait.total ∧ 0 < d.total ∧ d.total < wait.total ∧
        d.seconds < s.ui.pongWait ∧ d.nanoseconds < nanosPerSecond := by
  intro wait
  have bounds := pongWait_of_load h
  refine ⟨bounds, ?_, fun d interval => ?_⟩
  · constructor
    · rintro ⟨d, interval⟩
      exact (Screen.pingInterval?_eq_some_iff.mp interval).1
    · exact fun fits => ⟨_, Screen.pingInterval?_eq_some_iff.mpr ⟨fits, rfl⟩⟩
  · obtain ⟨-, rfl⟩ := Screen.pingInterval?_eq_some_iff.mp interval
    have whole : wait.total = s.ui.pongWait * nanosPerSecond := Duration.total_ofSeconds _
    have less : s.ui.pongWait * nineTenths < wait.total := by
      rw [whole]
      exact Nat.mul_lt_mul_of_pos_left (by decide) bounds.1
    rw [Duration.total_ofTotal]
    refine ⟨?_, Nat.mul_pos bounds.1 (by decide), less, ?_, Duration.nanoseconds_lt _⟩
    · rw [whole, Nat.mul_left_comm, Nat.mul_left_comm 9]
      rfl
    · exact Duration.seconds_ofTotal_lt_iff.mpr less

/-- The longest time with an interval. -/
theorem pingInterval?_of_load_longest :
    let content := "[ui]\npong_wait_secs = 2049638230412172401\n"
    ∃ s, load (.file (Bytes.ofText content)) (fun _ => none) = .ok s ∧
      ∃ d, s.ui.pingInterval? = some d ∧ 0 < d.total ∧
        d.total < (Duration.ofSeconds s.ui.pongWait).total := by
  have loaded : load (.file (Bytes.ofText "[ui]\npong_wait_secs = 2049638230412172401\n"))
      (fun _ => none) = .ok { ui := { pongWait := 2049638230412172401 } } := by decide +kernel
  obtain ⟨-, exists_iff, between⟩ := pingInterval?_of_load loaded
  obtain ⟨d, interval⟩ := exists_iff.mpr (by decide)
  obtain ⟨-, positive, less, -⟩ := between d interval
  exact ⟨_, loaded, d, interval, positive, less⟩

/-- The next longer time is loaded too, and has none. -/
theorem no_pingInterval_of_longer :
    let content := "[ui]\npong_wait_secs = 2049638230412172402\n"
    ∃ s, load (.file (Bytes.ofText content)) (fun _ => none) = .ok s ∧
      s.ui.pingInterval? = none :=
  ⟨{ ui := { pongWait := 2049638230412172402 } }, by decide +kernel, by decide +kernel⟩

end Settings

end SelfCheck
