import SelfCheck.CommandLine.Run
import SelfCheck.Proofs.Settings.Writable
import SelfCheck.Proofs.Toml.Document
import Mathlib.Tactic.Common

/-!
# The printed settings are the settings

The document that is printed of some settings shows all of them, and what is read from it is just
them. With all settings in the file, none is a default any more; and a variable that has set one of
them sets it to the same value again.

## Main definitions

* `Settings.Reproduces` — a text stands for the settings that were loaded

## Main results

* `Settings.ofText?_render` — printed settings are read back
* `Settings.load_print` — loaded settings can be printed, and print as before when loaded again
-/

namespace SelfCheck.Settings

open Toml (Entries Says Spells IsName tableStatements)

/-! ### Printing -/

/-- What is read for a written value. -/
def Value.toToml : Value → Toml
  | text s => .string s
  | number n => .integer n

theorem Value.spells {v : Value} (h : v.isWritable = true) : Spells v.render v.toToml := by
  cases v with
  | text s => exact Toml.spells_string s
  | number n => exact Toml.spells_toDigits (of_decide_eq_true h)

/-- A table with its name, as it is written and as it is read. -/
def groupTable (group : String × List (String × Value)) : String × Entries :=
  (group.1, group.2.map fun setting => (setting.1, setting.2.toToml))

/-- The names of the groups and of the settings in them. -/
def layout : List (String × List String) :=
  (groups {}).map fun group => (group.1, group.2.map Prod.fst)

theorem groups_layout (s : Settings) :
    s.groups.map (fun group => (group.1, group.2.map Prod.fst)) = layout :=
  rfl

/-- No name needs quotes. -/
theorem isName_layout : (∀ group ∈ layout, IsName group.1) ∧
    ∀ group ∈ layout, ∀ name ∈ group.2, IsName name :=
  ⟨by decide, by decide⟩

/-- No name is given twice. -/
theorem nodup_layout : (layout.map Prod.fst).Nodup ∧ ∀ group ∈ layout, group.2.Nodup :=
  ⟨by decide, by decide⟩

theorem mem_layout {s : Settings} {group : String × List (String × Value)}
    (h : group ∈ s.groups) : (group.1, group.2.map Prod.fst) ∈ layout :=
  groups_layout s ▸ List.mem_map_of_mem h

theorem says_settingText {setting : String × Value} (name : IsName setting.1)
    (writable : setting.2.isWritable = true) :
    Says (settingText setting) [.entry ⟨[setting.1], setting.2.toToml⟩] :=
  Toml.says_entry name (Value.spells writable)

theorem says_groupText {group : String × List (String × Value)} (name : IsName group.1)
    (names : ∀ setting ∈ group.2, IsName setting.1)
    (writable : ∀ setting ∈ group.2, setting.2.isWritable = true) :
    Says (groupText group) (tableStatements (groupTable group)) := by
  have settings := Toml.Says.flatMap fun setting h =>
    says_settingText (names setting h) (writable setting h)
  have lines := (Toml.says_header name).append settings
  have entries : (groupTable group).2.map (fun e => Toml.Statement.entry ⟨[e.1], e.2⟩) =
      group.2.flatMap fun setting => [.entry ⟨[setting.1], setting.2.toToml⟩] := by
    rw [groupTable, List.map_map, List.map_eq_flatMap]
    rfl
  rw [List.cons_append, List.append_assoc] at lines
  rw [tableStatements, entries]
  exact lines

/-- Printed settings say their groups. -/
theorem says_render {s : Settings} (h : s.isWritable = true) :
    Says s.render.toList ((s.groups.map groupTable).flatMap tableStatements) := by
  rw [isWritable, List.all_eq_true] at h
  rw [render, String.toList_ofList, List.flatMap_map]
  refine Toml.Says.intersperse fun group mem => ?_
  have names := isName_layout.2 _ (mem_layout mem)
  exact says_groupText (isName_layout.1 _ (mem_layout mem))
    (fun setting listed => names _ (List.mem_map_of_mem listed)) (List.all_eq_true.1 (h group mem))

/-! ### Reading -/

theorem value?_some {α : Type} (read : Toml → Option α) (default : α) (t : Toml) :
    value? read default (some t) = read t :=
  rfl

theorem text?_string (text default : String) : text? default (some (.string text)) = some text :=
  rfl

theorem natural?_integer {n : Nat} (h : Writable n) (default : Nat) :
    natural? default (some (.integer n)) = some n := by
  have small : n ≤ limit := by
    have more : Nat.pow 2 63 ≤ limit := by decide
    omega
  simp [natural?, value?, Toml.natural?, small]

theorem Device.ofToml?_table {d : Device} (h : d.IsWritable) :
    Device.ofToml? (.table .header [("port", .integer d.tcpPort.toNat),
      ("connect_timeout_secs", .integer d.connectTimeout),
      ("handshake_timeout_secs", .integer d.handshakeTimeout)]) = some d := by
  have port : Toml.natural? 65535 (.integer d.tcpPort.toNat) = some d.tcpPort.toNat := by
    have := d.tcpPort.toNat_lt
    simp [Toml.natural?]
    omega
  simp [Device.ofToml?, Toml.fields?, Toml.valueOf?, value?_some, port, natural?_integer h.1,
    natural?_integer h.2]

theorem Sip.ofToml?_table {d : Sip} (h : d.IsWritable) :
    Sip.ofToml? (.table .header [("addr", .string d.addr), ("username", .string d.username),
      ("password", .string d.password), ("institution", .string d.institution),
      ("location", .string d.location), ("terminal_password", .string d.terminalPassword),
      ("pool_size", .integer d.poolSize), ("call_timeout_secs", .integer d.callTimeout)]) =
        some d := by
  simp [Sip.ofToml?, Toml.fields?, Toml.valueOf?, text?_string, natural?_integer h.1,
    natural?_integer h.2]

theorem Screen.ofToml?_table {d : Screen} (h : d.IsWritable) :
    Screen.ofToml? (.table .header [("write_timeout_secs", .integer d.writeTimeout),
      ("pong_wait_secs", .integer d.pongWait), ("max_message_size", .integer d.maxMessageSize)]) =
        some d := by
  obtain ⟨write, pong, size⟩ := h
  simp [Screen.ofToml?, Toml.fields?, Toml.valueOf?, natural?_integer write, natural?_integer pong,
    natural?_integer size]

theorem Desk.ofToml?_table (d : Desk) :
    Desk.ofToml? (.table .header [("backend_failure_policy", .string d.failurePolicy.name)]) =
      some d := by
  obtain ⟨policy⟩ := d
  cases policy <;> rfl

/-- Every group and every setting of a document that shows them all is read from it. -/
theorem ofToml?_tables {s : Settings} (h : s.isWritable = true) :
    ofToml? (Toml.ofEntries ((s.groups.map groupTable).map fun g => (g.1, .table .header g.2))) =
      some s := by
  obtain ⟨device, sip, ui⟩ := isWritable_iff.1 h
  have server : Server.ofToml? (.table .header [("bind", .string s.server.bind)]) =
      some s.server := rfl
  simp [ofToml?, Toml.ofEntries, Toml.fields?, groups, groupTable, Toml.valueOf?, Value.toToml,
    value?_some, server, Device.ofToml?_table device, Sip.ofToml?_table sip,
    Screen.ofToml?_table ui, Desk.ofToml?_table]

/-- Printed settings are read back. -/
theorem ofText?_render {s : Settings} (h : s.isWritable = true) : ofText? s.render = some s := by
  -- It begins with a bracket, so there is no mark in front to be passed over.
  have first : s.render.toList.head? = some '[' := by
    rw [render, String.toList_ofList]
    rfl
  have parsed := Toml.parse?_of_says (says_render h) (by rw [first]; decide) nodup_layout.1 ?_
  · rw [ofText?, parsed, Option.bind_some, ofToml?_tables h]
  · intro table listed
    obtain ⟨group, mem, rfl⟩ := List.mem_map.1 listed
    rw [groupTable, List.map_map]
    exact nodup_layout.2 _ (mem_layout mem)

/-! ### Loading again -/

variable {source : Source} {environment : Environment} {s : Settings} {text : String}

theorem load_ofText (read : ofText? text = some s) (usable : s.defect? = none)
    (sound : Sound environment) (stays : merged environment s = s) :
    load (.file (Bytes.ofText text)) environment = .ok s := by
  refine load_eq_ok_iff.2 ⟨s, ?_, sound, stays.symm, usable⟩
  rw [Source.settings, Bytes.text?_ofText]
  dsimp only
  rw [read]

/-- Loading printed settings gives them once more, whether the environment is as before or empty. -/
theorem load_render (loaded : load source environment = .ok s) {again : Environment}
    (same : again = environment ∨ again = fun _ => none) :
    load (.file (Bytes.ofText s.render)) again = .ok s := by
  have read := ofText?_render (isWritable_load loaded)
  -- All settings are in the file, so what came from the environment stays without it.
  obtain ⟨first, -, sound, rfl, usable⟩ := load_eq_ok_iff.1 loaded
  rcases same with rfl | rfl
  · exact load_ofText read usable sound merged_merged
  · exact load_ofText read usable ⟨nofun, nofun⟩ rfl

open CommandLine (Invocation run)

theorem run_config (loaded : load source environment = .ok s) (printed : s.print = .ok text)
    {files : String → Source} {arguments : List String} {path : String} {verbose : Bool}
    (asked : Invocation.ofArguments arguments = .run .config path verbose)
    (stands : files path = source) : run files environment arguments = .finished 0 text none := by
  rw [run, asked]
  dsimp only
  rw [stands, loaded]
  dsimp only [CommandLine.perform]
  rw [printed]

/-- A text stands for the settings that were loaded from a source in an environment. -/
structure Reproduces (source : Source) (environment : Environment) (s : Settings) (text : String) :
    Prop where
  printed : s.print = .ok text
  read : ofText? text = some s
  /-- Loading the text gives the settings again, in the same environment or an empty one. -/
  loaded : ∀ again, again = environment ∨ again = (fun _ => none) →
    load (.file (Bytes.ofText text)) again = .ok s
  /-- Who asks for the settings is shown the text. -/
  shown : ∀ (files : String → Source) (arguments : List String) (path : String) (verbose : Bool),
    Invocation.ofArguments arguments = .run .config path verbose → files path = source →
      run files environment arguments = .finished 0 text none
  /-- Who asks for them when the text is all there is, is shown it too. -/
  shownAgain : ∀ (files : String → Source) (arguments : List String) (path : String)
    (verbose : Bool), Invocation.ofArguments arguments = .run .config path verbose →
      files path = .file (Bytes.ofText text) →
        ∀ again, again = environment ∨ again = (fun _ => none) →
          run files again arguments = .finished 0 text none

/-- Settings that have been loaded can be printed, and what is printed stands for them. -/
theorem load_print (h : load source environment = .ok s) :
    ∃ text, Reproduces source environment s text := by
  have writable := isWritable_load h
  have printed : s.print = .ok s.render := if_pos writable
  exact ⟨s.render, {
    printed
    read := ofText?_render writable
    loaded := fun _ => load_render h
    shown := fun _ _ _ _ asked stands => run_config h printed asked stands
    shownAgain := fun _ _ _ _ asked stands _ same =>
      run_config (load_render h same) printed asked stands }⟩

/-- A password that no form of a string shows without escapes. -/
def awkward : Environment := fun name =>
  if name = "RFIDHUB_SIP_PASSWORD" then some "\x01\"\"\"\n'''\\" else none

theorem load_print_awkward : ∃ s, load .missing awkward = .ok s ∧
    ∃ text, Reproduces .missing awkward s text :=
  ⟨_, rfl, load_print rfl⟩

end SelfCheck.Settings
