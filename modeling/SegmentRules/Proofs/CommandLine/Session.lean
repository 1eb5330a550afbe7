import SegmentRules.CommandLine.Commands
import SegmentRules.Proofs.Settings.Lens
import SegmentRules.Proofs.Settings.RoundTrip

/-! # Commands in turn

Over one path, commands keep a file that is absent or holds valid settings. These are the standard
ones with the successful changes, and nothing else changes the file. -/
namespace SegmentRules.CommandLine

open Files (Disk Path)
open Settings (standard)

abbrev Entry := Command × Except CommandError String

def runAll (clock : Instant) (path : String) (format : Format) :
    List Command → Disk → List Entry × Disk
  | [], disk => ([], disk)
  | command :: rest, disk =>
    let (result, disk) := run clock disk path format command
    let (log, disk) := runAll clock path format rest disk
    ((command, result) :: log, disk)

/-- The change that a command made, if it was one and succeeded. -/
def change? : Entry → Option (String × String)
  | (.set key raw, .ok _) => some (key, raw)
  | _ => none

/-- The settings that a command makes of others, files apart. -/
def edited (settings : Settings) : Command → Settings
  | .set key raw => (settings.set key raw).toOption.getD settings
  | _ => settings

/-- The file at a path, or its absence, stands for settings, and others can be saved there. -/
structure Holds (disk : Disk) (path : String) (settings : Settings) : Prop where
  loaded : Settings.load disk path = .ok settings
  valid : settings.validate = .ok ()
  writable : settings.isWritable = true
  takes : disk.Takes (.ofText path)

variable {clock : Instant} {format : Format} {path : String} {disk after : Disk}
  {settings : Settings} {command : Command}

theorem holds_standard (absent : disk.at? (.ofText path) = none)
    (takes : disk.Takes (.ofText path)) : Holds disk path standard where
  loaded := Settings.load_of_absent absent
  valid := by decide +kernel
  writable := by decide +kernel
  takes := takes

/-! ## One command -/

theorem saveSaying_of_save {text : String} (h : settings.save disk path = (.ok (), after)) :
    saveSaying text settings disk path = (.ok text, after) := by
  rw [saveSaying, h]
  rfl

theorem Holds.save {saved : Settings} (h : Holds disk path settings)
    (valid : saved.validate = .ok ()) (writable : saved.isWritable = true) :
    ∃ after, saved.save disk path = (.ok (), after) ∧ Holds after path saved := by
  obtain ⟨text, after, htext, hsave, hfile, htakes⟩ := Settings.save_of_takes h.takes valid writable
  have hback := Settings.readsBack_of_writable writable valid
  rw [Settings.ReadsBack, htext] at hback
  exact ⟨after, hsave, (Settings.load_of_file hfile).trans hback, valid, writable, htakes⟩

theorem Holds.eq_standard (h : Holds disk path settings)
    (absent : disk.at? (.ofText path) = none) : standard = settings :=
  Except.ok.inj ((Settings.load_of_absent absent).symm.trans h.loaded)

theorem load_eq (h : Holds disk path settings) : load disk path = .ok settings := by
  rw [load, h.loaded]
  rfl

/-- A command fails, or only looks, and the files stay; or it saves what it makes of the settings,
and it makes them anew only if there are none. -/
inductive Effect (disk : Disk) :
    Settings → Command → Except CommandError String → Disk → Settings → Prop
  | fails {settings : Settings} (command : Command) (error : CommandError) :
      Effect disk settings command (.error error) disk settings
  | looks {settings : Settings} {command : Command} (text : String) (looking : command ≠ .init)
      (looking' : ∀ key raw, command ≠ .set key raw) :
      Effect disk settings command (.ok text) disk settings
  | creates (text : String) (after : Disk) : Effect disk standard .init (.ok text) after standard
  | changes {settings changed : Settings} {key raw : String} (text : String) (after : Disk)
      (set : settings.set key raw = .ok changed) :
      Effect disk settings (.set key raw) (.ok text) after changed

structure Ran (disk : Disk) (path : String) (settings : Settings) (command : Command)
    (result : Except CommandError String) (after : Disk) : Prop where
  effect : Effect disk settings command result after (edited settings command)
  holds : Holds after path (edited settings command)

theorem viewing_ran (h : Holds disk path settings) (text : Settings → Except CommandError String)
    (looking : command ≠ .init) (looking' : ∀ key raw, command ≠ .set key raw) :
    Ran disk path settings command (viewing text disk path).1 (viewing text disk path).2 := by
  have hsame : edited settings command = settings := by
    cases command <;> first | rfl | exact absurd rfl (looking' _ _)
  refine ⟨?_, hsame.symm ▸ h⟩
  rw [hsame]
  cases hresult : (viewing text disk path).1 with
  | error error => exact .fails command error
  | ok text => exact .looks text looking looking'

theorem init_ran (h : Holds disk path settings) (clock : Instant) (format : Format) :
    Ran disk path settings .init (run clock disk path format .init).1
      (run clock disk path format .init).2 := by
  rw [run]
  split
  · exact ⟨.fails .init _, h⟩
  · rename_i habsent
    have habsent : disk.at? (.ofText path) = none := by simpa using habsent
    obtain rfl := h.eq_standard habsent
    obtain ⟨after, hsave, hholds⟩ := h.save h.valid h.writable
    rw [saveSaying_of_save hsave]
    exact ⟨.creates _ after, hholds⟩

theorem set_ran (h : Holds disk path settings) (clock : Instant) (format : Format)
    (key raw : String) :
    Ran disk path settings (.set key raw) (run clock disk path format (.set key raw)).1
      (run clock disk path format (.set key raw)).2 := by
  have hchanged : changed disk path key raw = (settings.set key raw).mapError .edit := by
    rw [changed, load_eq h]
    rfl
  rw [run, hchanged]
  cases hset : settings.set key raw with
  | error error =>
    have hsame : edited settings (.set key raw) = settings := by
      simp [edited, hset, Except.toOption]
    exact ⟨hsame.symm ▸ .fails (.set key raw) _, hsame.symm ▸ h⟩
  | ok changed =>
    have hnew : edited settings (.set key raw) = changed := by simp [edited, hset, Except.toOption]
    have hreplaces := Settings.replaces_of_set hset
    obtain ⟨after, hsave, hholds⟩ := h.save hreplaces.valid hreplaces.writable
    simp only [Except.mapError, saveSaying_of_save hsave]
    exact ⟨hnew.symm ▸ .changes _ after hset, hnew.symm ▸ hholds⟩

theorem run_ran (h : Holds disk path settings) (clock : Instant) (format : Format)
    (command : Command) :
    Ran disk path settings command (run clock disk path format command).1
      (run clock disk path format command).2 := by
  cases command with
  | init => exact init_ran h clock format
  | set key raw => exact set_ran h clock format key raw
  | get key => exact viewing_ran h _ (by simp) (by simp)
  | list => exact viewing_ran h _ (by simp) (by simp)
  | catalog commerceEnabled recurring => exact viewing_ran h _ (by simp) (by simp)
  | compile request => exact viewing_ran h _ (by simp) (by simp)

theorem Effect.setAll {next : Settings} {result : Except CommandError String}
    (effect : Effect disk settings command result after next) :
    settings.setAll (change? (command, result)).toList = .ok next := by
  cases effect with
  | fails command error => cases command <;> rfl
  | looks text looking looking' =>
    cases command <;> first | rfl | exact absurd rfl (looking' _ _)
  | creates _ _ => rfl
  | changes _ _ hset => simp [change?, Settings.setAll, hset, bind, Except.bind, pure, Except.pure]

theorem Effect.eq_of_error {next : Settings} {error : CommandError}
    (effect : Effect disk settings command (.error error) after next) : after = disk := by
  cases effect
  rfl

theorem init_ok_iff (h : Holds disk path settings) (clock : Instant) (format : Format) :
    (∃ text, (run clock disk path format .init).1 = .ok text) ↔
      disk.at? (.ofText path) = none := by
  rw [run]
  cases habsent : disk.at? (.ofText path) with
  | some entry => simp
  | none =>
    obtain rfl := h.eq_standard habsent
    obtain ⟨after, hsave, -⟩ := h.save h.valid h.writable
    simp [saveSaying_of_save hsave]

theorem run_get {key : String} {value : Toml.Value} (h : Holds disk path settings)
    (clock : Instant) (format : Format) (found : settings.leaf? key = some value) :
    run clock disk path format (.get key) =
      (.ok (key ++ ": " ++ value.display ++ "\n"), disk) := by
  simp [run, viewing, load_eq h, showEntry, Settings.get_of_leaf? found, entryLine, bind,
    Except.bind, Except.map, Except.mapError]

/-! ## Several commands -/

/-- Commands lead from held settings to the ones they make of them, and so do the changes among
them that succeeded. What a command does depends on the file it finds, so that settings are held
carries the induction. -/
theorem runAll_holds (h : Holds disk path settings) (clock : Instant) (format : Format)
    (commands : List Command) :
    ∃ log after, runAll clock path format commands disk = (log, after) ∧
      settings.setAll (log.filterMap change?) = .ok (commands.foldl edited settings) ∧
      Holds after path (commands.foldl edited settings) := by
  induction commands generalizing disk settings with
  | nil => exact ⟨[], disk, rfl, rfl, h⟩
  | cons command rest ih =>
    have hran := run_ran h clock format command
    obtain ⟨log, after, hlog, hchanges, hholds⟩ := ih hran.holds
    refine ⟨(command, (run clock disk path format command).1) :: log, after, ?_, ?_, hholds⟩
    · simp [runAll, hlog]
    · have hsplit : ∀ entry : Entry, (entry :: log).filterMap change? =
          (change? entry).toList ++ log.filterMap change? := by
        intro entry
        cases hchange : change? entry <;> simp [hchange]
      rw [hsplit, Settings.setAll, List.foldlM_append, ← Settings.setAll, hran.effect.setAll]
      exact hchanges

/-- The file is absent or holds valid settings after any commands, and these are the standard ones
with the changes that succeeded, in their order. So a key has the value it was last set to, or its
first one, and what is printed behind the key reads as this value. A command that fails or only
looks leaves all files as they are, and a new file is made only where there is none. -/
theorem session_folds (clock : Instant) (format : Format)
    (absent : disk.at? (.ofText path) = none)
    (succeeds : (standard.save disk path).1 = .ok ()) (commands : List Command) :
    ∃ log after settings, runAll clock path format commands disk = (log, after) ∧
      settings = commands.foldl edited standard ∧
      standard.setAll (log.filterMap change?) = .ok settings ∧
      settings.validate = .ok () ∧ Settings.load after path = .ok settings ∧
      (after.at? (.ofText path) = none ∨ ∃ text,
        after.at? (.ofText path) = some (.file text) ∧ Settings.ofText text = .ok settings) ∧
      (∀ command, ((∃ error, (run clock after path format command).1 = .error error) ∨
          command ≠ .init ∧ ∀ key raw, command ≠ .set key raw) →
        (run clock after path format command).2 = after) ∧
      ((∃ text, (run clock after path format .init).1 = .ok text) ↔
        after.at? (.ofText path) = none) ∧
      ∀ key leaf, standard.leaf? key = some leaf →
        ∃ value, run clock after path format (.get key) =
            (.ok (key ++ ": " ++ value.display ++ "\n"), after) ∧
          Settings.valueLike key value.display value = .ok value ∧
          match (log.filterMap change?).reverse.lookup key with
          | some raw => Settings.valueLike key raw leaf = .ok value
          | none => value = leaf := by
  have hstart := holds_standard absent (Settings.takes_of_save succeeds)
  obtain ⟨log, after, hlog, hchanges, hholds⟩ := runAll_holds hstart clock format commands
  refine ⟨log, after, _, hlog, rfl, hchanges, hholds.valid, hholds.loaded, ?_, ?_,
    init_ok_iff hholds clock format, ?_⟩
  · rcases Settings.load_cases hholds.loaded with ⟨hnone, -⟩ | hfile
    · exact .inl hnone
    · exact .inr hfile
  · intro command hcase
    have heffect := (run_ran hholds clock format command).effect
    rcases hcase with ⟨error, herror⟩ | ⟨hinit, hset⟩
    · rw [herror] at heffect
      exact heffect.eq_of_error
    · cases command <;> first | rfl | exact absurd rfl hinit | exact absurd rfl (hset _ _)
  · intro key leaf hleaf
    obtain ⟨value, hvalue, -, hlast⟩ := Settings.leaf?_of_setAll hchanges hleaf
    exact ⟨value, run_get hholds clock format hvalue,
      Settings.valueLike_display hholds.writable hholds.valid hvalue, hlast⟩

def renamed : Settings := { standard with tablePrefix := "crm_" }

/-- A change between two commands that fail. -/
def renameCommands : List Command :=
  [.init, .set "customers_table" "x; drop", .set "table_prefix" "crm_", .init]

theorem session_folds_renamed :
    Disk.empty.at? (.ofText "conf/rules.toml") = none ∧
    (standard.save .empty "conf/rules.toml").1 = .ok () ∧
    ∃ log after, runAll ⟨⟨0, 0⟩⟩ "conf/rules.toml" .table renameCommands .empty = (log, after) ∧
      standard.setAll (log.filterMap change?) = .ok renamed ∧
      Settings.load after "conf/rules.toml" = .ok renamed := by
  have habsent : Disk.empty.at? (.ofText "conf/rules.toml") = none := by decide +kernel
  have hsaves : (standard.save .empty "conf/rules.toml").1 = .ok () := by decide +kernel
  obtain ⟨log, after, settings, hlog, hsettings, hchanges, -, hload, -⟩ :=
    session_folds ⟨⟨0, 0⟩⟩ .table habsent hsaves renameCommands
  have hrenamed : renameCommands.foldl edited standard = renamed := by decide +kernel
  obtain rfl : settings = renamed := hsettings.trans hrenamed
  exact ⟨habsent, hsaves, log, after, hlog, hchanges, hload⟩

end SegmentRules.CommandLine
