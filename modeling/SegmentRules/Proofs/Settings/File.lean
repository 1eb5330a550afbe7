import SegmentRules.Proofs.Files.Disk
import SegmentRules.Proofs.Toml.Document
import SegmentRules.Settings.File

/-! # Settings saved and loaded

Settings that can be written and are read back from their text are loaded as they were saved. -/
namespace SegmentRules.Settings

open Files (Disk Path)

variable {settings : Settings} {disk after : Disk} {path text : String}

def ReadsBack (settings : Settings) : Prop := (settings.toText >>= ofText) = .ok settings

theorem toText_of_writable (h : settings.isWritable = true) :
    settings.toText = .ok (Toml.documentText settings.toToml) :=
  if_pos h

/-- To be read back is a matter of the characters of the text. -/
theorem readsBack_of_chars (writable : settings.isWritable = true)
    (valid : settings.validate = .ok ())
    (read : ((Toml.ofChars? (Toml.documentChars settings.toToml)).bind ofToml?) = some settings) :
    settings.ReadsBack := by
  have htext : Toml.ofText? (Toml.documentText settings.toToml) =
      Toml.ofChars? (Toml.documentChars settings.toToml) := by
    rw [Toml.ofText?_eq, Toml.documentText_toList]
  rw [ReadsBack, toText_of_writable writable]
  simp only [bind, Except.bind, ofText, htext, read, valid, pure, Except.pure]

theorem save_eq_ok : settings.save disk path = (.ok (), after) ↔
    settings.validate = .ok () ∧ ∃ made text,
      disk.ensureDirectories (Path.ofText path).above = (.ok (), made) ∧
      settings.toText = .ok text ∧ made.write (.ofText path) text = .ok after := by
  rw [save]
  cases settings.validate with
  | error error => simp
  | ok =>
    rcases disk.ensureDirectories (Path.ofText path).above with ⟨_ | _, made⟩
    · simp
    · cases settings.toText with
      | error error => simp
      | ok text =>
        cases hwrite : made.write (.ofText path) text <;> simp [writeText, hwrite]

theorem takes_of_save (h : (settings.save disk path).1 = .ok ()) :
    disk.Takes (.ofText path) := by
  rcases hsave : settings.save disk path with ⟨result, after⟩
  rw [hsave] at h
  obtain rfl : result = .ok () := h
  obtain ⟨-, made, text, hmade, -, hwrite⟩ := save_eq_ok.mp hsave
  exact ⟨made, text, after, hmade, hwrite⟩

/-- Where a file can be put, valid settings are saved, and again later. -/
theorem save_of_takes (takes : disk.Takes (.ofText path)) (valid : settings.validate = .ok ())
    (writable : settings.isWritable = true) :
    ∃ text after, settings.toText = .ok text ∧ settings.save disk path = (.ok (), after) ∧
      after.at? (.ofText path) = some (.file text) ∧ after.Takes (.ofText path) := by
  have htext := toText_of_writable writable
  obtain ⟨made, after, hmade, hwrite, hfile, htakes⟩ :=
    takes.write (Toml.documentText settings.toToml)
  exact ⟨_, after, htext, save_eq_ok.mpr ⟨valid, made, _, hmade, htext, hwrite⟩, hfile, htakes⟩

theorem load_of_absent (h : disk.at? (.ofText path) = none) : load disk path = .ok standard := by
  rw [load, h]

theorem load_of_file (h : disk.at? (.ofText path) = some (.file text)) :
    load disk path = ofText text := by
  rw [load, h]

theorem load_cases (h : load disk path = .ok settings) :
    disk.at? (.ofText path) = none ∧ settings = standard ∨
      ∃ text, disk.at? (.ofText path) = some (.file text) ∧ ofText text = .ok settings := by
  cases hat : disk.at? (.ofText path) with
  | none => exact .inl ⟨rfl, (Except.ok.inj (h.symm.trans (load_of_absent hat)))⟩
  | some entry =>
    cases entry with
    | file text => exact .inr ⟨text, rfl, (load_of_file hat).symm.trans h⟩
    | directory => simp [load, hat] at h

end SegmentRules.Settings
