import SegmentRules.Files.Disk

/-! # Writing a file again

A path that was written to once can be written to again: its directories stay, and what stands at
its end is the text written last. -/
namespace SegmentRules.Files.Disk

variable {disk made after : Disk} {place other start target : Place} {entry : Entry} {path : Path}
  {texts : List String} {text : String}

/-! ## Places -/

theorem lookup_filter_ne (entries : List (Place × Entry)) (h : other ≠ place) :
    (entries.filter (·.1 != place)).lookup other = entries.lookup other := by
  induction entries with
  | nil => rfl
  | cons first rest ih =>
    by_cases hplace : first.1 = place
    · have hother : (other == first.1) = false := beq_eq_false_iff_ne.mpr (hplace ▸ h)
      rw [List.filter_cons_of_neg (by simp [hplace]), ih, List.lookup_cons, hother]
    · rw [List.filter_cons_of_pos (by simpa using hplace), List.lookup_cons, List.lookup_cons, ih]

theorem entry?_put (h : place ≠ []) : Disk.entry? (disk.put place entry) place = some entry := by
  simp [put, entry?, h]

theorem entry?_put_ne (h : other ≠ place) :
    Disk.entry? (disk.put place entry) other = disk.entry? other := by
  have hother : (other == place) = false := beq_eq_false_iff_ne.mpr h
  simp only [put, entry?, List.lookup_cons, hother, lookup_filter_ne disk.entries h]

theorem ne_nil_of_no_directory (h : disk.entry? place ≠ some .directory) : place ≠ [] := by
  rintro rfl
  exact h rfl

/-- What is put where no directory was hides no way. -/
theorem follow_put {parts : List Part} (h : disk.entry? place ≠ some .directory)
    (found : disk.follow start parts = .ok target) :
    (disk.put place entry).follow start parts = .ok target := by
  induction parts generalizing start with
  | nil => exact found
  | cons part rest ih =>
    cases part with
    | up => exact ih found
    | name text =>
      rw [follow] at found ⊢
      split
      · rename_i hlast
        rwa [if_pos hlast] at found
      · rename_i hmore
        rw [if_neg hmore] at found
        split at found
        · rename_i hdirectory
          have hne : start ++ [text] ≠ place := fun hplace => h (hplace ▸ hdirectory)
          rw [entry?_put_ne hne, hdirectory]
          exact ih found
        · cases found
        · cases found

theorem locate_put (h : disk.entry? place ≠ some .directory)
    (found : disk.locate path = .ok target) : (disk.put place entry).locate path = .ok target := by
  rw [locate] at found ⊢
  split
  · rename_i hfits
    rw [if_pos hfits] at found
    exact follow_put h found
  · rename_i hlong
    rw [if_neg hlong] at found
    cases found

/-! ## Directories -/

theorem isDirectory_iff : disk.isDirectory path = true ↔
    ∃ place, disk.locate path = .ok place ∧ disk.entry? place = some .directory := by
  rw [isDirectory, decide_eq_true_eq, at?]
  cases disk.locate path with
  | error fault => simp
  | ok place =>
    cases hentry : disk.entry? place with
    | none => simp [hentry]
    | some entry =>
      cases entry with
      | directory => simp [hentry]
      | file text => by_cases h : path.ending = .plain <;> simp [hentry, h]

theorem isDirectory_put (h : disk.entry? place ≠ some .directory)
    (found : disk.isDirectory path = true) : (disk.put place entry).isDirectory path = true := by
  obtain ⟨target, hlocate, hdirectory⟩ := isDirectory_iff.mp found
  have hne : target ≠ place := fun hplace => h (hplace ▸ hdirectory)
  exact isDirectory_iff.mpr ⟨target, locate_put h hlocate, by rw [entry?_put_ne hne, hdirectory]⟩

theorem ensureDirectory_of_isDirectory (h : disk.isDirectory path = true) :
    disk.ensureDirectory path = .ok disk := by
  obtain ⟨place, hlocate, hdirectory⟩ := isDirectory_iff.mp h
  simp [ensureDirectory, makeDirectory, hlocate, hdirectory, h]

/-- A directory is there, or it is put at a place where nothing stands. -/
theorem ensureDirectory_cases (h : disk.ensureDirectory path = .ok made) :
    made = disk ∧ disk.isDirectory path = true ∨
      ∃ place, disk.locate path = .ok place ∧ disk.entry? place = none ∧
        made = disk.put place .directory := by
  rw [ensureDirectory] at h
  cases hmake : disk.makeDirectory path with
  | error fault =>
    simp only [hmake] at h
    split at h
    · rename_i hdirectory
      exact .inl ⟨(Except.ok.inj h).symm, hdirectory⟩
    · cases h
  | ok new =>
    obtain rfl : new = made := by simpa [hmake] using h
    rw [makeDirectory] at hmake
    cases hlocate : disk.locate path with
    | error fault => simp [hlocate] at hmake
    | ok place =>
      cases hentry : disk.entry? place with
      | some entry => simp [hlocate, hentry] at hmake
      | none =>
        simp only [hlocate, hentry, create] at hmake
        split at hmake
        · exact .inr ⟨place, rfl, hentry, (Except.ok.inj hmake).symm⟩
        · cases hmake

theorem isDirectory_of_ensureDirectory (h : disk.ensureDirectory path = .ok made) :
    made.isDirectory path = true := by
  rcases ensureDirectory_cases h with ⟨rfl, hdirectory⟩ | ⟨place, hlocate, hfree, rfl⟩
  · exact hdirectory
  · have hfree' : disk.entry? place ≠ some .directory := by simp [hfree]
    exact isDirectory_iff.mpr
      ⟨place, locate_put hfree' hlocate, entry?_put (ne_nil_of_no_directory hfree')⟩

/-- The directory that texts, from the last one back, lead into; none without a step. -/
def directoryAt? : List String → Option Path
  | [] => none
  | text :: above =>
    if (Part.ofText? text).isNone then directoryAt? above else some ⟨(text :: above).reverse⟩

theorem ensureDirectories_of_isDirectory
    (h : ∀ path, directoryAt? texts = some path → disk.isDirectory path = true) :
    disk.ensureDirectories texts = (.ok (), disk) := by
  induction texts with
  | nil => rfl
  | cons text above ih =>
    rw [ensureDirectories]
    split
    · rename_i hnone
      exact ih fun path hpath => h path (by rw [directoryAt?, if_pos hnone, hpath])
    · rename_i hsome
      have hdirectory := h _ (by rw [directoryAt?, if_neg hsome])
      simp only [ensureDirectory_of_isDirectory hdirectory]

theorem isDirectory_of_ensureDirectories (h : disk.ensureDirectories texts = (.ok (), made)) :
    ∀ path, directoryAt? texts = some path → made.isDirectory path = true := by
  induction texts with
  | nil => intro path hpath; cases hpath
  | cons text above ih =>
    intro path hpath
    rw [ensureDirectories] at h
    rw [directoryAt?] at hpath
    split at h
    · rename_i hnone
      rw [if_pos hnone] at hpath
      exact ih h path hpath
    · rename_i hsome
      rw [if_neg hsome] at hpath
      obtain rfl := Option.some.inj hpath
      simp only at h
      split at h
      · rename_i new hnew
        obtain rfl : new = made := by simpa using h
        exact isDirectory_of_ensureDirectory hnew
      · split at h
        · simp at h
        · split at h
          · rename_i new hnew
            obtain rfl : new = made := by simpa using h
            exact isDirectory_of_ensureDirectory hnew
          · simp at h
      · simp at h

/-! ## Files -/

/-- A file is written to a place where no directory is, whatever its text. -/
theorem write_eq_ok : disk.write path text = .ok after ↔
    ∃ place, disk.locate path = .ok place ∧ disk.entry? place ≠ some .directory ∧
      path.ending = .plain ∧ (disk.entry? place = none → place.all isName = true) ∧
      after = disk.put place (.file text) := by
  rw [write]
  cases disk.locate path with
  | error fault => simp
  | ok place =>
    cases hentry : disk.entry? place with
    | none =>
      cases hending : path.ending with
      | plain =>
        by_cases hname : place.all isName = true <;>
          simp [hentry, create, hname, eq_comm (a := after), -List.all_eq_true]
      | slash => simp [hentry]
      | dot => simp [hentry]
    | some entry =>
      cases entry <;> cases hending : path.ending <;> simp [hentry, eq_comm (a := after)]

theorem at?_of_write (h : disk.write path text = .ok after) :
    after.at? path = some (.file text) := by
  obtain ⟨place, hlocate, hfree, hplain, -, rfl⟩ := write_eq_ok.mp h
  simp [at?, locate_put hfree hlocate, entry?_put (ne_nil_of_no_directory hfree), hplain]

theorem isDirectory_of_write (h : disk.write path text = .ok after) {directory : Path}
    (found : disk.isDirectory directory = true) : after.isDirectory directory = true := by
  obtain ⟨place, -, hfree, -, -, rfl⟩ := write_eq_ok.mp h
  exact isDirectory_put hfree found

theorem write_other (h : disk.write path text = .ok after) (other : String) :
    ∃ after, disk.write path other = .ok after := by
  obtain ⟨place, hlocate, hfree, hplain, hname, -⟩ := write_eq_ok.mp h
  exact ⟨_, write_eq_ok.mpr ⟨place, hlocate, hfree, hplain, hname, rfl⟩⟩

theorem write_again (h : disk.write path text = .ok after) (other : String) :
    ∃ again, after.write path other = .ok again := by
  obtain ⟨place, hlocate, hfree, hplain, -, rfl⟩ := write_eq_ok.mp h
  have hentry : Disk.entry? (disk.put place (.file text)) place = some (.file text) :=
    entry?_put (ne_nil_of_no_directory hfree)
  exact ⟨_, write_eq_ok.mpr ⟨place, locate_put hfree hlocate, by simp [hentry], hplain,
    by simp [hentry], rfl⟩⟩

/-! ## Files behind new directories -/

/-- No file is made, changed or removed, and every way to a file still leads there. -/
structure KeepsFiles (disk after : Disk) : Prop where
  entries : ∀ place text, after.entry? place = some (.file text) ↔
    disk.entry? place = some (.file text)
  paths : ∀ path text, disk.at? path = some (.file text) → after.at? path = some (.file text)

theorem KeepsFiles.refl (disk : Disk) : disk.KeepsFiles disk :=
  ⟨fun _ _ => Iff.rfl, fun _ _ => id⟩

theorem KeepsFiles.trans (h : disk.KeepsFiles made) (h' : made.KeepsFiles after) :
    disk.KeepsFiles after where
  entries place text := (h'.entries place text).trans (h.entries place text)
  paths path text found := h'.paths path text (h.paths path text found)

theorem at?_eq_file : disk.at? path = some (.file text) ↔
    ∃ place, disk.locate path = .ok place ∧ disk.entry? place = some (.file text) ∧
      path.ending = .plain := by
  rw [at?]
  cases disk.locate path with
  | error fault => simp
  | ok place =>
    cases hentry : disk.entry? place with
    | none => simp [hentry]
    | some entry =>
      cases entry with
      | directory => simp [hentry]
      | file other => by_cases h : path.ending = .plain <;> simp [hentry, h]

theorem keepsFiles_put_directory (free : disk.entry? place = none) :
    disk.KeepsFiles (disk.put place .directory) := by
  have hfree : disk.entry? place ≠ some .directory := by simp [free]
  have hentries : ∀ other text,
      Disk.entry? (disk.put place .directory) other = some (.file text) ↔
        disk.entry? other = some (.file text) := by
    intro other text
    by_cases hother : other = place
    · subst hother
      rw [entry?_put (ne_nil_of_no_directory hfree), free]
      simp
    · rw [entry?_put_ne hother]
  refine ⟨hentries, fun path text found => ?_⟩
  obtain ⟨target, hlocate, hentry, hplain⟩ := at?_eq_file.mp found
  exact at?_eq_file.mpr
    ⟨target, locate_put hfree hlocate, (hentries target text).mpr hentry, hplain⟩

theorem keepsFiles_of_ensureDirectory (h : disk.ensureDirectory path = .ok made) :
    disk.KeepsFiles made := by
  rcases ensureDirectory_cases h with ⟨rfl, -⟩ | ⟨place, -, hfree, rfl⟩
  · exact .refl made
  · exact keepsFiles_put_directory hfree

theorem keepsFiles_of_ensureDirectories {result : Except Fault Unit}
    (h : disk.ensureDirectories texts = (result, made)) : disk.KeepsFiles made := by
  induction texts generalizing result made with
  | nil =>
    obtain ⟨-, rfl⟩ := Prod.mk.inj h
    exact .refl disk
  | cons text above ih =>
    rw [ensureDirectories] at h
    split at h
    · exact ih h
    simp only at h
    split at h
    · rename_i new hnew
      obtain ⟨-, rfl⟩ := Prod.mk.inj h
      exact keepsFiles_of_ensureDirectory hnew
    · split at h
      · rename_i habove
        obtain ⟨-, rfl⟩ := Prod.mk.inj h
        exact ih habove
      · rename_i habove
        split at h
        · rename_i new hnew
          obtain ⟨-, rfl⟩ := Prod.mk.inj h
          exact (ih habove).trans (keepsFiles_of_ensureDirectory hnew)
        · obtain ⟨-, rfl⟩ := Prod.mk.inj h
          exact ih habove
    · obtain ⟨-, rfl⟩ := Prod.mk.inj h
      exact .refl disk

/-! ## Files and their directories -/

/-- A file can be put at the path, and the directories above it can be made. -/
def Takes (disk : Disk) (path : Path) : Prop :=
  ∃ made text after, disk.ensureDirectories path.above = (.ok (), made) ∧
    made.write path text = .ok after

/-- A path that takes a file takes every text, and goes on to do so. -/
theorem Takes.write (h : disk.Takes path) (text : String) :
    ∃ made after, disk.ensureDirectories path.above = (.ok (), made) ∧
      made.write path text = .ok after ∧ after.at? path = some (.file text) ∧ after.Takes path := by
  obtain ⟨made, first, _, hmade, hfirst⟩ := h
  obtain ⟨after, hafter⟩ := write_other hfirst text
  obtain ⟨again, hagain⟩ := write_again hafter text
  have hstays : after.ensureDirectories path.above = (.ok (), after) :=
    ensureDirectories_of_isDirectory fun directory hdirectory =>
      isDirectory_of_write hafter (isDirectory_of_ensureDirectories hmade directory hdirectory)
  exact ⟨made, after, hmade, hafter, at?_of_write hafter, after, text, again, hstays, hagain⟩

end SegmentRules.Files.Disk
