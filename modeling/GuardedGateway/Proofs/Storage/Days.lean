import GuardedGateway.Proofs.Storage.Outcomes

/-!
# Every day in a file of its own

A log that is written to under any clocks keeps the days apart: the file at its base holds the
records of the day the log is open for, and each file that was moved aside holds the records of the
day in its name (`each_day_in_its_own_file`).

## Files by number

The name of a file changes when the log is moved aside, its number does not.  So a `Chronicle` notes
for every record the number of the file it went to, and `Holds` says of a file, under its number,
what was in it before and that all records which went to it are of certain days.  A write leaves
this alone for every file but the one at the base (`Holds.writes`), and for that one there are two
cases (`Holds.base_of_writes`).

## Failures

When a move fails, the records of a day stay at the base while nothing is open, and the next write
goes by the day on which the disk has changed the file.  That day is told by another clock, so the
days are kept apart only as long as every attempt succeeds.
-/

namespace GuardedGateway.Storage

open Calendar (Date Moment)

/-! ## What the files of a log hold -/

/-- A record that was accepted: the number of the file it went to, when that was, and the record. -/
structure Written where
  number : Nat
  now : Moment
  record : Bytes
  deriving DecidableEq, Repr

/-- The records that went to a file, in order. -/
def recordsTo (number : Nat) (written : List Written) : List Bytes :=
  (written.filter fun w => w.number == number).map Written.record

/-- A file holds some older content and then the records that went to it, and all of these were
written on one of some days. -/
structure Holds (fs : FileSystem) (written : List Written) (place : Place) (number : Nat)
    (older : Bytes) (days : Date → Prop) : Prop where
  file : fs.kindAt place = some (.file number)
  content : fs.content number = older ++ (recordsTo number written).flatten
  days : ∀ w ∈ written, w.number = number → days w.now.date

section

variable {fs next : FileSystem} {written : List Written} {place : Place} {number : Nat}
  {older : Bytes} {days : Date → Prop}

theorem recordsTo_append_self (number : Nat) (written : List Written) (now : Moment)
    (record : Bytes) :
    recordsTo number (written ++ [⟨number, now, record⟩]) =
      recordsTo number written ++ [record] := by
  simp [recordsTo]

theorem recordsTo_append_of_ne {other : Nat} (h : other ≠ number) (written : List Written)
    (now : Moment) (record : Bytes) :
    recordsTo number (written ++ [⟨other, now, record⟩]) = recordsTo number written := by
  simp [recordsTo, h]

/-- The clock of a disk does not change what a file holds. -/
theorem Holds.atClock (h : Holds fs written place number older days) (clock : Moment) :
    Holds (fs.atClock clock) written place number older days :=
  ⟨h.file, h.content, h.days⟩

/-- A file holds a record more that is appended to it. -/
theorem Holds.append_self (hfs : fs.WellFormed) (h : Holds fs written place number older days)
    {now : Moment} (hday : days now.date) (record : Bytes) :
    Holds (fs.append number record) (written ++ [⟨number, now, record⟩]) place number older
      days where
  file := by rw [FileSystem.kindAt_append, h.file]
  content := by
    rw [FileSystem.content_append_self (hfs.numbered place number h.file), h.content,
      recordsTo_append_self, List.flatten_append, List.flatten_singleton, List.append_assoc]
  days := by
    intro w hw hnumber
    obtain hw | hw := List.mem_append.mp hw
    · exact h.days w hw hnumber
    · rw [List.mem_singleton.mp hw]
      exact hday

/-- A file holds what it held when a record is appended to another one. -/
theorem Holds.append_of_ne (h : Holds fs written place number older days) {other : Nat}
    (hne : other ≠ number) (now : Moment) (record : Bytes) :
    Holds (fs.append other record) (written ++ [⟨other, now, record⟩]) place number older
      days where
  file := by rw [FileSystem.kindAt_append, h.file]
  content := by
    rw [FileSystem.content_append_of_ne fs hne, h.content, recordsTo_append_of_ne hne]
  days := by
    intro w hw hnumber
    obtain hw | hw := List.mem_append.mp hw
    · exact h.days w hw hnumber
    · rw [List.mem_singleton.mp hw] at hnumber
      exact absurd hnumber hne

/-- A file holds what it held when some file is moved to a free place. -/
theorem Holds.moves (h : Holds fs written place number older days) {source target : Place}
    (hmoves : FileSystem.Moves source target fs next) (hfree : fs.kindAt target = none) :
    Holds next written (FileSystem.placeAfter source target place) number older days where
  file := by
    unfold FileSystem.placeAfter
    by_cases hplace : place = source
    · rw [if_pos hplace, hmoves.kindAt_target hfree, ← hplace, h.file]
    · have hne : place ≠ target := by
        rintro rfl
        rw [h.file] at hfree
        cases hfree
      rw [if_neg hplace, hmoves.kindAt_of_ne hfree hne hplace, h.file]
  content := by rw [FileSystem.content_congr hmoves.files, h.content]
  days := h.days

/-- A file holds what it held when a new one is begun. -/
theorem Holds.create (hfs : fs.WellFormed) (h : Holds fs written place number older days)
    {base : Place} (hfree : fs.kindAt base = none) (file : File) :
    Holds (fs.create base file) written place number older days where
  file := by
    have hne : place ≠ base := by
      rintro rfl
      rw [h.file] at hfree
      cases hfree
    rw [FileSystem.kindAt_create hfree, if_neg hne, h.file]
  content := by
    rw [FileSystem.content_create_of_lt (hfs.numbered place number h.file), h.content]
  days := h.days

/-- A file that has just been begun holds nothing. -/
theorem holds_create_self (hfree : fs.kindAt place = none)
    (hnumbers : ∀ w ∈ written, w.number < fs.files.length) (modified : Moment)
    (days : Date → Prop) :
    Holds (fs.create place ⟨[], modified⟩) written place fs.files.length [] days := by
  have hnot : ∀ w ∈ written, w.number ≠ fs.files.length := fun w hw => Nat.ne_of_lt (hnumbers w hw)
  refine ⟨by rw [FileSystem.kindAt_create hfree, if_pos rfl], ?_, ?_⟩
  · have hnone : recordsTo fs.files.length written = [] := by
      rw [recordsTo, List.map_eq_nil_iff, List.filter_eq_nil_iff]
      exact fun w hw => by simpa using hnot w hw
    rw [FileSystem.content_create_self, hnone]
    rfl
  · exact fun w hw hnumber => absurd hnumber (hnot w hw)

end

/-! ## Writes -/

section

variable {fs next : FileSystem} {path : String} {now : Moment} {record : Bytes}
  {active active' : ActiveFile} {moved : List Place} {written : List Written}

/-- When a log is laid aside and a record is written to a new file, a file that is there holds what
it held, under its new place. -/
theorem Holds.rotates {target place : Place} {day : Date} {number : Nat} {older : Bytes}
    {days : Date → Prop} (haside : LaidAside path day now fs next target)
    (hfs : fs.WellFormed) (hbase : fs.kindAt (Path.mk path).place ≠ some .directory)
    (h : Holds fs written place number older days) (record : Bytes) :
    Holds ((next.create (Path.mk path).place ⟨[], next.clock⟩).append next.files.length record)
      (written ++ [⟨next.files.length, now, record⟩])
      (FileSystem.placeAfter (Path.mk path).place target place) number older days := by
  have hmoved := h.moves (haside.moves hbase) haside.free
  have hlt := hfs.numbered place number h.file
  rw [← haside.files] at hlt
  exact (hmoved.create haside.wellFormed haside.gone _).append_of_ne (Nat.ne_of_gt hlt) now record

/-- **A write leaves what other files hold.** -/
theorem Holds.writes (hwrites : Writes path now record fs active next active' moved)
    (hfs : fs.WellFormed) (hfile : fs.kindAt (Path.mk path).place = some (.file active.number))
    {place : Place} (hne : place ≠ (Path.mk path).place) {number : Nat} {older : Bytes}
    {days : Date → Prop} (h : Holds fs written place number older days) :
    Holds next (written ++ [⟨active'.number, now, record⟩]) place number older days := by
  cases hwrites with
  | appends =>
    refine h.append_of_ne ?_ now record
    rintro rfl
    exact hne (hfs.single place _ _ h.file hfile)
  | rotates hday haside =>
    have hrotates := h.rotates haside hfs (by rw [hfile]; exact nofun) record
    rwa [FileSystem.placeAfter, if_neg hne] at hrotates

/-- **What a write does to the file at the base**: it goes on holding the records of its day, with
one more, or it is laid aside with them and a new one holds the record alone. -/
theorem Holds.base_of_writes (hwrites : Writes path now record fs active next active' moved)
    (hfs : fs.WellFormed) (hnumbers : ∀ w ∈ written, w.number < fs.files.length) {older : Bytes}
    (h : Holds fs written (Path.mk path).place active.number older (· = active.day)) :
    (moved = [] ∧ Holds next (written ++ [⟨active'.number, now, record⟩]) (Path.mk path).place
        active'.number older (· = now.date)) ∨
      ∃ target, moved = [target] ∧ target ≠ (Path.mk path).place ∧
        NamedAfter path active.day now target ∧
        Holds next (written ++ [⟨active'.number, now, record⟩]) target active.number older
          (· = active.day) ∧
        Holds next (written ++ [⟨active'.number, now, record⟩]) (Path.mk path).place active'.number
          [] (· = now.date) := by
  cases hwrites with
  | appends htoday =>
    rw [htoday] at h
    exact .inl ⟨rfl, h.append_self hfs rfl record⟩
  | @rotates between target hother haside =>
    have hlaid := h.rotates haside hfs (by rw [h.file]; exact nofun) record
    rw [FileSystem.placeAfter, if_pos rfl] at hlaid
    have hbegun := holds_create_self haside.gone (fun w hw => haside.files ▸ hnumbers w hw)
      between.clock (· = now.date)
    have hparent : between.kindAt (Path.mk path).place.dropLast = some .directory := by
      have hup := hfs.parent (Path.mk path).place (by rw [h.file]; rfl)
      have hmoves := haside.moves (by rw [h.file]; exact nofun)
      exact hmoves.kindAt_directory haside.free (by rw [h.file]; exact nofun) hup
    have hwf := FileSystem.wellFormed_create haside.wellFormed haside.gone hparent
      ⟨[], between.clock⟩
    exact .inr ⟨target, rfl, haside.target_ne h.file, haside.named, hlaid,
      hbegun.append_self hwf rfl record⟩

end

/-! ## Chronicles -/

/-- A log was moved aside: where to, which day it was open for, and when. -/
structure Rotation where
  place : Place
  day : Date
  now : Moment
  deriving DecidableEq, Repr

/-- What has become of a log since it was opened: the disk, the sink, the records that were accepted
with the files they went to, the moves to the side, and how the attempts ended. -/
structure Chronicle where
  fs : FileSystem
  sink : RotatingFile
  written : List Written
  rotations : List Rotation
  outcomes : List (Except Fault Unit)

namespace Chronicle

/-- The place of a log. -/
def base (c : Chronicle) : Place := (Path.mk c.sink.path).place

/-- A log that has just been opened. -/
def start (opened : FileSystem) (sink : RotatingFile) : Chronicle := ⟨opened, sink, [], [], []⟩

/-- What an attempt has written, if the record was accepted: it went to the file that is open. -/
def writtenBy (sink : RotatingFile) (attempt : Attempt) : Except Fault Unit → List Written
  | .ok _ => sink.active.toList.map fun active => ⟨active.number, attempt.now, attempt.record⟩
  | .error _ => []

/-- The moves of a sink that was open for a day to the places that have appeared. -/
def rotationsOf (sink : RotatingFile) (attempt : Attempt) (places : List Place) : List Rotation :=
  sink.active.toList.flatMap fun active => places.map fun place => ⟨place, active.day, attempt.now⟩

/-- A log after one more attempt to write. -/
def after (c : Chronicle) (attempt : Attempt) : Chronicle :=
  let disk := c.fs.atClock attempt.diskClock
  let result := RotatingFile.write disk c.sink attempt.now attempt.record
  { fs := result.1
    sink := result.2.1
    written := c.written ++ writtenBy result.2.1 attempt result.2.2
    rotations := c.rotations ++
      rotationsOf c.sink attempt (FileSystem.appeared c.base disk result.1)
    outcomes := c.outcomes ++ [result.2.2] }

/-- The content that a file has from before the log was opened: only the first one has any. -/
def olderIn (kept : Bytes) (position : Nat) : Bytes := if position = 0 then kept else []

/-- A log keeps the days apart: the file at its base holds the records of the day it is open for,
and each file that was moved aside is named after its day and holds the records of that day.  What
was at the base before, and was kept, stands in front of all. -/
structure KeepsDays (path : String) (kept : Bytes) (today : Date) (c : Chronicle) : Prop where
  samePath : c.sink.path = path
  tracked : c.sink.Tracked (Path.mk path).place c.fs
  numbers : ∀ w ∈ c.written, w.number < c.fs.files.length
  current : ∃ active, c.sink.active = some active ∧ active.day = today ∧
    Holds c.fs c.written (Path.mk path).place active.number (olderIn kept c.rotations.length)
      (· = today)
  rotated : ∀ (i : Nat) (rotation : Rotation), c.rotations[i]? = some rotation →
    rotation.place ≠ (Path.mk path).place ∧
      NamedAfter path rotation.day rotation.now rotation.place ∧
      ∃ number, Holds c.fs c.written rotation.place number (olderIn kept i) (· = rotation.day)

/-- What one more attempt comes to that succeeds. -/
theorem after_of_writes {path : String} {c : Chronicle} (hpath : c.sink.path = path)
    (htracked : c.sink.Tracked (Path.mk path).place c.fs) {active : ActiveFile}
    (hactive : c.sink.active = some active) {attempt : Attempt}
    (hok : ∀ outcome ∈ (c.after attempt).outcomes, outcome = .ok ()) :
    ∃ next active' moved,
      Writes path attempt.now attempt.record (c.fs.atClock attempt.diskClock) active next active'
        moved ∧
      RotatingFile.Tracked (Path.mk path).place next ⟨path, some active'⟩ ∧
      c.after attempt =
        ⟨next, ⟨path, some active'⟩,
          c.written ++ [⟨active'.number, attempt.now, attempt.record⟩],
          c.rotations ++ moved.map fun place => ⟨place, active.day, attempt.now⟩,
          c.outcomes ++ [.ok ()]⟩ := by
  subst hpath
  have hclock := FileSystem.progress_atClock htracked.hasBase.wellFormed
    htracked.hasBase.noDirectory attempt.diskClock
  have hdisk : c.sink.Tracked (Path.mk c.sink.path).place (c.fs.atClock attempt.diskClock) :=
    ⟨htracked.hasBase.of_progress hclock, htracked.active⟩
  obtain ⟨_, hadvances⟩ := RotatingFile.advances_write hdisk attempt.now attempt.record
  cases hwrite : RotatingFile.write (c.fs.atClock attempt.diskClock) c.sink attempt.now
      attempt.record with
  | mk next rest =>
    obtain ⟨sink', outcome⟩ := rest
    rw [hok outcome (by rw [after, hwrite]; simp)] at hwrite
    obtain ⟨active', moved, rfl, hwrites⟩ := writes_of_write hdisk hactive hwrite
    have htracked' := hadvances.tracked
    rw [hwrite] at htracked'
    have hprogress := progress_of_writes hwrites hdisk.hasBase.wellFormed
      (hdisk.active active hactive)
    refine ⟨next, active', moved, hwrites, htracked', ?_⟩
    have happeared := hprogress.appeared_eq hwrites.length_le
    simp only [after, hwrite, base, happeared, rotationsOf, hactive, writtenBy, Option.toList_some,
      List.flatMap_singleton, List.map_singleton]

/-- What a file elsewhere holds it goes on holding, as long as every attempt succeeds. -/
theorem KeepsDays.holds_after {path : String} {kept : Bytes} {today : Date} {c : Chronicle}
    (h : c.KeepsDays path kept today) {attempt : Attempt}
    (hok : ∀ outcome ∈ (c.after attempt).outcomes, outcome = .ok ()) {place : Place}
    (hne : place ≠ (Path.mk path).place) {number : Nat} {older : Bytes} {days : Date → Prop}
    (hholds : Holds c.fs c.written place number older days) :
    Holds (c.after attempt).fs (c.after attempt).written place number older days := by
  obtain ⟨active, hactive, -, hcurrent⟩ := h.current
  obtain ⟨next, active', moved, hwrites, -, heq⟩ :=
    after_of_writes h.samePath h.tracked hactive hok
  have hfs := FileSystem.wellFormed_atClock h.tracked.hasBase.wellFormed attempt.diskClock
  rw [heq]
  exact (hholds.atClock attempt.diskClock).writes hwrites hfs hcurrent.file hne

/-- **One more attempt that succeeds keeps the days apart.** -/
theorem KeepsDays.after {path : String} {kept : Bytes} {today : Date} {c : Chronicle}
    (h : c.KeepsDays path kept today) {attempt : Attempt}
    (hok : ∀ outcome ∈ (c.after attempt).outcomes, outcome = .ok ()) :
    (c.after attempt).KeepsDays path kept attempt.now.date := by
  obtain ⟨active, hactive, rfl, hcurrent⟩ := h.current
  obtain ⟨next, active', moved, hwrites, htracked, heq⟩ :=
    after_of_writes h.samePath h.tracked hactive hok
  have hfs := FileSystem.wellFormed_atClock h.tracked.hasBase.wellFormed attempt.diskClock
  have hrotated (i : Nat) (rotation : Rotation) (hi : c.rotations[i]? = some rotation) :
      rotation.place ≠ (Path.mk path).place ∧
        NamedAfter path rotation.day rotation.now rotation.place ∧
        ∃ number, Holds next (c.written ++ [⟨active'.number, attempt.now, attempt.record⟩])
          rotation.place number (olderIn kept i) (· = rotation.day) := by
    obtain ⟨hne, hnamed, number, hholds⟩ := h.rotated i rotation hi
    have hafter := h.holds_after hok hne hholds
    rw [heq] at hafter
    exact ⟨hne, hnamed, number, hafter⟩
  have hnumbers : ∀ w ∈ c.written ++ [⟨active'.number, attempt.now, attempt.record⟩],
      w.number < next.files.length := by
    intro w hw
    obtain hw | hw := List.mem_append.mp hw
    · exact Nat.lt_of_lt_of_le (h.numbers w hw) hwrites.length_files_le
    · rw [List.mem_singleton.mp hw]
      exact htracked.hasBase.wellFormed.numbered _ _ (htracked.active active' rfl)
  rw [heq]
  obtain ⟨rfl, hbase⟩ | ⟨target, rfl, hne, hnamed, hlaid, hbase⟩ :=
    (hcurrent.atClock attempt.diskClock).base_of_writes hwrites hfs h.numbers
  · rw [List.map_nil, List.append_nil]
    exact ⟨rfl, htracked, hnumbers, ⟨active', rfl, hwrites.day, hbase⟩, hrotated⟩
  · have holder :
        olderIn kept (c.rotations ++ [Rotation.mk target active.day attempt.now]).length = [] :=
      if_neg (by simp)
    rw [← holder] at hbase
    refine ⟨rfl, htracked, hnumbers, ⟨active', rfl, hwrites.day, hbase⟩, ?_⟩
    intro i rotation hi
    obtain hold | hnew := Nat.lt_or_ge i c.rotations.length
    · rw [List.getElem?_append_left hold] at hi
      exact hrotated i rotation hi
    · rw [List.getElem?_append_right hnew, List.map_singleton, List.getElem?_singleton] at hi
      obtain ⟨hzero, hlast⟩ := Option.ite_none_right_eq_some.mp hi
      obtain rfl : i = c.rotations.length := by omega
      obtain rfl := Option.some.inj hlast
      exact ⟨hne, hnamed, active.number, hlaid⟩

/-! ### Runs -/

/-- The day of the last attempt, or the day of opening. -/
def lastDay (opening : Date) (attempts : List Attempt) : Date :=
  (attempts.getLast?.map fun attempt => attempt.now.date).getD opening

section

variable {path : String} {kept : Bytes} {opening : Date} {c : Chronicle}

/-- What one more attempt keeps that succeeds, any number of them keeps. -/
theorem foldl_after_induction {motive : List Attempt → Chronicle → Prop} (hstart : motive [] c)
    (hafter : ∀ attempts attempt c', motive attempts c' →
      (∀ outcome ∈ (c'.after attempt).outcomes, outcome = .ok ()) →
      motive (attempts ++ [attempt]) (c'.after attempt))
    (attempts : List Attempt)
    (hok : ∀ outcome ∈ (attempts.foldl Chronicle.after c).outcomes, outcome = .ok ()) :
    motive attempts (attempts.foldl Chronicle.after c) := by
  induction attempts using List.reverseRecOn with
  | nil => exact hstart
  | append_singleton attempts attempt ih =>
    rw [List.foldl_concat] at hok ⊢
    exact hafter _ _ _ (ih fun outcome hmem => hok outcome (List.mem_append_left _ hmem)) hok

/-- **Any number of attempts that succeed keeps the days apart**, and all records are written. -/
theorem KeepsDays.foldl_after (h : c.KeepsDays path kept opening) (attempts : List Attempt)
    (hok : ∀ outcome ∈ (attempts.foldl Chronicle.after c).outcomes, outcome = .ok ()) :
    (attempts.foldl Chronicle.after c).KeepsDays path kept (lastDay opening attempts) ∧
      (attempts.foldl Chronicle.after c).written.map (fun w => (w.now, w.record)) =
        c.written.map (fun w => (w.now, w.record)) ++ attempts.map fun a => (a.now, a.record) := by
  refine foldl_after_induction (motive := fun attempts c' =>
    c'.KeepsDays path kept (lastDay opening attempts) ∧
      c'.written.map (fun w => (w.now, w.record)) =
        c.written.map (fun w => (w.now, w.record)) ++ attempts.map fun a => (a.now, a.record))
    ⟨h, (List.append_nil _).symm⟩ ?_ attempts hok
  rintro attempts attempt c' ⟨hkeeps, hwritten⟩ hok
  obtain ⟨active, hactive, -⟩ := hkeeps.current
  obtain ⟨_, _, _, -, -, heq⟩ := after_of_writes hkeeps.samePath hkeeps.tracked hactive hok
  refine ⟨?_, ?_⟩
  · rw [lastDay, List.getLast?_concat]
    exact hkeeps.after hok
  · rw [heq, List.map_append, hwritten, List.map_append, List.append_assoc]
    rfl

/-- What a file elsewhere holds it goes on holding. -/
theorem KeepsDays.holds_foldl (h : c.KeepsDays path kept opening) (attempts : List Attempt)
    (hok : ∀ outcome ∈ (attempts.foldl Chronicle.after c).outcomes, outcome = .ok ())
    {place : Place} (hne : place ≠ (Path.mk path).place) {number : Nat} {older : Bytes}
    {days : Date → Prop} (hholds : Holds c.fs c.written place number older days) :
    Holds (attempts.foldl Chronicle.after c).fs (attempts.foldl Chronicle.after c).written place
      number older days := by
  refine (foldl_after_induction (motive := fun attempts c' =>
    c'.KeepsDays path kept (lastDay opening attempts) ∧
      Holds c'.fs c'.written place number older days) ⟨h, hholds⟩ ?_ attempts hok).2
  rintro attempts attempt c' ⟨hkeeps, hheld⟩ hok
  rw [lastDay, List.getLast?_concat]
  exact ⟨hkeeps.after hok, hkeeps.holds_after hok hne hheld⟩

end

/-! ### Opening -/

section

variable {fs opened : FileSystem} {path : String} {now : Moment} {sink : RotatingFile}

/-- What was at the base of a log before and stays there: the content of a file that was changed on
the day of opening. -/
def keptContent (fs : FileSystem) (base : Place) (today : Date) : Bytes :=
  if (fs.modifiedAt? base).map Moment.date = some today then fs.contentAt base else []

/-- Opening a log makes directories for it and opens it for the day. -/
theorem opens_of_start (hfs : fs.WellFormed)
    (hstart : RotatingFile.start fs path now = (opened, .ok sink)) :
    ∃ made active, FileSystem.Grows (Path.mk path).directories fs made ∧
      Opens path now made opened active ∧ sink = ⟨path, some active⟩ ∧
      sink.Tracked (Path.mk path).place opened := by
  have hgrows := FileSystem.grows_makeDirectories hfs (Path.mk path).directories
  unfold RotatingFile.start at hstart
  cases hmake : fs.makeDirectories (Path.mk path).directories with
  | mk made outcome =>
    rw [hmake] at hstart hgrows
    cases outcome with
    | error fault => cases congrArg Prod.snd hstart
    | ok =>
      cases hopen : openToday made path now with
      | mk next result =>
        simp only [hopen] at hstart
        cases result with
        | error fault => cases congrArg Prod.snd hstart
        | ok active =>
          cases hstart
          obtain ⟨htracked, hopens⟩ := opens_of_openToday hgrows.wellFormed hopen
          exact ⟨made, active, hgrows, hopens, rfl, htracked⟩

/-- A file at the base of a log is the same file once directories have been made. -/
theorem modifiedAt?_of_grows {paths : List Path} {fs made : FileSystem} {place : Place}
    (hgrows : FileSystem.Grows paths fs made) {number : Nat}
    (hfile : made.kindAt place = some (.file number)) :
    fs.kindAt place = some (.file number) ∧ made.modifiedAt? place = fs.modifiedAt? place := by
  obtain heq | ⟨-, hmade, -⟩ := hgrows.kindAt place
  · have hbefore : fs.kindAt place = some (.file number) := heq ▸ hfile
    refine ⟨hbefore, ?_⟩
    rw [FileSystem.modifiedAt?, FileSystem.modifiedAt?, FileSystem.entry?_eq_file_iff.mpr hfile,
      FileSystem.entry?_eq_file_iff.mpr hbefore, Option.bind_some, Option.bind_some,
      FileSystem.modified?, FileSystem.modified?, hgrows.files]
  · rw [hmade] at hfile
    cases hfile

/-- Nothing is kept at the base where there is no file once directories have been made. -/
theorem contentAt_of_grows {paths : List Path} {fs made : FileSystem} {place : Place}
    (hgrows : FileSystem.Grows paths fs made)
    (hnone : ∀ number, made.kindAt place ≠ some (.file number)) : fs.contentAt place = [] := by
  cases hkind : fs.kindAt place with
  | none => exact FileSystem.contentAt_of_free hkind
  | some kind =>
    cases kind with
    | directory =>
      rw [FileSystem.contentAt, FileSystem.fileAt?, hkind]
      rfl
    | file number =>
      obtain heq | ⟨hfree, -, -⟩ := hgrows.kindAt place
      · exact absurd (heq.trans hkind) (hnone number)
      · rw [hkind] at hfree
        cases hfree

/-- **A log that has just been opened keeps the days apart.** -/
theorem keepsDays_start (hfs : fs.WellFormed)
    (hstart : RotatingFile.start fs path now = (opened, .ok sink)) :
    (start opened sink).KeepsDays path (keptContent fs (Path.mk path).place now.date) now.date := by
  obtain ⟨made, active, hgrows, hopens, rfl, htracked⟩ := opens_of_start hfs hstart
  obtain ⟨hday, hholds⟩ : active.day = now.date ∧ Holds opened [] (Path.mk path).place active.number
      (keptContent fs (Path.mk path).place now.date) (· = now.date) := by
    cases hopens with
    | @goesOn number modified hfile hmodified htoday =>
      obtain ⟨hbefore, hsame⟩ := modifiedAt?_of_grows hgrows hfile
      have hkept : keptContent fs (Path.mk path).place now.date = opened.content number := by
        rw [keptContent, ← hsame, hmodified, Option.map_some, htoday, if_pos rfl,
          FileSystem.contentAt_of_kindAt hbefore, FileSystem.content_congr hgrows.files]
      refine ⟨rfl, hfile, ?_, List.forall_mem_nil _⟩
      rw [hkept]
      exact (List.append_nil _).symm
    | begins hfree =>
      have hnone := contentAt_of_grows hgrows (by rw [hfree]; exact nofun)
      rw [keptContent, hnone, ite_self]
      exact ⟨rfl, holds_create_self hfree (List.forall_mem_nil _) _ _⟩
    | @replaces modified next target hmodified hother haside =>
      have hkept : keptContent fs (Path.mk path).place now.date = [] := by
        by_cases hfile : ∃ number, made.kindAt (Path.mk path).place = some (.file number)
        · obtain ⟨number, hfile⟩ := hfile
          rw [keptContent, ← (modifiedAt?_of_grows hgrows hfile).2, hmodified, Option.map_some,
            if_neg (fun heq => hother (Option.some.inj heq))]
        · rw [keptContent, contentAt_of_grows hgrows (not_exists.mp hfile), ite_self]
      rw [hkept]
      exact ⟨rfl, holds_create_self haside.gone (List.forall_mem_nil _) _ _⟩
  refine ⟨rfl, htracked, List.forall_mem_nil _, ⟨active, rfl, hday, hholds⟩, ?_⟩
  intro i rotation hi
  rw [start, List.getElem?_nil] at hi
  cases hi

/-- A file that was changed on another day than that of opening has been laid aside as it was. -/
theorem holds_stale_of_start (hfs : fs.WellFormed)
    (hstart : RotatingFile.start fs path now = (opened, .ok sink)) {number : Nat}
    {modified : Moment} (hfile : fs.kindAt (Path.mk path).place = some (.file number))
    (hmodified : fs.modifiedAt? (Path.mk path).place = some modified)
    (hother : modified.date ≠ now.date) :
    ∃ place, place ≠ (Path.mk path).place ∧ NamedAfter path modified.date now place ∧
      Holds opened [] place number (fs.contentAt (Path.mk path).place) (fun _ => False) := by
  obtain ⟨made, active, hgrows, hopens, -, -⟩ := opens_of_start hfs hstart
  have hmade : made.kindAt (Path.mk path).place = some (.file number) := by
    obtain heq | ⟨hfree, -⟩ := hgrows.kindAt (Path.mk path).place
    · rw [heq, hfile]
    · rw [hfree] at hfile
      cases hfile
  have hknown := (modifiedAt?_of_grows hgrows hmade).2.trans hmodified
  cases hopens with
  | goesOn _ hsame htoday =>
    rw [hknown] at hsame
    exact absurd (Option.some.inj hsame ▸ htoday) hother
  | begins hfree =>
    rw [hmade] at hfree
    cases hfree
  | @replaces modified' next target hsame _ haside =>
    obtain rfl : modified = modified' := Option.some.inj (hknown.symm.trans hsame)
    have hbefore : Holds made [] (Path.mk path).place number (fs.contentAt (Path.mk path).place)
        (fun _ => False) := by
      refine ⟨hmade, ?_, List.forall_mem_nil _⟩
      rw [FileSystem.contentAt_of_kindAt hfile, FileSystem.content_congr hgrows.files]
      exact (List.append_nil _).symm
    have hlaid := (hbefore.moves (haside.moves (by rw [hmade]; exact nofun)) haside.free).create
      haside.wellFormed haside.gone ⟨[], next.clock⟩
    rw [FileSystem.placeAfter, if_pos rfl] at hlaid
    exact ⟨target, haside.target_ne hmade, haside.named, hlaid⟩

end

end Chronicle

/-- **Every day has a file of its own.**  As long as every attempt succeeds, whatever the clocks
show: all records are written, in order; the file at the base is open for the day of the last
attempt, or of opening, and it holds the records of that day; each file that was moved aside is
named after the day the log was open for, and it holds the records of that day.  The first of these
files begins with what was at the base before, if that was changed on the day of opening.  A file
that was changed on another day stands, as it was, under a name for that day, and no record has gone
to it. -/
theorem each_day_in_its_own_file {fs opened : FileSystem} {path : String} {now : Moment}
    {sink : RotatingFile} (hfs : fs.WellFormed)
    (hstart : RotatingFile.start fs path now = (opened, .ok sink)) (attempts : List Attempt)
    (hok : ∀ outcome ∈ (attempts.foldl Chronicle.after (.start opened sink)).outcomes,
      outcome = .ok ()) :
    let base := (Path.mk path).place
    let kept := Chronicle.keptContent fs base now.date
    let log := attempts.foldl Chronicle.after (.start opened sink)
    log.written.map (fun w => (w.now, w.record)) = attempts.map (fun a => (a.now, a.record)) ∧
      (∃ active, log.sink.active = some active ∧
        active.day = Chronicle.lastDay now.date attempts ∧
        Holds log.fs log.written base active.number (Chronicle.olderIn kept log.rotations.length)
          (· = active.day)) ∧
      (∀ (i : Nat) (rotation : Rotation), log.rotations[i]? = some rotation →
        NamedAfter path rotation.day rotation.now rotation.place ∧
        ∃ number, Holds log.fs log.written rotation.place number (Chronicle.olderIn kept i)
          (· = rotation.day)) ∧
      ∀ (number : Nat) (modified : Moment), fs.kindAt base = some (.file number) →
        fs.modifiedAt? base = some modified → modified.date ≠ now.date →
        ∃ place, NamedAfter path modified.date now place ∧
          log.fs.fileAt? place = some (fs.contentAt base) ∧
          log.fs.kindAt place = some (.file number) ∧ ∀ w ∈ log.written, w.number ≠ number := by
  intro base kept log
  have hstarted := Chronicle.keepsDays_start hfs hstart
  obtain ⟨hkeeps, hwritten⟩ := hstarted.foldl_after attempts hok
  obtain ⟨active, hactive, hday, hcurrent⟩ := hkeeps.current
  refine ⟨hwritten, ⟨active, hactive, hday, hday ▸ hcurrent⟩, ?_, ?_⟩
  · intro i rotation hi
    exact (hkeeps.rotated i rotation hi).2
  · intro number modified hfile hmodified hother
    obtain ⟨place, hne, hnamed, hstale⟩ :=
      Chronicle.holds_stale_of_start hfs hstart hfile hmodified hother
    have hholds := hstarted.holds_foldl attempts hok hne hstale
    have hnone : recordsTo number log.written = [] := by
      rw [recordsTo, List.map_eq_nil_iff, List.filter_eq_nil_iff]
      exact fun w hw hnumber => hholds.days w hw (eq_of_beq hnumber)
    refine ⟨place, hnamed, ?_, hholds.file, fun w hw hnumber => hholds.days w hw hnumber⟩
    rw [FileSystem.fileAt?_of_kindAt hholds.file, hholds.content, hnone]
    exact congrArg some (List.append_nil _)

/-- The log is opened on the third of May with a file of the first, and written to on that day, on
the next one, and with the clock set back. -/
theorem each_day_in_its_own_file_crowdedDisk :
    let opened := (RotatingFile.start crowdedDisk "gw.log" (morning 2)).1
    let sink : RotatingFile := ⟨"gw.log", some ⟨2, (morning 2).date⟩⟩
    let attempts : List Attempt :=
      [⟨morning 2, morning 2, [3]⟩, ⟨morning 2, morning 3, [4]⟩, ⟨morning 5, morning 2, [5]⟩]
    let log := attempts.foldl Chronicle.after (.start opened sink)
    let base := (Path.mk "gw.log").place
    (crowdedDisk.WellFormed ∧
      RotatingFile.start crowdedDisk "gw.log" (morning 2) = (opened, .ok sink) ∧
      (∀ outcome ∈ log.outcomes, outcome = .ok ()) ∧
      log.rotations[1]? = some ⟨["gw.log.2024-05-04"], (morning 3).date, morning 2⟩ ∧
      crowdedDisk.kindAt base = some (.file 0) ∧
      crowdedDisk.modifiedAt? base = some (morning 0) ∧ (morning 0).date ≠ (morning 2).date) ∧
    (∃ active, log.sink.active = some active ∧ active.day = (morning 2).date ∧
      Holds log.fs log.written base active.number [] (· = active.day)) ∧
    (∃ number, Holds log.fs log.written ["gw.log.2024-05-04"] number [] (· = (morning 3).date)) ∧
    ∃ place, NamedAfter "gw.log" (morning 0).date (morning 2) place ∧
      log.fs.fileAt? place = some [1, 2] := by
  intro opened sink attempts log base
  have hfs : crowdedDisk.WellFormed := by
    refine FileSystem.wellFormed_of_kinds ?_ ?_ ?_ ?_ ?_ <;> decide
  have hstart : RotatingFile.start crowdedDisk "gw.log" (morning 2) = (opened, .ok sink) := by
    decide +kernel
  have hok : ∀ outcome ∈ log.outcomes, outcome = .ok () := by decide +kernel
  have hrotation :
      log.rotations[1]? = some ⟨["gw.log.2024-05-04"], (morning 3).date, morning 2⟩ := by
    decide +kernel
  have hfile : crowdedDisk.kindAt base = some (.file 0) := by decide +kernel
  have hmodified : crowdedDisk.modifiedAt? base = some (morning 0) := by decide +kernel
  have hother : (morning 0).date ≠ (morning 2).date := by decide
  obtain ⟨-, ⟨active, hactive, hday, hcurrent⟩, hrotated, hstale⟩ :=
    each_day_in_its_own_file hfs hstart attempts hok
  obtain ⟨place, hnamed, hcontent, -⟩ := hstale 0 (morning 0) hfile hmodified hother
  refine ⟨⟨hfs, hstart, hok, hrotation, hfile, hmodified, hother⟩, ?_, ?_, place, hnamed, ?_⟩
  · have hlength : log.rotations.length = 2 := by decide +kernel
    refine ⟨active, hactive, hday, ?_⟩
    rw [hlength] at hcurrent
    exact hcurrent
  · exact (hrotated 1 _ hrotation).2
  · have hbefore : crowdedDisk.contentAt base = [1, 2] := by decide +kernel
    rw [hcontent, hbefore]

end GuardedGateway.Storage
