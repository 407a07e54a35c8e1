import GuardedGateway.Proofs.Storage.FreshName
import GuardedGateway.Proofs.Storage.Progress

/-!
# A rotating log loses nothing

A log that is opened on a disk and written to in any way, under any clocks, keeps every file that is
not its own, moves its file aside to places that were free, and never loses, repeats or reorders
anything that has been written: the files that were moved aside, one after another, and then the
file at the base contain what was at the base in the beginning, followed by the records that were
accepted (`nothing_lost`).

## The invariant

While a log is `Tracked`, its path leads to the base, which is no directory, and the file that is
open is the one at the base.  Every write is a progress of the disk that keeps it tracked
(`advances_write`), so the history of a log is one progress from the disk on which it was opened.

A step of a log that fails has changed nothing; this is what `Settles` says of the three steps that
a write is made of.
-/

namespace GuardedGateway.Storage

open Calendar (Date Moment)
open FileSystem (Progress)

/-! ## Steps of a log -/

/-- A path leads to a base at which a file can be. -/
structure FileSystem.HasBase (fs : FileSystem) (path : String) (base : Place) : Prop where
  wellFormed : fs.WellFormed
  located : fs.locate ⟨path⟩ = .ok ⟨base, false⟩
  noDirectory : fs.kindAt base ≠ some .directory

/-- A step of a log at `base` has failed and changed nothing, or it has moved the log aside at most
once and added nothing to it. -/
inductive Settles {α : Type} (base : Place) (fs : FileSystem)
    (good : FileSystem → List Place → α → Prop) : FileSystem × Except Fault α → Prop where
  | failed (fault : Fault) : Settles base fs good (fs, .error fault)
  | done {fs' : FileSystem} {a : α} {moved : List Place}
      (hprogress : Progress base fs fs' moved []) (hlength : moved.length ≤ 1)
      (hgood : good fs' moved a) : Settles base fs good (fs', .ok a)

section

variable {fs fs' : FileSystem} {path : String} {base : Place}

/-- The base stays where it is. -/
theorem FileSystem.HasBase.of_progress (h : fs.HasBase path base) {moved : List Place}
    {added : Bytes} (hprogress : Progress base fs fs' moved added) : fs'.HasBase path base :=
  ⟨hprogress.wellFormed, FileSystem.locate_mono hprogress.directories h.located,
    hprogress.noDirectory⟩

/-- A log is not found when it has no file. -/
theorem FileSystem.HasBase.stat_eq_notFound_iff (h : fs.HasBase path base) :
    fs.stat ⟨path⟩ = .error .notFound ↔ fs.kindAt base = none := by
  rw [← FileSystem.entry?_eq_none_iff]
  cases hentry : fs.entry? base with
  | none => simp [FileSystem.stat, h.located, hentry]
  | some entry => cases entry <;> simp [FileSystem.stat, h.located, hentry]

/-- A log that is found has a file. -/
theorem FileSystem.HasBase.kindAt_of_stat (h : fs.HasBase path base) {entry : Entry}
    (hstat : fs.stat ⟨path⟩ = .ok entry) : ∃ number, fs.kindAt base = some (.file number) := by
  cases hkind : fs.kindAt base with
  | none =>
    rw [h.stat_eq_notFound_iff.mpr hkind] at hstat
    cases hstat
  | some kind =>
    cases kind with
    | directory => exact absurd hkind h.noDirectory
    | file number => exact ⟨number, rfl⟩

/-- What moving aside comes to. -/
theorem moveAside_cases (fs : FileSystem) (path target : String) (now : Moment) :
    (∃ fault, moveAside fs path target now = (fs, .error fault)) ∨
    (fs.stat ⟨path⟩ = .error .notFound ∧ moveAside fs path target now = (fs, .ok ())) ∨
    ∃ entry next, fs.stat ⟨path⟩ = .ok entry ∧
      fs.rename ⟨path⟩ ⟨freeTarget fs target now⟩ = .ok next ∧
      moveAside fs path target now = (next, .ok ()) := by
  unfold moveAside
  split
  · rename_i hstat
    exact .inr (.inl ⟨hstat, rfl⟩)
  · exact .inl ⟨_, rfl⟩
  · rename_i entry hstat
    split
    · rename_i next hrename
      exact .inr (.inr ⟨entry, next, hstat, hrename, rfl⟩)
    · exact .inl ⟨_, rfl⟩

/-- A step may have nothing to do. -/
theorem FileSystem.HasBase.settles_unchanged {α : Type} (h : fs.HasBase path base)
    {good : FileSystem → List Place → α → Prop} {a : α} (hgood : good fs [] a) :
    Settles base fs good (fs, .ok a) :=
  .done (.refl h.wellFormed h.noDirectory) (Nat.zero_le 1) hgood

/-- **Moving a log aside** leaves its base free. -/
theorem settles_moveAside (h : fs.HasBase path base) (day : Date) (now : Moment) :
    Settles base fs
      (fun fs' moved _ => fs'.kindAt base = none ∧ (fs.kindAt base = none → moved = []))
      (moveAside fs path (datedPath path day) now) := by
  obtain ⟨fault, hmove⟩ | ⟨hstat, hmove⟩ | ⟨entry, next, hstat, hrename, hmove⟩ :=
    moveAside_cases fs path (datedPath path day) now
  · rw [hmove]
    exact .failed fault
  · rw [hmove]
    exact h.settles_unchanged ⟨h.stat_eq_notFound_iff.mp hstat, fun _ => rfl⟩
  · rw [hmove]
    obtain ⟨number, hfile⟩ := h.kindAt_of_stat hstat
    obtain ⟨-, t, -, ht⟩ := FileSystem.exists_locate_of_rename hrename
    obtain ⟨parent, name, rfl, -⟩ := FileSystem.locate_eq_ok_iff.mp h.located
    obtain ⟨-, hfree⟩ := FileSystem.kindAt_freeTarget h.located day now ht
    have hmoves := FileSystem.moves_of_rename h.wellFormed h.located ht h.noDirectory hfree hrename
    have hparent := FileSystem.kindAt_dropLast_of_locate h.wellFormed ht
    have hne : parent ++ [name] ≠ t.place := by
      intro heq
      rw [heq, hfree] at hfile
      cases hfile
    refine .done (hmoves.progress h.wellFormed hfile hfree hparent) (Nat.le_refl 1) ⟨?_, ?_⟩
    · exact hmoves.kindAt_source hfree hne
    · intro hnone
      rw [hnone] at hfile
      cases hfile

/-- Moving a stale log aside moves nothing if there is no log. -/
theorem settles_moveStaleAside (h : fs.HasBase path base) (now : Moment) :
    Settles base fs (fun _ moved _ => fs.kindAt base = none → moved = [])
      (moveStaleAside fs path now) := by
  unfold moveStaleAside
  split
  · exact h.settles_unchanged fun _ => rfl
  · exact .failed _
  · split
    · exact h.settles_unchanged fun _ => rfl
    · rename_i modified _
      split
      · exact h.settles_unchanged fun _ => rfl
      · have hmove := settles_moveAside h modified.date now
        revert hmove
        generalize moveAside fs path (datedPath path modified.date) now = r
        rintro (⟨fault⟩ | ⟨hprogress, hlength, hgood⟩)
        · exact .failed fault
        · exact .done hprogress hlength hgood.2

theorem FileSystem.HasBase.openAppend_of_file (h : fs.HasBase path base) {number : Nat}
    (hfile : fs.kindAt base = some (.file number)) :
    fs.openAppend ⟨path⟩ = .ok (fs, number) := by
  simp [FileSystem.openAppend, h.located, FileSystem.entry?_eq_file_iff.mpr hfile]

theorem FileSystem.HasBase.openAppend_of_free (h : fs.HasBase path base)
    (hfree : fs.kindAt base = none) :
    fs.openAppend ⟨path⟩ = .ok (fs.create base ⟨[], fs.clock⟩, fs.files.length) := by
  simp [FileSystem.openAppend, h.located, FileSystem.entry?_eq_none_iff.mpr hfree]

/-- A base at which a file can be can be opened, and then the file is there. -/
theorem FileSystem.HasBase.exists_openAppend (h : fs.HasBase path base) :
    ∃ fs' number, fs.openAppend ⟨path⟩ = .ok (fs', number) ∧ Progress base fs fs' [] [] ∧
      fs'.kindAt base = some (.file number) := by
  cases hkind : fs.kindAt base with
  | none =>
    have hparent := FileSystem.kindAt_dropLast_of_locate h.wellFormed h.located
    refine ⟨_, _, h.openAppend_of_free hkind, ?_, ?_⟩
    · exact FileSystem.progress_create h.wellFormed hkind hparent fs.clock
    · rw [FileSystem.kindAt_create hkind, if_pos rfl]
  | some kind =>
    cases kind with
    | directory => exact absurd hkind h.noDirectory
    | file number =>
      exact ⟨_, _, h.openAppend_of_file hkind, .refl h.wellFormed h.noDirectory, hkind⟩

/-- **Opening a log for today** leaves a file at its base, and that is the one that is open. -/
theorem settles_openToday (h : fs.HasBase path base) (now : Moment) :
    Settles base fs
      (fun fs' moved active => fs'.kindAt base = some (.file active.number) ∧
        active.day = now.date ∧ (fs.kindAt base = none → moved = []))
      (openToday fs path now) := by
  have hstale := settles_moveStaleAside h now
  unfold openToday
  revert hstale
  generalize moveStaleAside fs path now = r
  rintro (⟨fault⟩ | ⟨hprogress, hlength, hgood⟩)
  · exact .failed fault
  · obtain ⟨opened, number, hopen, hopened, hfile⟩ := (h.of_progress hprogress).exists_openAppend
    have hwhole := hprogress.trans hopened
    rw [List.append_nil, List.append_nil] at hwhole
    simp only [hopen]
    exact .done hwhole hlength ⟨hfile, rfl, hgood⟩

end

/-! ## Writes -/

/-- What a write has added: the record, if it was accepted. -/
def acceptedOf (record : Bytes) : Except Fault Unit → List Bytes
  | .ok _ => [record]
  | .error _ => []

/-- The log of a sink is at a base, and the file that is open is the one there. -/
structure RotatingFile.Tracked (base : Place) (fs : FileSystem) (sink : RotatingFile) : Prop where
  hasBase : fs.HasBase sink.path base
  active : ∀ active, sink.active = some active → fs.kindAt base = some (.file active.number)

/-- A write has moved the log aside to `moved`, which is one place at most, has added the record if
it was accepted, and the log is tracked still. -/
structure Advances (base : Place) (fs : FileSystem) (sink : RotatingFile) (record : Bytes)
    (moved : List Place) (r : FileSystem × RotatingFile × Except Fault Unit) : Prop where
  progress : Progress base fs r.1 moved (acceptedOf record r.2.2).flatten
  length : moved.length ≤ 1
  path : r.2.1.path = sink.path
  tracked : r.2.1.Tracked base r.1

/-- A write after the log has been moved aside is a write. -/
theorem Advances.of_progress {base : Place} {fs fs' : FileSystem} {sink : RotatingFile}
    {moved moved' : List Place} {record : Bytes}
    {r : FileSystem × RotatingFile × Except Fault Unit} (hprogress : Progress base fs fs' moved [])
    (h : Advances base fs' sink record moved' r) (hlength : (moved ++ moved').length ≤ 1) :
    Advances base fs sink record (moved ++ moved') r where
  progress := hprogress.trans h.progress
  length := hlength
  path := h.path
  tracked := h.tracked

namespace RotatingFile

variable {base : Place} {fs : FileSystem} {sink : RotatingFile}

/-- A write that fails before anything is opened has changed nothing. -/
theorem advances_of_fault (h : fs.HasBase sink.path base) (record : Bytes) (fault : Fault) :
    Advances base fs sink record [] (fs, { sink with active := none }, .error fault) where
  progress := .refl h.wellFormed h.noDirectory
  length := Nat.zero_le 1
  path := rfl
  tracked := by
    refine ⟨h, ?_⟩
    rintro active hactive
    cases hactive

/-- Appending to the file at the base is a write. -/
theorem advances_append (h : fs.HasBase sink.path base) {active : ActiveFile}
    (hfile : fs.kindAt base = some (.file active.number)) (record : Bytes) :
    Advances base fs sink record []
      (fs.append active.number record, { sink with active := some active }, .ok ()) where
  progress := by
    rw [acceptedOf, List.flatten_singleton]
    exact FileSystem.progress_append h.wellFormed hfile record
  length := Nat.zero_le 1
  path := rfl
  tracked := by
    refine ⟨h.of_progress (FileSystem.progress_append h.wellFormed hfile record), ?_⟩
    rintro _ hactive
    rw [FileSystem.kindAt_append, hfile, ← Option.some.inj hactive]

theorem advances_reopenAndWrite (h : fs.HasBase sink.path base) (now : Moment) (record : Bytes) :
    ∃ moved, Advances base fs sink record moved (reopenAndWrite fs sink now record) ∧
      (fs.kindAt base = none → moved = []) := by
  have hopen := settles_openToday h now
  unfold reopenAndWrite
  revert hopen
  generalize openToday fs sink.path now = r
  rintro (⟨fault⟩ | ⟨hprogress, hlength, hfile, -, hfree⟩)
  · exact ⟨[], advances_of_fault h record fault, fun _ => rfl⟩
  · rename_i opened active moved
    have happend := advances_append (h.of_progress hprogress) hfile record
    refine ⟨moved ++ [], happend.of_progress hprogress ?_, ?_⟩
    · rwa [List.append_nil]
    · rwa [List.append_nil]

/-- **A write is a progress.** -/
theorem advances_write (h : sink.Tracked base fs) (now : Moment) (record : Bytes) :
    ∃ moved, Advances base fs sink record moved (write fs sink now record) := by
  unfold write
  cases hactive : sink.active with
  | none =>
    obtain ⟨moved, hadvances, -⟩ := advances_reopenAndWrite h.hasBase now record
    exact ⟨moved, hadvances⟩
  | some active =>
    have hfile := h.active active hactive
    by_cases hday : active.day = now.date
    · simp only [if_pos hday]
      have happend := advances_append h.hasBase hfile record
      rw [← hactive] at happend
      exact ⟨[], happend⟩
    · simp only [if_neg hday]
      have hmove := settles_moveAside h.hasBase active.day now
      revert hmove
      generalize moveAside fs sink.path (datedPath sink.path active.day) now = r
      rintro (⟨fault⟩ | ⟨hprogress, hlength, hfree, -⟩)
      · exact ⟨[], advances_of_fault h.hasBase record fault⟩
      · rename_i next _ moved
        obtain ⟨moved', hadvances, hnone⟩ :=
          advances_reopenAndWrite (h.hasBase.of_progress hprogress) now record
        refine ⟨moved ++ moved', hadvances.of_progress hprogress ?_⟩
        rwa [hnone hfree, List.append_nil]

end RotatingFile

/-! ## Histories -/

/-- An attempt to write: what the clock of the disk shows, what the clock of the program shows, and
the record. -/
structure Attempt where
  diskClock : Moment
  now : Moment
  record : Bytes

/-- What has become of a log: the disk, the sink, the places to which the log was moved aside, in
order, and the records that were accepted, in order. -/
structure History where
  fs : FileSystem
  sink : RotatingFile
  rotated : List Place
  accepted : List Bytes

namespace History

/-- The place of a log. -/
def base (history : History) : Place := (Path.mk history.sink.path).place

/-- The history of a log that has just been opened. -/
def start (before opened : FileSystem) (sink : RotatingFile) : History :=
  ⟨opened, sink, FileSystem.appeared (Path.mk sink.path).place before opened, []⟩

/-- The history of a log after one more attempt to write. -/
def after (history : History) (attempt : Attempt) : History :=
  let disk := history.fs.atClock attempt.diskClock
  let result := RotatingFile.write disk history.sink attempt.now attempt.record
  { fs := result.1
    sink := result.2.1
    rotated := history.rotated ++ FileSystem.appeared history.base disk result.1
    accepted := history.accepted ++ acceptedOf attempt.record result.2.2 }

/-- A history since a disk: a progress of that disk, with the log tracked. -/
structure Since (initial : FileSystem) (base : Place) (history : History) : Prop where
  progress : Progress base initial history.fs history.rotated history.accepted.flatten
  tracked : history.sink.Tracked base history.fs

theorem base_of_tracked {base : Place} {history : History}
    (h : history.sink.Tracked base history.fs) : history.base = base :=
  (FileSystem.place_of_locate h.hasBase.located).symm

/-- One more attempt continues a history. -/
theorem Since.after {initial : FileSystem} {base : Place} {history : History}
    (h : history.Since initial base) (attempt : Attempt) :
    (history.after attempt).Since initial base := by
  have hclock := FileSystem.progress_atClock h.progress.wellFormed h.progress.noDirectory
    attempt.diskClock
  have htracked : history.sink.Tracked base (history.fs.atClock attempt.diskClock) :=
    ⟨h.tracked.hasBase.of_progress hclock, h.tracked.active⟩
  obtain ⟨moved, hadvances⟩ := RotatingFile.advances_write htracked attempt.now attempt.record
  have hrotated : (history.after attempt).rotated = history.rotated ++ moved := by
    rw [History.after, base_of_tracked h.tracked, hadvances.progress.appeared_eq hadvances.length]
  have hwhole := h.progress.trans (hclock.trans hadvances.progress)
  rw [List.nil_append, List.nil_append, ← List.flatten_append, ← hrotated] at hwhole
  exact ⟨hwhole, hadvances.tracked⟩

/-- Any number of attempts continues a history. -/
theorem Since.foldl_after {initial : FileSystem} {base : Place} {history : History}
    (h : history.Since initial base) (attempts : List Attempt) :
    (attempts.foldl History.after history).Since initial base := by
  induction attempts generalizing history with
  | nil => exact h
  | cons attempt rest ih => exact ih (h.after attempt)

/-! ## Opening -/

/-- What can be opened is led to, and it is no directory. -/
theorem exists_locate_of_openAppend {fs opened : FileSystem} {path : Path} {number : Nat}
    (h : fs.openAppend path = .ok (opened, number)) :
    fs.locate path = .ok ⟨path.place, false⟩ ∧ fs.kindAt path.place ≠ some .directory := by
  unfold FileSystem.openAppend at h
  cases hlocate : fs.locate path with
  | error fault =>
    rw [hlocate] at h
    cases h
  | ok target =>
    obtain ⟨place, directory⟩ := target
    obtain rfl : place = path.place := FileSystem.place_of_locate hlocate
    simp only [hlocate] at h
    cases directory with
    | true => cases h
    | false =>
      refine ⟨rfl, fun hkind => ?_⟩
      obtain ⟨modified, hentry⟩ := FileSystem.exists_entry?_eq_directory_iff.mpr hkind
      simp only [hentry] at h
      cases h

end History

/-- Ten o'clock on one of the first days of May. -/
def morning (day : Fin 9) : Moment :=
  ⟨⟨2024, 5, day + 1, by unfold Calendar.Exists; decide +revert⟩, 10, 0, 0⟩

/-- A disk with a log that was written to on the first of May, and with a file under the name that
the log would be moved to. -/
def crowdedDisk : FileSystem where
  entries := [
    ([], .directory (morning 0)),
    (["gw.log"], .file 0),
    (["gw.log.2024-05-01"], .file 1)]
  files := [⟨[1, 2], morning 0⟩, ⟨[7], morning 0⟩]
  clock := morning 1

end GuardedGateway.Storage
