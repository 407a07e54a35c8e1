import GuardedGateway.Proofs.Storage.Rotation

/-!
# What opening and writing come to

A log that is opened goes on with the file at its base, begins one, or lays what is there aside
first (`Opens`).  A log that is written to takes the record into the file that is open, or lays that
file aside and begins another (`Writes`).  These are all the ways in which an opening and a write
succeed, with everything that they do to the disk, so an invariant of a log is checked on them and
nothing is unfolded again.

What is laid aside stands at one other place, which was free and is named after a day, and the base
is free for a new file (`LaidAside`).  The base may have been a directory when the log was opened;
then it is the directory that was laid aside.
-/

namespace GuardedGateway.Storage

open Calendar (Date Moment)

/-! ## Laying a log aside -/

namespace FileSystem

/-- When what is at a place was changed last. -/
def modifiedAt? (fs : FileSystem) (place : Place) : Option Moment :=
  (fs.entry? place).bind fs.modified?

variable {fs : FileSystem} {path : Path} {place : Place}

/-- What a path leads to stands at its place. -/
theorem stat_eq_ok_iff (h : fs.locate path = .ok ⟨place, false⟩) {entry : Entry} :
    fs.stat path = .ok entry ↔ fs.entry? place = some entry := by
  cases hentry : fs.entry? place with
  | none => simp [stat, h, hentry]
  | some e => cases e <;> simp [stat, h, hentry]

/-- The last change of a file is known. -/
theorem exists_modifiedAt?_of_file (hfs : fs.WellFormed) {number : Nat}
    (h : fs.kindAt place = some (.file number)) :
    ∃ modified, fs.modifiedAt? place = some modified := by
  have hlt := hfs.numbered place number h
  refine ⟨fs.files[number].modified, ?_⟩
  rw [modifiedAt?, entry?_eq_file_iff.mpr h, Option.bind_some, modified?,
    List.getElem?_eq_getElem hlt, Option.map_some]

theorem modifiedAt?_of_free (h : fs.kindAt place = none) : fs.modifiedAt? place = none := by
  rw [modifiedAt?, entry?_eq_none_iff.mpr h, Option.bind_none]

end FileSystem

/-- Whether a file that is moved aside at a moment is named after a day: its name is that of the
path with the day behind it, or with the time as well, or with a number as well. -/
def NamedAfter (path : String) (day : Date) (now : Moment) (place : Place) : Prop :=
  ∃ n, place = (Path.mk (candidate (datedPath path day) now n)).place

/-- A file is moved aside to the first candidate that is free, so to a candidate. -/
theorem exists_freeTarget_eq_candidate (fs : FileSystem) (target : String) (now : Moment) :
    ∃ n, freeTarget fs target now = candidate target now n := by
  unfold freeTarget
  cases hfound : firstFree (fun name => fs.isThere ⟨name⟩) target now (fs.entries.length + 1) with
  | none => exact ⟨0, rfl⟩
  | some name =>
    obtain ⟨-, n, -, hname⟩ := exists_candidate_of_firstFree hfound
    exact ⟨n, hname.symm⟩

/-- What the base of a log comes to when its file is moved aside: it is free, and the file stands at
another place, which was free before and is named after a day. -/
structure LaidAside (path : String) (day : Date) (now : Moment) (fs next : FileSystem)
    (target : Place) : Prop where
  wellFormed : next.WellFormed
  files : next.files = fs.files
  free : fs.kindAt target = none
  gone : next.kindAt (Path.mk path).place = none
  parent : fs.kindAt target.dropLast = some .directory
  named : NamedAfter path day now target
  moves : fs.kindAt (Path.mk path).place ≠ some .directory →
    FileSystem.Moves (Path.mk path).place target fs next

section

variable {fs next opened : FileSystem} {path : String} {day : Date} {now : Moment}

/-- What is laid aside goes to another place. -/
theorem LaidAside.target_ne {target : Place} (h : LaidAside path day now fs next target)
    {kind : Kind} (hthere : fs.kindAt (Path.mk path).place = some kind) :
    target ≠ (Path.mk path).place := by
  intro heq
  have hfree := h.free
  rw [heq, hthere] at hfree
  cases hfree

/-- **Renaming to a free name lays a log aside.** -/
theorem exists_laidAside_of_rename (hfs : fs.WellFormed)
    (hpath : fs.locate ⟨path⟩ = .ok ⟨(Path.mk path).place, false⟩)
    (hthere : (fs.kindAt (Path.mk path).place).isSome)
    (h : fs.rename ⟨path⟩ ⟨freeTarget fs (datedPath path day) now⟩ = .ok next) :
    ∃ target, LaidAside path day now fs next target := by
  obtain ⟨-, t, -, ht⟩ := FileSystem.exists_locate_of_rename h
  obtain ⟨parent, name, hplace, -⟩ := FileSystem.locate_eq_ok_iff.mp hpath
  have hbeside := hpath
  rw [hplace] at hbeside
  obtain ⟨-, hfree⟩ := FileSystem.kindAt_freeTarget hbeside day now ht
  have hparent := FileSystem.kindAt_dropLast_of_locate hfs ht
  obtain ⟨n, hn⟩ := exists_freeTarget_eq_candidate fs (datedPath path day) now
  refine ⟨t.place, ?_⟩
  exact {
    wellFormed := FileSystem.wellFormed_of_rename hfs hpath ht hfree hparent h
    files := (FileSystem.kinds_rename hpath ht h).1
    free := hfree
    gone := FileSystem.kindAt_source_of_rename hfs hpath ht hthere hfree h
    parent := hparent
    named := ⟨n, by rw [FileSystem.place_of_locate ht, hn]⟩
    moves := fun hbase => FileSystem.moves_of_rename hfs hpath ht hbase hfree h }

/-! ## Opening -/

/-- How a log is opened for a day: the file that is there was changed on that day, or there is none,
or what is there was changed on another day and is moved aside. -/
inductive Opens (path : String) (now : Moment) (fs : FileSystem) :
    FileSystem → ActiveFile → Prop where
  | goesOn {number : Nat} {modified : Moment}
      (hfile : fs.kindAt (Path.mk path).place = some (.file number))
      (hmodified : fs.modifiedAt? (Path.mk path).place = some modified)
      (htoday : modified.date = now.date) : Opens path now fs fs ⟨number, now.date⟩
  | begins (hfree : fs.kindAt (Path.mk path).place = none) :
      Opens path now fs (fs.create (Path.mk path).place ⟨[], fs.clock⟩)
        ⟨fs.files.length, now.date⟩
  | replaces {modified : Moment} {next : FileSystem} {target : Place}
      (hmodified : fs.modifiedAt? (Path.mk path).place = some modified)
      (hother : modified.date ≠ now.date)
      (haside : LaidAside path modified.date now fs next target) :
      Opens path now fs (next.create (Path.mk path).place ⟨[], next.clock⟩)
        ⟨next.files.length, now.date⟩

/-- What moving a stale log aside comes to when it succeeds. -/
theorem moveStaleAside_cases (h : moveStaleAside fs path now = (next, .ok ())) :
    (fs.stat ⟨path⟩ = .error .notFound ∧ next = fs) ∨
    ∃ entry, fs.stat ⟨path⟩ = .ok entry ∧
      ((next = fs ∧ ∀ modified ∈ fs.modified? entry, modified.date = now.date) ∨
      ∃ modified ∈ fs.modified? entry, modified.date ≠ now.date ∧
        fs.rename ⟨path⟩ ⟨freeTarget fs (datedPath path modified.date) now⟩ = .ok next) := by
  unfold moveStaleAside at h
  split at h
  · rename_i hstat
    cases h
    exact .inl ⟨hstat, rfl⟩
  · cases congrArg Prod.snd h
  · rename_i entry hstat
    refine .inr ⟨entry, hstat, ?_⟩
    split at h
    · rename_i hmodified
      cases h
      exact .inl ⟨rfl, fun modified hmem => by rw [hmodified] at hmem; cases hmem⟩
    · rename_i modified hmodified
      split at h
      · rename_i htoday
        cases h
        refine .inl ⟨rfl, fun modified' hmem => ?_⟩
        rw [hmodified] at hmem
        rwa [← Option.some.inj hmem]
      · rename_i hother
        obtain ⟨fault, hmove⟩ | ⟨hmissing, -⟩ | ⟨-, moved, -, hrename, hmove⟩ :=
          moveAside_cases fs path (datedPath path modified.date) now
        · rw [hmove] at h
          cases congrArg Prod.snd h
        · rw [hstat] at hmissing
          cases hmissing
        · rw [hmove] at h
          cases h
          exact .inr ⟨modified, hmodified, hother, hrename⟩

/-- A log has its file at its base once that has been opened. -/
theorem tracked_of_openAppend (h : fs.HasBase path (Path.mk path).place) {number : Nat}
    (happend : fs.openAppend ⟨path⟩ = .ok (opened, number)) (day : Date) :
    RotatingFile.Tracked (Path.mk path).place opened ⟨path, some ⟨number, day⟩⟩ := by
  obtain ⟨opened', number', hopen, hprogress, hfile⟩ := h.exists_openAppend
  rw [hopen] at happend
  cases happend
  refine ⟨h.of_progress hprogress, ?_⟩
  rintro active hactive
  rw [← Option.some.inj hactive]
  exact hfile

/-- **What opening a log for today comes to**, when it succeeds. -/
theorem opens_of_openToday {active : ActiveFile} (hfs : fs.WellFormed)
    (h : openToday fs path now = (opened, .ok active)) :
    RotatingFile.Tracked (Path.mk path).place opened ⟨path, some active⟩ ∧
      Opens path now fs opened active := by
  unfold openToday at h
  cases hstale : moveStaleAside fs path now with
  | mk next outcome =>
    rw [hstale] at h
    cases outcome with
    | error fault => cases congrArg Prod.snd h
    | ok =>
      cases happend : next.openAppend ⟨path⟩ with
      | error fault =>
        simp only [happend] at h
        cases congrArg Prod.snd h
      | ok result =>
        simp only [happend] at h
        cases h
        obtain ⟨hnext, hkind⟩ := History.exists_locate_of_openAppend happend
        obtain ⟨hmissing, rfl⟩ | ⟨entry, hstat, hmoved⟩ := moveStaleAside_cases hstale
        · have hbase : next.HasBase path (Path.mk path).place := ⟨hfs, hnext, hkind⟩
          refine ⟨tracked_of_openAppend hbase happend now.date, ?_⟩
          have hfree := hbase.stat_eq_notFound_iff.mp hmissing
          rw [hbase.openAppend_of_free hfree] at happend
          cases happend
          exact .begins hfree
        obtain ⟨rfl, htoday⟩ | ⟨modified, hmodified, hother, hrename⟩ := hmoved
        · have hbase : next.HasBase path (Path.mk path).place := ⟨hfs, hnext, hkind⟩
          refine ⟨tracked_of_openAppend hbase happend now.date, ?_⟩
          obtain ⟨number', hfile⟩ := hbase.kindAt_of_stat hstat
          rw [hbase.openAppend_of_file hfile] at happend
          cases happend
          obtain ⟨modified, hmodified⟩ := FileSystem.exists_modifiedAt?_of_file hfs hfile
          have hentry := (FileSystem.stat_eq_ok_iff hnext).mp hstat
          have hknown := hmodified
          rw [FileSystem.modifiedAt?, hentry, Option.bind_some] at hknown
          exact .goesOn hfile hmodified (htoday modified hknown)
        · obtain ⟨s, -, hs, -⟩ := FileSystem.exists_locate_of_rename hrename
          obtain rfl := FileSystem.locate_unique hs hnext
          have hentry := (FileSystem.stat_eq_ok_iff hs).mp hstat
          have hthere : (fs.kindAt (Path.mk path).place).isSome := by
            rw [← FileSystem.map_kind_entry?, hentry]
            rfl
          obtain ⟨target, haside⟩ := exists_laidAside_of_rename hfs hs hthere hrename
          have hbase : next.HasBase path (Path.mk path).place := ⟨haside.wellFormed, hnext, hkind⟩
          refine ⟨tracked_of_openAppend hbase happend now.date, ?_⟩
          rw [hbase.openAppend_of_free haside.gone] at happend
          cases happend
          refine .replaces ?_ hother haside
          rw [FileSystem.modifiedAt?, hentry, Option.bind_some]
          exact hmodified

/-! ## Writing -/

/-- A log that is open and has its file is laid aside when it is moved aside. -/
theorem exists_laidAside_of_moveAside (h : fs.HasBase path (Path.mk path).place) {number : Nat}
    (hfile : fs.kindAt (Path.mk path).place = some (.file number))
    (hmove : moveAside fs path (datedPath path day) now = (next, .ok ())) :
    ∃ target, LaidAside path day now fs next target := by
  obtain ⟨fault, hfailed⟩ | ⟨hmissing, -⟩ | ⟨-, moved, -, hrename, hmoved⟩ :=
    moveAside_cases fs path (datedPath path day) now
  · rw [hmove] at hfailed
    cases congrArg Prod.snd hfailed
  · rw [h.stat_eq_notFound_iff, hfile] at hmissing
    cases hmissing
  · rw [hmove] at hmoved
    cases hmoved
    exact exists_laidAside_of_rename h.wellFormed h.located (by rw [hfile]; rfl) hrename

/-- What a write to a log comes to that is open for a day: the record is appended to the file that
is there, or on another day that file is laid aside and the record stands alone in a new one. -/
inductive Writes (path : String) (now : Moment) (record : Bytes) (fs : FileSystem)
    (active : ActiveFile) : FileSystem → ActiveFile → List Place → Prop where
  | appends (hday : active.day = now.date) :
      Writes path now record fs active (fs.append active.number record) active []
  | rotates {next : FileSystem} {target : Place} (hday : active.day ≠ now.date)
      (haside : LaidAside path active.day now fs next target) :
      Writes path now record fs active
        ((next.create (Path.mk path).place ⟨[], next.clock⟩).append next.files.length record)
        ⟨next.files.length, now.date⟩ [target]

/-- **What a write comes to**, when it succeeds. -/
theorem writes_of_write {sink sink' : RotatingFile} {active : ActiveFile} {record : Bytes}
    {written : FileSystem} (h : sink.Tracked (Path.mk sink.path).place fs)
    (hactive : sink.active = some active)
    (hwrite : RotatingFile.write fs sink now record = (written, sink', .ok ())) :
    ∃ active' moved, sink' = ⟨sink.path, some active'⟩ ∧
      Writes sink.path now record fs active written active' moved := by
  have hfile := h.active active hactive
  unfold RotatingFile.write at hwrite
  simp only [hactive] at hwrite
  by_cases hday : active.day = now.date
  · rw [if_pos hday] at hwrite
    cases hwrite
    obtain ⟨path, active'⟩ := sink
    obtain rfl : active' = some active := hactive
    exact ⟨active, [], rfl, .appends hday⟩
  · rw [if_neg hday] at hwrite
    cases hmove : moveAside fs sink.path (datedPath sink.path active.day) now with
    | mk next outcome =>
      simp only [hmove] at hwrite
      cases outcome with
      | error fault => cases congrArg (fun r => r.2.2) hwrite
      | ok =>
        obtain ⟨target, haside⟩ := exists_laidAside_of_moveAside h.hasBase hfile hmove
        simp only [RotatingFile.reopenAndWrite] at hwrite
        cases hopen : openToday next sink.path now with
        | mk opened result =>
          simp only [hopen] at hwrite
          cases result with
          | error fault => cases congrArg (fun r => r.2.2) hwrite
          | ok active' =>
            cases hwrite
            refine ⟨active', [target], rfl, ?_⟩
            -- the base is free, so a new file is begun
            cases (opens_of_openToday haside.wellFormed hopen).2 with
            | goesOn hthere =>
              rw [haside.gone] at hthere
              cases hthere
            | begins => exact .rotates hday haside
            | replaces hmodified =>
              rw [FileSystem.modifiedAt?_of_free haside.gone] at hmodified
              cases hmodified

end

section

variable {fs next : FileSystem} {path : String} {now : Moment} {record : Bytes}
  {active active' : ActiveFile} {moved : List Place}

theorem Writes.length_le (hwrites : Writes path now record fs active next active' moved) :
    moved.length ≤ 1 := by
  cases hwrites with
  | appends => exact Nat.zero_le 1
  | rotates => exact Nat.le_refl 1

/-- After a write a log is open for the day of the write. -/
theorem Writes.day (hwrites : Writes path now record fs active next active' moved) :
    active'.day = now.date := by
  cases hwrites with
  | appends hday => exact hday
  | rotates => rfl

/-- No file is lost. -/
theorem Writes.length_files_le (hwrites : Writes path now record fs active next active' moved) :
    fs.files.length ≤ next.files.length := by
  cases hwrites with
  | appends => exact Nat.le_of_eq (FileSystem.length_files_append ..).symm
  | rotates hday haside =>
    rw [FileSystem.length_files_append, FileSystem.create, List.length_append, haside.files]
    exact Nat.le_add_right _ _

/-- A write is a progress of the disk. -/
theorem progress_of_writes (hwrites : Writes path now record fs active next active' moved)
    (hfs : fs.WellFormed) (hfile : fs.kindAt (Path.mk path).place = some (.file active.number)) :
    FileSystem.Progress (Path.mk path).place fs next moved record := by
  cases hwrites with
  | appends => exact FileSystem.progress_append hfs hfile record
  | @rotates between target hday haside =>
    have hmoves := haside.moves (by rw [hfile]; exact nofun)
    have haway := hmoves.progress hfs hfile haside.free haside.parent
    have hparent := hfs.parent (Path.mk path).place (by rw [hfile]; rfl)
    have hbegun := FileSystem.progress_create haside.wellFormed haside.gone
      (haway.directories _ hparent) between.clock
    have hnumber : (between.create (Path.mk path).place ⟨[], between.clock⟩).kindAt
        (Path.mk path).place = some (.file between.files.length) := by
      rw [FileSystem.kindAt_create haside.gone, if_pos rfl]
    exact haway.trans (hbegun.trans (FileSystem.progress_append hbegun.wellFormed hnumber record))

end

end GuardedGateway.Storage
