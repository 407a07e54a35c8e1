import GuardedGateway.Proofs.Storage.DayNames
import GuardedGateway.Proofs.Storage.Days
import Mathlib.Algebra.Group.Nat.Defs
import Mathlib.Data.Finset.Card
import Mathlib.Data.Nat.Find
import Mathlib.Logic.Function.Iterate

/-!
# The search for a free name ends

To move a file aside, names are tried one after another until one is free: the name for the day,
the same with the time, and then the same with a number.  Nothing limits the search from outside,
and the number is counted in 32 bits.  So two things could go wrong: it could go on for ever, and
the counter could come to its end.

`Search.step` is one round of it.  As long as the counter has not come to its end, the rounds try
the candidates in order (`step_trying`), so the search stops at the first one that is free, when
there is one (`finds_of_isFirstFree`).  There is one among the first few, because the candidates
are all different and only so many names are taken.

## What the answer is for

The name that is found leads to a free place, so what is moved there takes the place of nothing
(`replacesNothing_moveAside`).  From this follows what the search is for: whatever is done to a log,
the files beside it stay as they are, those among them that were laid aside earlier
(`History.Beside.foldl_after`).
-/

namespace GuardedGateway.Storage

open Calendar (Date Moment)

/-! ## The search -/

/-- Where a search for a free name stands: which name is tried next, or which has been found. -/
inductive Search where
  | plain
  | timed
  | numbered (n : UInt32)
  | found (name : String)
  deriving DecidableEq, Repr

/-- The candidate with a number is the first that is free. -/
structure IsFirstFree (taken : String → Bool) (target : String) (now : Moment) (n : Nat) :
    Prop where
  free : taken (candidate target now n) = false
  before : ∀ m < n, taken (candidate target now m) = true

namespace Search

/-- One round of a search.  A counter at its end begins again. -/
def step (taken : String → Bool) (target : String) (now : Moment) : Search → Search
  | plain => if taken target then timed else found target
  | timed =>
    let name := target ++ "-" ++ now.clockText
    if taken name then numbered 1 else found name
  | numbered n =>
    let name := target ++ "-" ++ now.clockText ++ "-" ++ toString n
    if taken name then numbered (n + 1) else found name
  | found name => found name

/-- Where a search stands after some rounds. -/
def after (taken : String → Bool) (target : String) (now : Moment) (rounds : Nat) : Search :=
  (step taken target now)^[rounds] plain

/-- A search ends with the candidate with some number, which is the first that is free: it stands
still once that has been tried, and the counter never comes to its end. -/
structure Finds (taken : String → Bool) (target : String) (now : Moment) (n : Nat) : Prop extends
    IsFirstFree taken target now n where
  ends : ∀ rounds, n < rounds → after taken target now rounds = found (candidate target now n)
  counts : ∀ rounds m, after taken target now rounds = numbered m → m.toNat + 1 < 2 ^ 32

/-- Where a search stands that is about to try the candidate with a number. -/
def trying : Nat → Search
  | 0 => plain
  | 1 => timed
  | n + 2 => numbered (UInt32.ofNat (n + 1))

section

variable {taken : String → Bool} {target : String} {now : Moment} {n : Nat}

theorem after_succ (taken : String → Bool) (target : String) (now : Moment) (rounds : Nat) :
    after taken target now (rounds + 1) = step taken target now (after taken target now rounds) :=
  Function.iterate_succ_apply' _ _ _

/-- **A round tries one candidate**, as long as its number can be counted. -/
theorem step_trying {k : Nat} (hk : k ≤ 2 ^ 32) :
    step taken target now (trying k) =
      if taken (candidate target now k) then trying (k + 1)
      else found (candidate target now k) := by
  match k with
  | 0 => rfl
  | 1 => rfl
  | k + 2 =>
    -- The counter is one behind the number of the candidate, so that it still fits.
    have hcount : (UInt32.ofNat (k + 1)).toNat = k + 1 := by
      rw [UInt32.toNat_ofNat']
      exact Nat.mod_eq_of_lt (by omega)
    have htext : toString (UInt32.ofNat (k + 1)) = toString (k + 1) := congrArg toString hcount
    have hnext : UInt32.ofNat (k + 1) + 1 = UInt32.ofNat (k + 1 + 1) :=
      (UInt32.ofNat_add (k + 1) 1).symm
    simp only [trying, step, candidate, htext, hnext]
    rfl

/-- Up to the first that is free, the rounds try the candidates in order. -/
theorem after_of_le (h : IsFirstFree taken target now n) (hn : n ≤ 2 ^ 32) {k : Nat} (hk : k ≤ n) :
    after taken target now k = trying k := by
  induction k with
  | zero => rfl
  | succ k ih =>
    rw [after_succ, ih (Nat.le_of_succ_le hk), step_trying (by omega), if_pos (h.before k hk)]

/-- Then the search stands still. -/
theorem after_of_lt (h : IsFirstFree taken target now n) (hn : n ≤ 2 ^ 32) {k : Nat} (hk : n < k) :
    after taken target now k = found (candidate target now n) := by
  have hfound : after taken target now (n + 1) = found (candidate target now n) := by
    rw [after_succ, after_of_le h hn (Nat.le_refl n), step_trying hn, h.free]
    rfl
  induction k, hk using Nat.le_induction with
  | base => exact hfound
  | succ k _ ih => rw [after_succ, ih, step]

/-- **A search finds the first candidate that is free**, if its number can be counted. -/
theorem finds_of_isFirstFree (h : IsFirstFree taken target now n) (hn : n < 2 ^ 32 - 1) :
    Finds taken target now n where
  toIsFirstFree := h
  ends _ hrounds := after_of_lt h (by omega) hrounds
  counts rounds m hm := by
    obtain hlt | hle := Nat.lt_or_ge n rounds
    · rw [after_of_lt h (by omega) hlt] at hm
      cases hm
    · rw [after_of_le h (by omega) hle] at hm
      match rounds with
      | 0 => cases hm
      | 1 => cases hm
      | k + 2 =>
        rw [← numbered.inj hm, UInt32.toNat_ofNat', Nat.mod_eq_of_lt (by omega)]
        omega

end

end Search

/-! ## There is a free name -/

section

variable {taken : String → Bool} {target : String} {now : Moment}

/-- If one of the first candidates is free, there is a first one. -/
theorem exists_isFirstFree {bound : Nat} (h : ∃ n ≤ bound, taken (candidate target now n) = false) :
    ∃ n ≤ bound, IsFirstFree taken target now n := by
  obtain ⟨m, hm, hfree⟩ := h
  have hsome : ∃ n, taken (candidate target now n) = false := ⟨m, hfree⟩
  refine ⟨Nat.find hsome, (Nat.find_min' hsome hfree).trans hm, Nat.find_spec hsome, ?_⟩
  intro k hk
  exact Bool.not_eq_false _ ▸ Nat.find_min hsome hk

/-- Among one candidate more than there are names one is not among them. -/
theorem exists_candidate_notMem (names : Finset String) (target : String) (now : Moment) :
    ∃ n ≤ names.card, candidate target now n ∉ names := by
  let candidates : Finset String :=
    (Finset.range (names.card + 1)).map ⟨candidate target now, candidate_injective target now⟩
  have hcard : names.card < candidates.card := by
    rw [Finset.card_map, Finset.card_range]
    exact Nat.lt_succ_self _
  obtain ⟨name, hmem, hfree⟩ := Finset.exists_mem_notMem_of_card_lt_card hcard
  obtain ⟨n, hn, rfl⟩ := Finset.mem_map.mp hmem
  exact ⟨n, Nat.lt_succ_iff.mp (Finset.mem_range.mp hn), hfree⟩

/-- **A search ends, whatever names are taken**, if they are not too many. -/
theorem exists_finds_of_card {names : Finset String} (h : names.card < 2 ^ 32 - 1)
    (target : String) (now : Moment) :
    ∃ n, Search.Finds (fun name => decide (name ∈ names)) target now n := by
  obtain ⟨n, hn, hfree⟩ := exists_candidate_notMem names target now
  obtain ⟨n, hn, hfirst⟩ :
      ∃ n ≤ names.card, IsFirstFree (fun name => decide (name ∈ names)) target now n :=
    exists_isFirstFree ⟨n, hn, decide_eq_false hfree⟩
  exact ⟨n, Search.finds_of_isFirstFree hfirst (hn.trans_lt h)⟩

/-- What is found among some candidates is the first that is free. -/
theorem firstFree_eq_some_iff {count : Nat} {name : String} :
    firstFree taken target now count = some name ↔
      ∃ n < count, IsFirstFree taken target now n ∧ candidate target now n = name := by
  rw [firstFree, List.find?_map, Option.map_eq_some_iff]
  refine exists_congr fun n => ?_
  rw [List.find?_range_eq_some, List.mem_range]
  constructor
  · rintro ⟨⟨hfree, hn, hbefore⟩, hname⟩
    exact ⟨hn, ⟨by simpa using hfree, fun m hm => by simpa using hbefore m hm⟩, hname⟩
  · rintro ⟨hn, ⟨hfree, hbefore⟩, hname⟩
    exact ⟨⟨by simpa using hfree, hn, fun m hm => by simpa using hbefore m hm⟩, hname⟩

/-- **A search ends, whatever is on a disk**, if that is not too much, and what it finds is the name
that a file is moved to. -/
theorem exists_finds_freeTarget {fs : FileSystem} (h : fs.entries.length < 2 ^ 32 - 1)
    (target : String) (now : Moment) :
    ∃ n, Search.Finds (fun name => fs.isThere ⟨name⟩) target now n ∧
      freeTarget fs target now = candidate target now n := by
  obtain ⟨found, hfound⟩ := FileSystem.exists_firstFree fs target now
  obtain ⟨n, hn, hfirst, hname⟩ := firstFree_eq_some_iff.mp hfound
  refine ⟨n, Search.finds_of_isFirstFree hfirst (by omega), ?_⟩
  rw [freeTarget, hfound, Option.getD_some, hname]

end

/-! ## Nothing is replaced -/

/-- A disk on which what was at one place, and behind it, has been moved to another place: that was
free, and everything is on the disk still. -/
structure ReplacesNothing (source target : Place) (fs fs' : FileSystem) : Prop where
  wellFormed : fs'.WellFormed
  free : fs.kindAt target = none
  files : fs'.files = fs.files
  kindAt : ∀ place kind, fs.kindAt place = some kind →
    fs'.kindAt (FileSystem.moved source target place) = some kind

section

variable {fs : FileSystem}

/-- Renaming to a free place replaces nothing. -/
theorem replacesNothing_of_rename (hfs : fs.WellFormed) {source target : Path}
    {t : FileSystem.Target} (ht : fs.locate target = .ok t) (hfree : fs.kindAt t.place = none)
    {next : FileSystem} (h : fs.rename source target = .ok next) :
    ReplacesNothing source.place target.place fs next := by
  obtain ⟨s, _, hs, -⟩ := FileSystem.exists_locate_of_rename h
  have hparent := FileSystem.kindAt_dropLast_of_locate hfs ht
  have hnext := FileSystem.wellFormed_of_rename hfs hs ht hfree hparent h
  obtain ⟨hfiles, hkinds⟩ := FileSystem.kinds_rename hs ht h
  rw [hfs.filter_not_isPrefixOf_of_free hfree] at hkinds
  rw [← FileSystem.place_of_locate hs, ← FileSystem.place_of_locate ht]
  refine ⟨hnext, hfree, hfiles, fun place kind hplace => ?_⟩
  have hmem : (FileSystem.moved s.place t.place place, kind) ∈ next.kinds := by
    rw [hkinds]
    exact List.mem_map.mpr ⟨_, FileSystem.mem_kinds_of_kindAt hplace, rfl⟩
  exact hnext.kindAt_of_mem hmem

/-- **Moving aside replaces nothing**, whatever is moved and whatever it is named after. -/
theorem replacesNothing_moveAside (hfs : fs.WellFormed) (source other : String) (day : Date)
    (now : Moment) :
    let target := datedPath other day
    let next := (moveAside fs source target now).1
    next = fs ∨ ReplacesNothing (Path.mk source).place (Path.mk (freeTarget fs target now)).place fs
      next := by
  intro target next
  obtain ⟨fault, hmove⟩ | ⟨-, hmove⟩ | ⟨-, renamed, -, hrename, hmove⟩ :=
    moveAside_cases fs source target now
  · exact .inl (congrArg Prod.fst hmove)
  · exact .inl (congrArg Prod.fst hmove)
  · obtain ⟨-, t, -, ht⟩ := FileSystem.exists_locate_of_rename hrename
    have hnext : next = renamed := congrArg Prod.fst hmove
    rw [hnext]
    have hfree := FileSystem.kindAt_of_locate_freeTarget ht
    exact .inr (replacesNothing_of_rename hfs ht hfree hrename)

end

/-! ## Other files stay -/

/-- Files that are neither at a place nor behind it keep their place and their content. -/
structure KeepsOthers (base : Place) (fs fs' : FileSystem) : Prop where
  wellFormed : fs'.WellFormed
  kept : ∀ place content, base.isPrefixOf place = false → fs.fileAt? place = some content →
    fs'.fileAt? place = some content

section

variable {fs fs' fs'' : FileSystem} {base : Place} {path : String}

theorem KeepsOthers.refl (hfs : fs.WellFormed) : KeepsOthers base fs fs :=
  ⟨hfs, fun _ _ _ h => h⟩

theorem KeepsOthers.trans (h : KeepsOthers base fs fs') (h' : KeepsOthers base fs' fs'') :
    KeepsOthers base fs fs'' :=
  ⟨h'.wellFormed, fun p content hp hfile => h'.kept p content hp (h.kept p content hp hfile)⟩

theorem ReplacesNothing.keepsOthers {target : Place} (h : ReplacesNothing base target fs fs') :
    KeepsOthers base fs fs' := by
  refine ⟨h.wellFormed, fun place content hplace hfile => ?_⟩
  obtain ⟨number, hkind, rfl⟩ := FileSystem.fileAt?_eq_some_iff.mp hfile
  have hsame := h.kindAt place _ hkind
  rw [FileSystem.moved_of_not_isPrefixOf hplace] at hsame
  rw [FileSystem.fileAt?_of_kindAt hsame, FileSystem.content_congr h.files]

theorem keepsOthers_moveAside (hfs : fs.WellFormed) (path other : String) (day : Date)
    (now : Moment) :
    KeepsOthers (Path.mk path).place fs (moveAside fs path (datedPath other day) now).1 := by
  obtain heq | hmoved := replacesNothing_moveAside hfs path other day now
  · rw [heq]
    exact .refl hfs
  · exact hmoved.keepsOthers

theorem keepsOthers_moveStaleAside (hfs : fs.WellFormed) (path : String) (now : Moment) :
    KeepsOthers (Path.mk path).place fs (moveStaleAside fs path now).1 := by
  unfold moveStaleAside
  split
  · exact .refl hfs
  · exact .refl hfs
  · split
    · exact .refl hfs
    · split
      · exact .refl hfs
      · exact keepsOthers_moveAside hfs path path _ now

theorem FileSystem.Progress.keepsOthers {moved : List Place} {added : Bytes}
    (h : Progress base fs fs' moved added) : KeepsOthers base fs fs' := by
  refine ⟨h.wellFormed, fun place content hplace hfile => h.kept place content ?_ hfile⟩
  rintro rfl
  rw [List.isPrefixOf_iff_prefix.mpr (List.prefix_refl _)] at hplace
  cases hplace

theorem keepsOthers_openAppend (hfs : fs.WellFormed) {number : Nat}
    (h : fs.openAppend ⟨path⟩ = .ok (fs', number)) : KeepsOthers (Path.mk path).place fs fs' := by
  obtain ⟨hlocate, hkind⟩ := History.exists_locate_of_openAppend h
  obtain ⟨_, _, hopen, hprogress, -⟩ :=
    FileSystem.HasBase.exists_openAppend ⟨hfs, hlocate, hkind⟩
  rw [h] at hopen
  cases hopen
  exact hprogress.keepsOthers

theorem keepsOthers_openToday (hfs : fs.WellFormed) (path : String) (now : Moment) :
    KeepsOthers (Path.mk path).place fs (openToday fs path now).1 := by
  have hstale := keepsOthers_moveStaleAside hfs path now
  unfold openToday
  cases hmove : moveStaleAside fs path now with
  | mk next outcome =>
    rw [hmove] at hstale
    cases outcome with
    | error fault => exact hstale
    | ok =>
      cases hopen : next.openAppend ⟨path⟩ with
      | error fault => simpa only [hopen] using hstale
      | ok result =>
        have hopened := hstale.trans (keepsOthers_openAppend hstale.wellFormed hopen)
        simpa only [hopen] using hopened

theorem keepsOthers_makeDirectories (hfs : fs.WellFormed) (base : Place) (paths : List Path) :
    KeepsOthers base fs (fs.makeDirectories paths).1 := by
  have hgrows := FileSystem.grows_makeDirectories hfs paths
  exact ⟨hgrows.wellFormed, fun place content _ hfile => (hgrows.fileAt?_eq place).trans hfile⟩

/-- **Opening a log leaves the files beside it as they are**, even if it fails. -/
theorem keepsOthers_start (hfs : fs.WellFormed) (path : String) (now : Moment) :
    KeepsOthers (Path.mk path).place fs (RotatingFile.start fs path now).1 := by
  have hmade := keepsOthers_makeDirectories hfs (Path.mk path).place (Path.mk path).directories
  unfold RotatingFile.start
  cases hmake : fs.makeDirectories (Path.mk path).directories with
  | mk made outcome =>
    rw [hmake] at hmade
    cases outcome with
    | error fault => exact hmade
    | ok =>
      have hopened := hmade.trans (keepsOthers_openToday hmade.wellFormed path now)
      cases hopen : openToday made path now with
      | mk next active =>
        rw [hopen] at hopened
        cases active with
        | error fault => simpa only [hopen] using hopened
        | ok active => simpa only [hopen] using hopened

end

namespace History

/-- A log is tracked, and the places to which it was moved aside hold files, beside its own. -/
structure Beside (base : Place) (history : History) : Prop where
  tracked : history.sink.Tracked base history.fs
  rotated : ∀ place ∈ history.rotated,
    base.isPrefixOf place = false ∧ (history.fs.fileAt? place).isSome

variable {base : Place} {history : History}

/-- What has appeared beside a log that is tracked is a file beside it. -/
theorem beside_of_mem_appeared {before after : FileSystem} {sink : RotatingFile}
    (h : sink.Tracked base after) {place : Place}
    (hplace : place ∈ FileSystem.appeared base before after) :
    base.isPrefixOf place = false ∧ (after.fileAt? place).isSome := by
  obtain ⟨hne, -, hsome⟩ := (FileSystem.mem_appeared_iff h.hasBase.wellFormed).mp hplace
  refine ⟨?_, hsome⟩
  rw [Bool.eq_false_iff]
  intro hbelow
  obtain ⟨number, hkind⟩ := FileSystem.isSome_fileAt?_iff.mp hsome
  exact hne (h.hasBase.wellFormed.eq_of_isPrefixOf (FileSystem.mem_kinds_of_kindAt hkind)
    h.hasBase.noDirectory hbelow)

/-- One more attempt keeps the files beside a log, those among them that were laid aside. -/
theorem Beside.after (h : history.Beside base) (attempt : Attempt) :
    (history.after attempt).Beside base ∧
      KeepsOthers base history.fs (history.after attempt).fs := by
  have hbase := base_of_tracked h.tracked
  have hclock := FileSystem.progress_atClock h.tracked.hasBase.wellFormed
    h.tracked.hasBase.noDirectory attempt.diskClock
  have htracked : history.sink.Tracked base (history.fs.atClock attempt.diskClock) :=
    ⟨h.tracked.hasBase.of_progress hclock, h.tracked.active⟩
  obtain ⟨moved, hadvances⟩ := RotatingFile.advances_write htracked attempt.now attempt.record
  have hkeeps : KeepsOthers base history.fs (history.after attempt).fs :=
    (hclock.trans hadvances.progress).keepsOthers
  refine ⟨⟨hadvances.tracked, fun place hplace => ?_⟩, hkeeps⟩
  obtain hold | hnew := List.mem_append.mp hplace
  · obtain ⟨hbeside, hsome⟩ := h.rotated place hold
    obtain ⟨content, hcontent⟩ := Option.isSome_iff_exists.mp hsome
    exact ⟨hbeside, Option.isSome_iff_exists.mpr ⟨_, hkeeps.kept place content hbeside hcontent⟩⟩
  · rw [hbase] at hnew
    exact beside_of_mem_appeared hadvances.tracked hnew

/-- **Any number of attempts keeps the files beside a log.** -/
theorem Beside.foldl_after (h : history.Beside base) (attempts : List Attempt) :
    (attempts.foldl History.after history).Beside base ∧
      KeepsOthers base history.fs (attempts.foldl History.after history).fs := by
  induction attempts generalizing history with
  | nil => exact ⟨h, .refl h.tracked.hasBase.wellFormed⟩
  | cons attempt rest ih =>
    obtain ⟨hnext, hkeeps⟩ := h.after attempt
    obtain ⟨hrest, hkeeps'⟩ := ih hnext
    exact ⟨hrest, hkeeps.trans hkeeps'⟩

/-- A log that has just been opened has files beside it wherever it was moved aside. -/
theorem beside_start {fs opened : FileSystem} {path : String} {now : Moment} {sink : RotatingFile}
    (hfs : fs.WellFormed) (hstart : RotatingFile.start fs path now = (opened, .ok sink)) :
    (start fs opened sink).Beside (Path.mk path).place ∧
      KeepsOthers (Path.mk path).place fs opened := by
  obtain ⟨_, _, -, -, rfl, htracked⟩ := Chronicle.opens_of_start hfs hstart
  have hkeeps := keepsOthers_start hfs path now
  rw [hstart] at hkeeps
  exact ⟨⟨htracked, fun place hplace => beside_of_mem_appeared htracked hplace⟩, hkeeps⟩

end History

/-! ## The main result -/

/-- **A free name is always found, and nothing is ever replaced.**  The candidates for a name and a
time are all different.  Whatever names are taken, if there are fewer than the counter has numbers,
the search ends with the first candidate that is free, and its counter does not come to its end; so
it does on every disk with fewer entries, and what it finds there is the name a file is moved to.
What is moved aside replaces nothing.  A log has different names for different days.  And whatever
is written to a log that has been opened: the files beside it stay as they were, and wherever it was
moved aside there is such a file. -/
theorem free_name_is_found (target : String) (now : Moment) :
    Function.Injective (candidate target now) ∧
    (∀ names : Finset String, names.card < 2 ^ 32 - 1 →
      ∃ n, Search.Finds (fun name => decide (name ∈ names)) target now n) ∧
    (∀ fs : FileSystem, fs.entries.length < 2 ^ 32 - 1 →
      ∃ n, Search.Finds (fun name => fs.isThere ⟨name⟩) target now n ∧
        freeTarget fs target now = candidate target now n) ∧
    (∀ fs : FileSystem, fs.WellFormed → ∀ (source other : String) (day : Date),
      let target := datedPath other day
      let next := (moveAside fs source target now).1
      next = fs ∨ ReplacesNothing (Path.mk source).place (Path.mk (freeTarget fs target now)).place
        fs next) ∧
    (∀ path, Function.Injective (datedPath path)) ∧
    ∀ (fs opened : FileSystem) (path : String) (opening : Moment) (sink : RotatingFile),
      fs.WellFormed → RotatingFile.start fs path opening = (opened, .ok sink) →
      ∀ attempts more : List Attempt,
        let base := (Path.mk path).place
        let earlier := attempts.foldl History.after (.start fs opened sink)
        let later := more.foldl History.after earlier
        KeepsOthers base fs earlier.fs ∧ KeepsOthers base earlier.fs later.fs ∧
          ∀ place ∈ earlier.rotated,
            base.isPrefixOf place = false ∧ (earlier.fs.fileAt? place).isSome := by
  refine ⟨candidate_injective target now,
    fun names hnames => exists_finds_of_card hnames target now,
    fun fs hentries => exists_finds_freeTarget hentries target now,
    fun fs hfs source other day => replacesNothing_moveAside hfs source other day now,
    datedPath_injective, ?_⟩
  intro fs opened path opening sink hfs hstart attempts more base earlier later
  obtain ⟨hopened, hkeeps⟩ := History.beside_start hfs hstart
  obtain ⟨hearlier, hkeeps'⟩ := hopened.foldl_after attempts
  obtain ⟨-, hkeeps''⟩ := hearlier.foldl_after more
  exact ⟨hkeeps.trans hkeeps', hkeeps'', hearlier.rotated⟩

/-- The name for a day is taken, with the time as well, and with the second number.  On a disk the
name for the day is taken by a file; the log on that disk leaves it alone, and the file of the third
of May as well once that has been laid aside. -/
theorem free_name_is_found_crowdedDisk :
    let target := datedPath "gw.log" (morning 0).date
    let names : Finset String := {target, target ++ "-100000", target ++ "-100000-2"}
    let opened := (RotatingFile.start crowdedDisk "gw.log" (morning 2)).1
    let sink : RotatingFile := ⟨"gw.log", some ⟨2, (morning 2).date⟩⟩
    let attempts : List Attempt := [⟨morning 2, morning 2, [3]⟩, ⟨morning 2, morning 3, [4]⟩]
    let later := [⟨morning 5, morning 4, [5]⟩].foldl History.after
      (attempts.foldl History.after (.start crowdedDisk opened sink))
    (names.card < 2 ^ 32 - 1 ∧ crowdedDisk.entries.length < 2 ^ 32 - 1 ∧ crowdedDisk.WellFormed ∧
      RotatingFile.start crowdedDisk "gw.log" (morning 2) = (opened, .ok sink)) ∧
    Search.after (fun name => decide (name ∈ names)) target (morning 2) 3 =
      .found (target ++ "-100000-1") ∧
    freeTarget crowdedDisk target (morning 2) = target ++ "-100000" ∧
    ReplacesNothing ["gw.log"] ["gw.log.2024-05-01-100000"] crowdedDisk
      (moveAside crowdedDisk "gw.log" target (morning 2)).1 ∧
    later.fs.fileAt? ["gw.log.2024-05-01"] = some [7] ∧
    later.fs.fileAt? ["gw.log.2024-05-03"] = some [3] := by
  intro target names opened sink attempts later
  have hcard : names.card < 2 ^ 32 - 1 := Finset.card_le_three.trans_lt (by decide)
  have hentries : crowdedDisk.entries.length < 2 ^ 32 - 1 := by decide
  have hfs : crowdedDisk.WellFormed := by
    refine FileSystem.wellFormed_of_kinds ?_ ?_ ?_ ?_ ?_ <;> decide
  have hstart : RotatingFile.start crowdedDisk "gw.log" (morning 2) = (opened, .ok sink) := by
    decide +kernel
  obtain ⟨-, hnames, hdisks, hmoves, -, hkeeps⟩ := free_name_is_found target (morning 2)
  refine ⟨⟨hcard, hentries, hfs, hstart⟩, ?names, ?disk, ?moves, ?_⟩
  case names =>
    obtain ⟨n, hn⟩ := hnames names hcard
    obtain rfl : n = 2 := by
      match n, hn with
      | 0, hn => exact absurd hn.free (by decide +kernel)
      | 1, hn => exact absurd hn.free (by decide +kernel)
      | 2, _ => rfl
      | n + 3, hn => exact absurd (hn.before 2 (by omega)) (by decide +kernel)
    exact (hn.ends 3 (by decide)).trans (by decide +kernel)
  case disk =>
    obtain ⟨n, hn, hfound⟩ := hdisks crowdedDisk hentries
    obtain rfl : n = 1 := by
      match n, hn with
      | 0, hn => exact absurd hn.free (by decide +kernel)
      | 1, _ => rfl
      | n + 2, hn => exact absurd (hn.before 1 (by omega)) (by decide +kernel)
    exact hfound.trans (by decide +kernel)
  case moves =>
    have hname : (Path.mk (freeTarget crowdedDisk target (morning 2))).place =
        ["gw.log.2024-05-01-100000"] := by decide +kernel
    obtain heq | hreplaces := hmoves crowdedDisk hfs "gw.log" "gw.log" (morning 0).date
    · exact absurd heq (by decide +kernel)
    · rwa [hname] at hreplaces
  obtain ⟨hbefore, hafter, -⟩ := hkeeps crowdedDisk opened "gw.log" (morning 2) sink hfs hstart
    attempts [⟨morning 5, morning 4, [5]⟩]
  have hold := hbefore.kept ["gw.log.2024-05-01"] [7] (by decide +kernel) (by decide +kernel)
  exact ⟨hafter.kept _ _ (by decide +kernel) hold,
    hafter.kept _ _ (by decide +kernel) (by decide +kernel)⟩

end GuardedGateway.Storage
