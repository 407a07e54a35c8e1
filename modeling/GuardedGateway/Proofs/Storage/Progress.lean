import GuardedGateway.Proofs.Storage.Places

/-!
# What becomes of a log on a disk

A log is kept at one place, its base, and now and then the file there is moved to another place.
From one state of the disk to a later one the log makes `Progress`: every file that is not at the
base keeps its place and its content, the files that have appeared elsewhere are known in order, and
their contents, followed by what is now at the base, are what was at the base with something added
at the end.

One progress after another is a progress (`Progress.trans`), and the single changes of a disk that a
log is made of are progresses of the simplest kind: a file is begun, appended to, or moved to a free
place.
-/

namespace GuardedGateway.Storage

open Calendar (Moment)

namespace FileSystem

/-- The contents of the files at some places, one after another. -/
def joined (fs : FileSystem) (places : List Place) : Bytes :=
  (places.map fs.contentAt).flatten

/-- The files that are elsewhere than at the base and were not there before. -/
def appeared (base : Place) (before after : FileSystem) : List Place :=
  (after.kinds.filter fun k =>
    k.2 != .directory && k.1 != base && (before.kindAt k.1).isNone).map Prod.fst

/-- What becomes of a disk when a log at `base` is moved aside to some places in turn and has
something added to it. -/
structure Progress (base : Place) (fs fs' : FileSystem) (moved : List Place) (added : Bytes) :
    Prop where
  wellFormed : fs'.WellFormed
  /-- Directories stay. -/
  directories : ∀ p, fs.kindAt p = some .directory → fs'.kindAt p = some .directory
  /-- The base can hold a file. -/
  noDirectory : fs'.kindAt base ≠ some .directory
  /-- Files elsewhere keep their place and their content. -/
  kept : ∀ p content, p ≠ base → fs.fileAt? p = some content → fs'.fileAt? p = some content
  /-- No place is used twice. -/
  nodup : moved.Nodup
  /-- The log is moved to places that were free. -/
  fresh : ∀ p ∈ moved, p ≠ base ∧ fs.kindAt p = none ∧ (fs'.fileAt? p).isSome
  /-- No other files appear. -/
  appeared : ∀ p, p ≠ base → fs.kindAt p = none → (fs'.fileAt? p).isSome → p ∈ moved
  /-- Nothing is lost, and nothing but the addition comes in. -/
  balance : fs'.joined moved ++ fs'.contentAt base = fs.contentAt base ++ added

theorem isSome_fileAt?_iff {fs : FileSystem} {p : Place} :
    (fs.fileAt? p).isSome ↔ ∃ number, fs.kindAt p = some (.file number) := by
  rw [Option.isSome_iff_exists]
  constructor
  · rintro ⟨content, h⟩
    obtain ⟨number, hkind, -⟩ := fileAt?_eq_some_iff.mp h
    exact ⟨number, hkind⟩
  · rintro ⟨number, hkind⟩
    exact ⟨_, fileAt?_of_kindAt hkind⟩

/-- What has appeared are the files that are elsewhere than at the base, where there was nothing. -/
theorem mem_appeared_iff {base : Place} {before after : FileSystem} (hafter : after.WellFormed)
    {p : Place} : p ∈ appeared base before after ↔
      p ≠ base ∧ before.kindAt p = none ∧ (after.fileAt? p).isSome := by
  unfold appeared
  rw [List.mem_map]
  constructor
  · rintro ⟨⟨here, kind⟩, hk, rfl⟩
    obtain ⟨hk, hnew⟩ := List.mem_filter.mp hk
    simp only [Bool.and_eq_true, bne_iff_ne, Option.isNone_iff_eq_none] at hnew
    obtain ⟨⟨hfile, hne⟩, hfree⟩ := hnew
    refine ⟨hne, hfree, isSome_fileAt?_iff.mpr ?_⟩
    cases kind with
    | directory => exact absurd rfl hfile
    | file number => exact ⟨number, hafter.kindAt_of_mem hk⟩
  · rintro ⟨hne, hfree, hsome⟩
    obtain ⟨number, hkind⟩ := isSome_fileAt?_iff.mp hsome
    refine ⟨(p, .file number), List.mem_filter.mpr ⟨mem_kinds_of_kindAt hkind, ?_⟩, rfl⟩
    simp only [Bool.and_eq_true, bne_iff_ne, Option.isNone_iff_eq_none]
    exact ⟨⟨nofun, hne⟩, hfree⟩

theorem contentAt_of_fileAt? {fs : FileSystem} {p : Place} {content : Bytes}
    (h : fs.fileAt? p = some content) : fs.contentAt p = content := by
  rw [contentAt, h, Option.getD_some]

namespace Progress

variable {base : Place} {fs fs' fs'' : FileSystem} {moved moved' : List Place}
  {added added' : Bytes}

/-- A place that is free in the end was free in the beginning. -/
theorem kindAt_of_free (h : Progress base fs fs' moved added) {p : Place} (hp : p ≠ base)
    (hfree : fs'.kindAt p = none) : fs.kindAt p = none := by
  cases hkind : fs.kindAt p with
  | none => rfl
  | some kind =>
    cases kind with
    | directory =>
      rw [h.directories p hkind] at hfree
      cases hfree
    | file number =>
      have hfile := h.kept p _ hp (fileAt?_of_kindAt hkind)
      rw [fileAt?, hfree] at hfile
      cases hfile

/-- The files that have been moved aside keep their contents from then on. -/
theorem joined_of_kept (h : Progress base fs fs' moved added)
    (h' : Progress base fs' fs'' moved' added') :
    fs''.joined moved = fs'.joined moved := by
  refine congrArg List.flatten (List.map_congr_left fun p hp => ?_)
  obtain ⟨hne, -, hsome⟩ := h.fresh p hp
  obtain ⟨content, hcontent⟩ := Option.isSome_iff_exists.mp hsome
  rw [contentAt_of_fileAt? hcontent, contentAt_of_fileAt? (h'.kept p content hne hcontent)]

/-- **One progress after another is a progress.** -/
theorem trans (h : Progress base fs fs' moved added) (h' : Progress base fs' fs'' moved' added') :
    Progress base fs fs'' (moved ++ moved') (added ++ added') where
  wellFormed := h'.wellFormed
  directories p hp := h'.directories p (h.directories p hp)
  noDirectory := h'.noDirectory
  kept p content hp hcontent := h'.kept p content hp (h.kept p content hp hcontent)
  nodup := by
    refine List.nodup_append.mpr ⟨h.nodup, h'.nodup, ?_⟩
    rintro p hp _ hp' rfl
    obtain ⟨number, hkind⟩ := isSome_fileAt?_iff.mp (h.fresh p hp).2.2
    have hfree := (h'.fresh p hp').2.1
    rw [hkind] at hfree
    cases hfree
  fresh := by
    intro p hp
    obtain hp | hp := List.mem_append.mp hp
    · obtain ⟨hne, hfree, hsome⟩ := h.fresh p hp
      obtain ⟨content, hcontent⟩ := Option.isSome_iff_exists.mp hsome
      exact ⟨hne, hfree, by rw [h'.kept p content hne hcontent, Option.isSome_some]⟩
    · obtain ⟨hne, hfree, hsome⟩ := h'.fresh p hp
      exact ⟨hne, h.kindAt_of_free hne hfree, hsome⟩
  appeared := by
    intro p hne hfree hsome
    rw [List.mem_append]
    cases hkind : fs'.kindAt p with
    | none => exact .inr (h'.appeared p hne hkind hsome)
    | some kind =>
      cases kind with
      | file number =>
        exact .inl (h.appeared p hne hfree (isSome_fileAt?_iff.mpr ⟨number, hkind⟩))
      | directory =>
        obtain ⟨number, hfile⟩ := isSome_fileAt?_iff.mp hsome
        rw [h'.directories p hkind] at hfile
        cases hfile
  balance := by
    have hjoined : fs''.joined (moved ++ moved') = fs'.joined moved ++ fs''.joined moved' := by
      rw [← h.joined_of_kept h', joined, joined, joined, List.map_append, List.flatten_append]
    calc
      fs''.joined (moved ++ moved') ++ fs''.contentAt base
      _ = fs'.joined moved ++ (fs''.joined moved' ++ fs''.contentAt base) := by
        rw [hjoined, List.append_assoc]
      _ = (fs'.joined moved ++ fs'.contentAt base) ++ added' := by
        rw [h'.balance, List.append_assoc]
      _ = fs.contentAt base ++ (added ++ added') := by rw [h.balance, List.append_assoc]

/-- What has appeared on the disk is what the log was moved to, when that was one place at most. -/
theorem appeared_eq (h : Progress base fs fs' moved added) (hlength : moved.length ≤ 1) :
    FileSystem.appeared base fs fs' = moved := by
  have hmem (p : Place) : p ∈ FileSystem.appeared base fs fs' ↔ p ∈ moved := by
    rw [mem_appeared_iff h.wellFormed]
    constructor
    · rintro ⟨hne, hfree, hsome⟩
      exact h.appeared p hne hfree hsome
    · exact h.fresh p
  have hnodup : (FileSystem.appeared base fs fs').Nodup :=
    h.wellFormed.nodup.sublist (List.filter_sublist.map _)
  have hperm := (List.perm_ext_iff_of_nodup hnodup h.nodup).mpr hmem
  match moved, hlength, hperm with
  | [], _, hperm => exact List.perm_nil.mp hperm
  | [p], _, hperm => exact List.perm_singleton.mp hperm

end Progress

/-! ## Single changes -/

section

variable {base : Place} {fs fs' : FileSystem}

/-- A change that leaves every file where it is, with its content. -/
theorem progress_of_fileAt?_eq (hfs' : fs'.WellFormed)
    (hdirs : ∀ p, fs.kindAt p = some .directory → fs'.kindAt p = some .directory)
    (hbase : fs'.kindAt base ≠ some .directory)
    (hfiles : ∀ p, p ≠ base → fs'.fileAt? p = fs.fileAt? p) {added : Bytes}
    (hcontent : fs'.contentAt base = fs.contentAt base ++ added) :
    Progress base fs fs' [] added where
  wellFormed := hfs'
  directories := hdirs
  noDirectory := hbase
  kept p content hp hfile := by rw [hfiles p hp, hfile]
  nodup := List.nodup_nil
  fresh := nofun
  appeared := by
    intro p hp hfree hsome
    rw [hfiles p hp, fileAt?, hfree] at hsome
    cases hsome
  balance := hcontent

theorem Progress.refl (hfs : fs.WellFormed) (hbase : fs.kindAt base ≠ some .directory) :
    Progress base fs fs [] [] :=
  progress_of_fileAt?_eq hfs (fun _ h => h) hbase (fun _ _ => rfl) (List.append_nil _).symm

/-- The clock goes on. -/
theorem progress_atClock (hfs : fs.WellFormed) (hbase : fs.kindAt base ≠ some .directory)
    (clock : Moment) : Progress base fs (fs.atClock clock) [] [] := by
  refine progress_of_fileAt?_eq (wellFormed_atClock hfs clock) ?_ hbase ?_ ?_
  · exact fun p hp => hp
  · exact fun p _ => rfl
  · exact (List.append_nil _).symm

/-- Making directories changes no file. -/
theorem Grows.fileAt?_eq {paths : List Path} (h : Grows paths fs fs') (p : Place) :
    fs'.fileAt? p = fs.fileAt? p := by
  rw [fileAt?, fileAt?]
  obtain heq | ⟨hfree, hmade, -⟩ := h.kindAt p
  · rw [heq, content_congr h.files]
  · rw [hfree, hmade]
    rfl

/-- Directories are made. -/
theorem Grows.progress {paths : List Path} (h : Grows paths fs fs')
    (hbase : fs'.kindAt base ≠ some .directory) : Progress base fs fs' [] [] := by
  refine progress_of_fileAt?_eq h.wellFormed ?_ hbase (fun p _ => h.fileAt?_eq p) ?_
  · intro p hp
    obtain heq | ⟨hfree, -, -⟩ := h.kindAt p
    · rw [heq, hp]
    · rw [hfree] at hp
      cases hp
  · rw [contentAt, contentAt, h.fileAt?_eq, List.append_nil]

/-- An empty file is begun at the base. -/
theorem progress_create (hfs : fs.WellFormed) (hfree : fs.kindAt base = none)
    (hparent : fs.kindAt base.dropLast = some .directory) (modified : Moment) :
    Progress base fs (fs.create base ⟨[], modified⟩) [] [] := by
  have hkind := kindAt_create hfree ⟨[], modified⟩
  have hbase : (fs.create base ⟨[], modified⟩).kindAt base = some (.file fs.files.length) := by
    rw [hkind, if_pos rfl]
  refine progress_of_fileAt?_eq (wellFormed_create hfs hfree hparent _) ?_ ?_ ?_ ?_
  · intro p hp
    have hne : p ≠ base := by
      rintro rfl
      rw [hfree] at hp
      cases hp
    rw [hkind, if_neg hne, hp]
  · rw [hbase]
    exact nofun
  · intro p hp
    rw [fileAt?, fileAt?, hkind, if_neg hp]
    cases h : fs.kindAt p with
    | none => rfl
    | some kind =>
      cases kind with
      | directory => rfl
      | file number =>
        exact congrArg some (content_create_of_lt (hfs.numbered p number h) base _)
  · rw [contentAt_of_kindAt hbase, content_create_self, contentAt_of_free hfree]
    rfl

/-- Something is appended to the file at the base. -/
theorem progress_append (hfs : fs.WellFormed) {number : Nat}
    (hbase : fs.kindAt base = some (.file number)) (bytes : Bytes) :
    Progress base fs (fs.append number bytes) [] bytes := by
  have hkind := kindAt_append fs number bytes
  refine progress_of_fileAt?_eq (wellFormed_append hfs number bytes) ?_ ?_ ?_ ?_
  · intro p hp
    rw [hkind, hp]
  · rw [hkind, hbase]
    exact nofun
  · intro p hp
    rw [fileAt?, fileAt?, hkind]
    cases h : fs.kindAt p with
    | none => rfl
    | some kind =>
      cases kind with
      | directory => rfl
      | file other =>
        have hne : number ≠ other := by
          rintro rfl
          exact hp (hfs.single p base number h hbase)
        exact congrArg some (content_append_of_ne fs hne bytes)
  · rw [contentAt_of_kindAt hbase, contentAt_of_kindAt (by rw [hkind, hbase]),
      content_append_self (hfs.numbered base number hbase)]

/-- The file at the base is moved to a free place. -/
theorem Moves.progress {target : Place} (h : Moves base target fs fs') (hfs : fs.WellFormed)
    {number : Nat} (hbase : fs.kindAt base = some (.file number))
    (htarget : fs.kindAt target = none) (hparent : fs.kindAt target.dropLast = some .directory) :
    Progress base fs fs' [target] [] := by
  have hne : base ≠ target := by
    rintro rfl
    rw [hbase] at htarget
    cases htarget
  have hfile : fs.kindAt base ≠ some .directory := by
    intro hdirectory
    cases hbase.symm.trans hdirectory
  have hsource := h.kindAt_source htarget hne
  have hmoved : fs'.kindAt target = some (.file number) := by
    rw [h.kindAt_target htarget, hbase]
  have helsewhere {p : Place} (h₁ : p ≠ target) (h₂ : p ≠ base) : fs'.fileAt? p = fs.fileAt? p := by
    rw [fileAt?, fileAt?, h.kindAt_of_ne htarget h₁ h₂, content_congr h.files]
  refine ⟨h.wellFormed htarget hfs hfile hparent, ?_, ?_, ?_, List.nodup_singleton target, ?_, ?_,
    ?_⟩
  · exact fun p hp => h.kindAt_directory htarget hfile hp
  · rw [hsource]
    exact (Option.some_ne_none _).symm
  · intro p content hp hcontent
    have hp' : p ≠ target := by
      rintro rfl
      rw [fileAt?, htarget] at hcontent
      cases hcontent
    rw [helsewhere hp' hp, hcontent]
  · intro p hp
    rw [List.mem_singleton.mp hp]
    exact ⟨Ne.symm hne, htarget, isSome_fileAt?_iff.mpr ⟨number, hmoved⟩⟩
  · intro p hp hfree hsome
    by_cases hp' : p = target
    · exact List.mem_singleton.mpr hp'
    · rw [helsewhere hp' hp, fileAt?, hfree] at hsome
      cases hsome
  · rw [joined, List.map_singleton, List.flatten_singleton, contentAt_of_kindAt hmoved,
      contentAt_of_free hsource, contentAt_of_kindAt hbase, content_congr h.files]

end

end FileSystem

end GuardedGateway.Storage
