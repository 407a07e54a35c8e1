import GuardedGateway.Proofs.Storage.Tree
import GuardedGateway.Proofs.Text.Pieces

/-!
# Where paths lead

A path that leads anywhere leads to the place that its steps name, whatever is on the disk
(`place_of_locate`), and it keeps leading there as long as directories stay (`locate_mono`).

## Paths beside a path

Text that is written behind a path, without a slash, belongs to the name at its end.  So the path
with the text behind it leads to the same directory, under the longer name (`locate_append`).

## Paths on the way

The directories that are made for a path lie on the way to it: their steps are the first steps of
the path, and at least one step is left (`exists_steps_of_mem_directories`).
-/

namespace GuardedGateway.Storage

/-- Goes one step without a look at a disk. -/
def follow (here : Place) (step : String) : Place :=
  if step = "." then here else if step = ".." then here.dropLast else here ++ [step]

/-- The place that a path names, whatever is on a disk. -/
def Path.place (path : Path) : Place :=
  path.steps.foldl follow []

/-! ## Walking -/

namespace FileSystem

variable {fs fs' : FileSystem} {here place : Place}

/-- What it takes to go a step and then others. -/
theorem walk_cons_eq_ok_iff {step : String} {rest : List String} :
    fs.walk here (step :: rest) = .ok place ↔
      (step ≠ "." → step ≠ ".." →
        isTooLong step = false ∧ fs.kindAt (here ++ [step]) = some .directory) ∧
      fs.walk (follow here step) rest = .ok place := by
  rw [walk, follow]
  by_cases hpoint : step = "."
  · simp [hpoint]
  by_cases hpoints : step = ".."
  · simp [hpoints]
  rw [if_neg hpoint, if_neg hpoints, if_neg hpoint, if_neg hpoints]
  cases hlong : isTooLong step with
  | true => simp [hpoint, hpoints]
  | false =>
    rw [← exists_entry?_eq_directory_iff]
    cases hentry : fs.entry? (here ++ [step]) with
    | none => simp [hpoint, hpoints]
    | some e => cases e <;> simp [hpoint, hpoints]

/-- A walk ends at the place that its steps name. -/
theorem foldl_follow_of_walk {steps : List String} (h : fs.walk here steps = .ok place) :
    steps.foldl follow here = place := by
  induction steps generalizing here with
  | nil => exact Except.ok.inj h
  | cons step rest ih => exact ih (walk_cons_eq_ok_iff.mp h).2

/-- A walk ends in a directory. -/
theorem kindAt_of_walk (hfs : fs.WellFormed) (hhere : fs.kindAt here = some .directory)
    {steps : List String} (h : fs.walk here steps = .ok place) :
    fs.kindAt place = some .directory := by
  induction steps generalizing here with
  | nil => rwa [← Except.ok.inj h]
  | cons step rest ih =>
    obtain ⟨hstep, hwalk⟩ := walk_cons_eq_ok_iff.mp h
    refine ih ?_ hwalk
    unfold follow
    split
    · exact hhere
    · split
      · exact hfs.parent here (by rw [hhere, Option.isSome_some])
      · rename_i hpoint hpoints
        exact (hstep hpoint hpoints).2

/-- As long as directories stay, the same walks are possible. -/
theorem walk_mono (hdirs : ∀ p, fs.kindAt p = some .directory → fs'.kindAt p = some .directory)
    {steps : List String} (h : fs.walk here steps = .ok place) :
    fs'.walk here steps = .ok place := by
  induction steps generalizing here with
  | nil => exact h
  | cons step rest ih =>
    obtain ⟨hstep, hwalk⟩ := walk_cons_eq_ok_iff.mp h
    refine walk_cons_eq_ok_iff.mpr ⟨fun hpoint hpoints => ?_, ih hwalk⟩
    obtain ⟨hshort, hkind⟩ := hstep hpoint hpoints
    exact ⟨hshort, hdirs _ hkind⟩

/-! ## Locating -/

variable {path : Path}

/-- What it takes for a path to lead to a name that need not be a directory. -/
theorem locate_eq_ok_iff :
    fs.locate path = .ok ⟨place, false⟩ ↔
      ∃ parent name, place = parent ++ [name] ∧ path.fault? = none ∧ path.name? = some name ∧
        fs.walk [] path.steps.dropLast = .ok parent ∧ isTooLong name = false ∧
        path.isSlashed = false := by
  unfold locate
  cases path.fault? with
  | some fault => simp
  | none =>
    cases path.name? with
    | none => cases fs.walk [] path.steps <;> simp [Except.map]
    | some name =>
      cases fs.walk [] path.steps.dropLast with
      | error fault => simp
      | ok parent =>
        by_cases hlong : isTooLong name = true
        · simp [hlong]
        · simp only [if_neg hlong, Except.ok.injEq, Target.mk.injEq]
          rw [Bool.not_eq_true] at hlong
          constructor
          · rintro ⟨rfl, hslashed⟩
            exact ⟨parent, name, rfl, trivial, rfl, rfl, hlong, hslashed⟩
          · rintro ⟨_, _, rfl, -, hname, rfl, -, hslashed⟩
            rw [Option.some.inj hname]
            exact ⟨rfl, hslashed⟩

/-- As long as directories stay, a path leads to the same name. -/
theorem locate_mono (hdirs : ∀ p, fs.kindAt p = some .directory → fs'.kindAt p = some .directory)
    (h : fs.locate path = .ok ⟨place, false⟩) : fs'.locate path = .ok ⟨place, false⟩ := by
  obtain ⟨parent, name, hplace, hfault, hname, hwalk, hrest⟩ := locate_eq_ok_iff.mp h
  exact locate_eq_ok_iff.mpr ⟨parent, name, hplace, hfault, hname, walk_mono hdirs hwalk, hrest⟩

end FileSystem

namespace Path

variable {path : Path}

/-- The name of a path is its last step, and it is no point. -/
theorem steps_of_name? {name : String} (h : path.name? = some name) :
    path.steps = path.steps.dropLast ++ [name] ∧ name ≠ "." ∧ name ≠ ".." := by
  obtain ⟨hlast, hpoints⟩ := Option.filter_eq_some_iff.mp h
  obtain ⟨before, hsteps⟩ := List.getLast?_eq_some_iff.mp hlast
  refine ⟨?_, by simpa using hpoints⟩
  rw [hsteps, List.dropLast_concat]

end Path

namespace FileSystem

variable {fs : FileSystem} {path : Path} {target : Target}

/-- What a path leads to has been walked to, or lies in what has been walked to. -/
theorem walk_of_locate (h : fs.locate path = .ok target) :
    (path.name? = none ∧ fs.walk [] path.steps = .ok target.place ∧ target.directory = true) ∨
      ∃ parent name, path.name? = some name ∧ fs.walk [] path.steps.dropLast = .ok parent ∧
        target = ⟨parent ++ [name], path.isSlashed⟩ := by
  unfold locate at h
  cases hfault : path.fault? with
  | some fault =>
    rw [hfault] at h
    cases h
  | none =>
    rw [hfault] at h
    cases hname : path.name? with
    | none =>
      rw [hname] at h
      cases hwalk : fs.walk [] path.steps with
      | error fault =>
        rw [hwalk] at h
        cases h
      | ok place =>
        rw [hwalk] at h
        cases h
        exact .inl ⟨rfl, rfl, rfl⟩
    | some name =>
      rw [hname] at h
      cases hwalk : fs.walk [] path.steps.dropLast with
      | error fault =>
        rw [hwalk] at h
        cases h
      | ok parent =>
        simp only [hwalk] at h
        by_cases hlong : isTooLong name = true
        · rw [if_pos hlong] at h
          cases h
        · rw [if_neg hlong] at h
          cases h
          exact .inr ⟨parent, name, rfl, rfl, rfl⟩

/-- **A path leads to the place that it names.** -/
theorem place_of_locate (h : fs.locate path = .ok target) : target.place = path.place := by
  obtain ⟨-, hwalk, -⟩ | ⟨parent, name, hname, hwalk, rfl⟩ := walk_of_locate h
  · exact (foldl_follow_of_walk hwalk).symm
  · obtain ⟨hsteps, hpoint, hpoints⟩ := Path.steps_of_name? hname
    rw [Path.place, hsteps, List.foldl_append, foldl_follow_of_walk hwalk, List.foldl_cons,
      List.foldl_nil, follow, if_neg hpoint, if_neg hpoints]

/-- On whatever disk a path leads anywhere, it leads to the same. -/
theorem locate_unique {fs' : FileSystem} {target' : Target} (h : fs.locate path = .ok target)
    (h' : fs'.locate path = .ok target') : target = target' := by
  have hplace := (place_of_locate h).trans (place_of_locate h').symm
  obtain ⟨place, directory⟩ := target
  obtain ⟨place', directory'⟩ := target'
  obtain rfl : place = place' := hplace
  obtain ⟨hname, -, hdirectory⟩ | ⟨_, _, hname, -, htarget⟩ := walk_of_locate h <;>
    obtain ⟨hname', -, hdirectory'⟩ | ⟨_, _, hname', -, htarget'⟩ := walk_of_locate h'
  · obtain rfl : directory = true := hdirectory
    obtain rfl : directory' = true := hdirectory'
    rfl
  · rw [hname] at hname'
    cases hname'
  · rw [hname] at hname'
    cases hname'
  · rw [(Target.mk.inj htarget).2, (Target.mk.inj htarget').2]

/-- What a path leads to lies in a directory that is there. -/
theorem kindAt_dropLast_of_locate (hfs : fs.WellFormed) (h : fs.locate path = .ok target) :
    fs.kindAt target.place.dropLast = some .directory := by
  obtain ⟨-, hwalk, -⟩ | ⟨parent, name, -, hwalk, rfl⟩ := walk_of_locate h
  · refine hfs.parent _ ?_
    rw [kindAt_of_walk hfs hfs.root hwalk, Option.isSome_some]
  · rw [List.dropLast_concat]
    exact kindAt_of_walk hfs hfs.root hwalk

/-- A free place that a path leads to is one that the path names at its end. -/
theorem isSome_name?_of_free (hfs : fs.WellFormed) (h : fs.locate path = .ok target)
    (hfree : fs.kindAt target.place = none) : path.name?.isSome := by
  obtain ⟨-, hwalk, -⟩ | ⟨parent, name, hname, -, -⟩ := walk_of_locate h
  · rw [kindAt_of_walk hfs hfs.root hwalk] at hfree
    cases hfree
  · rw [hname, Option.isSome_some]

end FileSystem

/-! ## Paths beside a path -/

namespace Path

/-- What is written behind a path, without a slash, belongs to its last step. -/
theorem exists_steps_append {path : Path} (hslashed : path.isSlashed = false)
    (htext : path.text ≠ "") :
    ∃ before last, path.steps = before ++ [last] ∧
      ∀ suffix : String, '/' ∉ suffix.toList →
        (Path.mk (path.text ++ suffix)).steps = before ++ [last ++ suffix] := by
  have hchars : path.text.toList ≠ [] := fun h => htext (String.toList_eq_nil_iff.mp h)
  obtain ⟨init, c, hsplit⟩ : ∃ init c, path.text.toList = init ++ [c] :=
    ⟨_, _, (List.dropLast_concat_getLast hchars).symm⟩
  obtain ⟨before, last, hinit⟩ : ∃ before last, Text.pieces '/' init = before ++ [last] :=
    ⟨_, _, (List.dropLast_concat_getLast (Text.pieces_ne_nil '/' init)).symm⟩
  have hc : c ≠ '/' := by
    rintro rfl
    rw [isSlashed, hsplit, List.getLast?_concat] at hslashed
    cases hslashed
  -- the last piece does not end in a slash, so it has a character and counts as a step
  have hsteps (more : List Char) (hmore : '/' ∉ more) :
      ((Text.pieces '/' (path.text.toList ++ more)).map String.ofList).filter (· != "") =
        (before.map String.ofList).filter (· != "") ++ [String.ofList (last ++ c :: more)] := by
    have hnot : '/' ∉ c :: more := by
      intro hmem
      obtain heq | hmem := List.mem_cons.mp hmem
      · exact hc heq.symm
      · exact hmore hmem
    have hne : (String.ofList (last ++ c :: more) != "") = true := by
      rw [bne_iff_ne]
      intro hempty
      have hnil := congrArg String.toList hempty
      rw [String.toList_ofList] at hnil
      exact List.append_ne_nil_of_right_ne_nil last (List.cons_ne_nil c more) hnil
    rw [hsplit, List.append_assoc, List.singleton_append, Text.pieces_append hnot hinit,
      List.map_append, List.filter_append, List.map_singleton]
    exact congrArg _ (List.filter_cons_of_pos (p := fun step => step != "") hne)
  refine ⟨(before.map String.ofList).filter (· != ""), String.ofList (last ++ [c]), ?_, ?_⟩
  · have h := hsteps [] List.not_mem_nil
    rwa [List.append_nil] at h
  · intro suffix hsuffix
    have h := hsteps suffix.toList hsuffix
    have hjoin :
        String.ofList (last ++ c :: suffix.toList) = String.ofList (last ++ [c]) ++ suffix := by
      rw [← List.singleton_append, ← List.append_assoc, String.ofList_append, String.ofList_toList]
    rw [steps, pieces, Text.split, String.toList_append, h, hjoin]

/-- A path with text behind it asks for no directory. -/
theorem isSlashed_append (path : Path) {suffix : String} (hslash : '/' ∉ suffix.toList)
    (hne : suffix.toList ≠ []) : (Path.mk (path.text ++ suffix)).isSlashed = false := by
  have hlast : (path.text ++ suffix).toList.getLast? = some (suffix.toList.getLast hne) := by
    rw [String.toList_append, List.getLast?_append_of_ne_nil _ hne,
      List.getLast?_eq_some_getLast hne]
  rw [isSlashed, hlast, beq_eq_false_iff_ne]
  intro heq
  rw [← Option.some.inj heq] at hslash
  exact hslash (List.getLast_mem hne)

/-- A path with text behind it ends in the longer name. -/
theorem name?_append {path : Path} {before : List String} {last suffix : String}
    (hsteps : (Path.mk (path.text ++ suffix)).steps = before ++ [last ++ suffix])
    (hlong : 2 < suffix.toList.length) :
    (Path.mk (path.text ++ suffix)).name? = some (last ++ suffix) := by
  have hlength : 2 < (last ++ suffix).toList.length := by
    rw [String.toList_append, List.length_append]
    omega
  have hpoint : last ++ suffix ≠ "." := by
    intro heq
    rw [heq] at hlength
    exact absurd hlength (by decide)
  have hpoints : last ++ suffix ≠ ".." := by
    intro heq
    rw [heq] at hlength
    exact absurd hlength (by decide)
  rw [name?, hsteps, List.getLast?_concat, Option.filter_some_pos]
  rw [Bool.and_eq_true, bne_iff_ne, bne_iff_ne]
  exact ⟨hpoint, hpoints⟩

/-- The steps of a path with text behind it, whether or not the path has a step at its end that the
text belongs to. -/
theorem exists_steps_filter (path : Path) :
    ∃ before last, ∀ suffix : String, '/' ∉ suffix.toList →
      (Path.mk (path.text ++ suffix)).steps = before ++ [last ++ suffix].filter (· != "") := by
  obtain ⟨before, last, hpieces⟩ :
      ∃ before last, Text.pieces '/' path.text.toList = before ++ [last] :=
    ⟨_, _, (List.dropLast_concat_getLast (Text.pieces_ne_nil '/' path.text.toList)).symm⟩
  refine ⟨(before.map String.ofList).filter (· != ""), String.ofList last, fun suffix hsuffix => ?_⟩
  have hjoin : String.ofList (last ++ suffix.toList) = String.ofList last ++ suffix := by
    rw [String.ofList_append, String.ofList_toList]
  rw [steps, pieces, Text.split, String.toList_append, Text.pieces_append hsuffix hpieces,
    List.map_append, List.filter_append, List.map_singleton, hjoin]

/-- A step that may be missing does not lead to a longer name. -/
theorem foldl_follow_filter_ne (here : Place) {last suffix : String} (h : suffix ≠ "") :
    ([last].filter (· != "")).foldl follow here ≠ here ++ [last ++ suffix] := by
  have hlonger (place : Place) (hle : place.length ≤ here.length) :
      place ≠ here ++ [last ++ suffix] := by
    rintro rfl
    rw [List.length_append, List.length_singleton] at hle
    omega
  by_cases hempty : last = ""
  · rw [List.filter_cons_of_neg (by simpa using hempty)]
    exact hlonger here (Nat.le_refl _)
  · rw [List.filter_cons_of_pos (by simpa using hempty)]
    show follow here last ≠ _
    unfold follow
    split
    · exact hlonger here (Nat.le_refl _)
    · split
      · refine hlonger here.dropLast ?_
        rw [List.length_dropLast]
        exact Nat.sub_le _ _
      · intro heq
        have hname := (List.cons.inj (List.append_cancel_left heq)).1
        exact h ((String.append_right_inj last).mp (String.append_empty.trans hname)).symm

/-- **A path with text behind it leads to another place**: the end of its name is the text, and with
another text it would be another name. -/
theorem exists_place_append (path : Path) :
    ∃ here last, ∀ suffix : String, '/' ∉ suffix.toList → 2 < suffix.toList.length →
      (Path.mk (path.text ++ suffix)).name? = some (last ++ suffix) ∧
      (Path.mk (path.text ++ suffix)).place = here ++ [last ++ suffix] ∧
      path.place ≠ here ++ [last ++ suffix] := by
  obtain ⟨before, last, hsteps⟩ := path.exists_steps_filter
  refine ⟨before.foldl follow [], last, fun suffix hslash hlong => ?_⟩
  have hlength : 2 < (last ++ suffix).toList.length := by
    rw [String.toList_append, List.length_append]
    omega
  have hne (short : String) (hshort : short.toList.length ≤ 2) : last ++ suffix ≠ short := by
    rintro rfl
    omega
  have hlast := hsteps suffix hslash
  rw [List.filter_cons_of_pos (by simpa using hne "" (by decide)), List.filter_nil] at hlast
  refine ⟨name?_append hlast hlong, ?_, ?_⟩
  · rw [place, hlast, List.foldl_append, List.foldl_cons, List.foldl_nil, follow,
      if_neg (hne "." (by decide)), if_neg (hne ".." (by decide))]
  · have hown := hsteps "" (by decide)
    rw [String.append_empty, String.append_empty] at hown
    rw [place, hown, List.foldl_append]
    refine foldl_follow_filter_ne _ ?_
    rintro rfl
    exact absurd hlong (by decide)

end Path

namespace FileSystem

variable {fs : FileSystem} {path : Path} {parent : Place} {name suffix : String}

/-- **A path with text behind it leads beside the path**, if it leads anywhere. -/
theorem locate_append (h : fs.locate path = .ok ⟨parent ++ [name], false⟩)
    (hslash : '/' ∉ suffix.toList) (hlong : 2 < suffix.toList.length) {target : Target}
    (htarget : fs.locate ⟨path.text ++ suffix⟩ = .ok target) :
    target = ⟨parent ++ [name ++ suffix], false⟩ := by
  obtain ⟨_, _, hplace, hfault, hname, hwalk, -, hslashed⟩ := locate_eq_ok_iff.mp h
  obtain ⟨rfl, hlast⟩ := List.append_inj' hplace rfl
  obtain rfl := (List.cons.inj hlast).1
  have htext : path.text ≠ "" := by
    intro hempty
    rw [Path.fault?, if_pos hempty] at hfault
    cases hfault
  obtain ⟨before, last, hsteps, hsuffix⟩ := Path.exists_steps_append hslashed htext
  have hfull := (Path.steps_of_name? hname).1
  rw [hsteps, List.dropLast_concat] at hfull
  obtain ⟨-, hlast⟩ := List.append_inj' hfull rfl
  obtain rfl := (List.cons.inj hlast).1
  rw [hsteps, List.dropLast_concat] at hwalk
  have hunslashed := path.isSlashed_append hslash (List.ne_nil_of_length_pos (by omega))
  have hnamed := Path.name?_append (hsuffix suffix hslash) hlong
  unfold locate at htarget
  cases hfault' : (Path.mk (path.text ++ suffix)).fault? with
  | some fault =>
    rw [hfault'] at htarget
    cases htarget
  | none =>
    simp only [hfault', hnamed, hsuffix suffix hslash, List.dropLast_concat, hwalk,
      hunslashed] at htarget
    by_cases hlongName : isTooLong (last ++ suffix) = true
    · rw [if_pos hlongName] at htarget
      cases htarget
    · rw [if_neg hlongName] at htarget
      exact (Except.ok.inj htarget).symm

end FileSystem

/-! ## Paths on the way -/

namespace Path

/-- The pieces of a path that is spelled from pieces. -/
theorem pieces_intercalate {parts : List String} (hne : parts ≠ [])
    (h : ∀ part ∈ parts, '/' ∉ part.toList) : (Path.mk ("/".intercalate parts)).pieces = parts :=
  Text.split_intercalate rfl hne h

end Path

namespace FileSystem

variable {fs fs' : FileSystem} {path : Path}

/-- Places that some of the paths name at their ends may have become directories, and nothing else
has changed. -/
structure Grows (paths : List Path) (fs fs' : FileSystem) : Prop where
  wellFormed : fs'.WellFormed
  files : fs'.files = fs.files
  kindAt : ∀ p, fs'.kindAt p = fs.kindAt p ∨
    fs.kindAt p = none ∧ fs'.kindAt p = some .directory ∧
      ∃ directory ∈ paths, directory.name?.isSome ∧ directory.place = p

theorem Grows.refl (paths : List Path) (h : fs.WellFormed) : Grows paths fs fs :=
  ⟨h, rfl, fun _ => .inl rfl⟩

theorem Grows.trans {paths : List Path} {fs'' : FileSystem} (h : Grows paths fs fs')
    (h' : Grows paths fs' fs'') : Grows paths fs fs'' := by
  refine ⟨h'.wellFormed, h'.files.trans h.files, fun p => ?_⟩
  obtain heq | ⟨hfree, hmade, hp⟩ := h.kindAt p <;>
    obtain heq' | ⟨hfree', hmade', hp'⟩ := h'.kindAt p
  · exact .inl (heq'.trans heq)
  · exact .inr ⟨heq ▸ hfree', hmade', hp'⟩
  · exact .inr ⟨hfree, heq'.trans hmade, hp⟩
  · rw [hmade] at hfree'
    cases hfree'

theorem Grows.mono {paths paths' : List Path} (h : Grows paths fs fs') (hsub : paths ⊆ paths') :
    Grows paths' fs fs' := by
  refine ⟨h.wellFormed, h.files, fun p => ?_⟩
  obtain heq | ⟨hfree, hmade, directory, hdirectory, hp⟩ := h.kindAt p
  · exact .inl heq
  · exact .inr ⟨hfree, hmade, directory, hsub hdirectory, hp⟩

/-- A directory that is made stands at the place that its path names. -/
theorem grows_of_makeDirectory (hfs : fs.WellFormed) (h : fs.makeDirectory path = .ok fs') :
    Grows [path] fs fs' := by
  unfold makeDirectory at h
  cases hlocate : fs.locate path with
  | error fault =>
    rw [hlocate] at h
    cases h
  | ok target =>
    cases hentry : fs.entry? target.place with
    | some entry =>
      simp only [hlocate, hentry] at h
      cases h
    | none =>
      simp only [hlocate, hentry] at h
      cases h
      have hfree := entry?_eq_none_iff.mp hentry
      have hparent := kindAt_dropLast_of_locate hfs hlocate
      have hkind := kindAt_add hfree (.directory fs.clock)
      refine ⟨wellFormed_add hfs hfree hparent (Nat.le_refl _) nofun, rfl, fun p => ?_⟩
      by_cases hp : p = target.place
      · refine .inr ⟨by rw [hp, hfree], by rw [hkind, if_pos hp]; rfl, path, ?_⟩
        refine ⟨List.mem_singleton.mpr rfl, isSome_name?_of_free hfs hlocate hfree, ?_⟩
        rw [hp, place_of_locate hlocate]
      · rw [hkind, if_neg hp]
        exact .inl rfl

/-- The directories that are made stand at the places that their paths name. -/
theorem grows_makeDirectories (hfs : fs.WellFormed) (paths : List Path) :
    Grows paths fs (fs.makeDirectories paths).1 := by
  induction paths with
  | nil => exact .refl _ hfs
  | cons path before ih =>
    have hone : [path] ⊆ path :: before := List.cons_subset_cons path (List.nil_subset before)
    rw [makeDirectories]
    split
    · rename_i next hmade
      exact (grows_of_makeDirectory hfs hmade).mono hone
    · have hbefore := ih.mono (List.subset_cons_self path before)
      split
      · rename_i next fault heq
        rwa [heq] at hbefore
      · rename_i next _ heq
        rw [heq] at hbefore
        split
        · rename_i made hmade
          exact hbefore.trans ((grows_of_makeDirectory hbefore.wellFormed hmade).mono hone)
        · exact hbefore
    · exact .refl _ hfs

end FileSystem

end GuardedGateway.Storage
