import GuardedGateway.Storage.FileSystem
import Mathlib.Data.List.Induction
import Mathlib.Data.List.Nodup

/-!
# The tree of a file system

What a name leads to, apart from the moment of a change, is its `Kind`: a directory, or a file by
its number.  Every operation changes the kinds in a simple way, and `kindAt` says of each place what
stands there afterwards.  The content of a file is found through its kind, by `fileAt?`.

A disk holds a tree, and this is what `WellFormed` says: names are distinct, the root is a
directory, every name lies in a directory, every file is there, and no file has two names.  The
empty disk is one (`wellFormed_empty`), and the operations keep it so.
-/

namespace GuardedGateway.Storage

open Calendar (Moment)

/-! ## Kinds -/

/-- What a name leads to, whenever that was changed. -/
inductive Kind where
  | directory
  | file (number : Nat)
  deriving DecidableEq, Repr

/-- The number of a file. -/
def Kind.number? : Kind → Option Nat
  | .directory => none
  | .file number => some number

theorem Kind.eq_file_of_number? {kind : Kind} {number : Nat} (h : kind.number? = some number) :
    kind = .file number := by
  cases kind with
  | directory => cases h
  | file other => rw [Option.some.inj h]

def Entry.kind : Entry → Kind
  | .directory _ => .directory
  | .file number => .file number

namespace FileSystem

variable {fs : FileSystem}

/-- The names and the kinds of what they lead to. -/
def kinds (fs : FileSystem) : List (Place × Kind) :=
  fs.entries.map fun e => (e.1, e.2.kind)

/-- The kind of what is at a place. -/
def kindAt (fs : FileSystem) (place : Place) : Option Kind :=
  fs.kinds.lookup place

/-- The content of the file at a place. -/
def fileAt? (fs : FileSystem) (place : Place) : Option Bytes :=
  ((fs.kindAt place).bind Kind.number?).map fs.content

/-- The content of the file at a place, which is empty if there is none. -/
def contentAt (fs : FileSystem) (place : Place) : Bytes :=
  (fs.fileAt? place).getD []

theorem map_kind_entry? (fs : FileSystem) (place : Place) :
    Option.map Entry.kind (fs.entry? place) = fs.kindAt place := by
  unfold entry? kindAt kinds
  induction fs.entries with
  | nil => rfl
  | cons e rest ih =>
    rw [List.map_cons, List.lookup_cons, List.lookup_cons]
    cases place == e.1 with
    | false => exact ih
    | true => rfl

theorem entry?_eq_none_iff {place : Place} : fs.entry? place = none ↔ fs.kindAt place = none := by
  rw [← map_kind_entry?, Option.map_eq_none_iff]

theorem entry?_eq_file_iff {place : Place} {number : Nat} :
    fs.entry? place = some (.file number) ↔ fs.kindAt place = some (.file number) := by
  rw [← map_kind_entry?]
  cases h : fs.entry? place with
  | none => simp
  | some e => cases e <;> simp [Entry.kind]

theorem exists_entry?_eq_directory_iff {place : Place} :
    (∃ modified, fs.entry? place = some (.directory modified)) ↔
      fs.kindAt place = some .directory := by
  rw [← map_kind_entry?]
  cases h : fs.entry? place with
  | none => simp
  | some e => cases e <;> simp [Entry.kind]

/-- The content of a file is found under its number. -/
theorem fileAt?_of_kindAt {place : Place} {number : Nat}
    (h : fs.kindAt place = some (.file number)) :
    fs.fileAt? place = some (fs.content number) := by
  rw [fileAt?, h]
  rfl

theorem fileAt?_eq_some_iff {place : Place} {content : Bytes} :
    fs.fileAt? place = some content ↔
      ∃ number, fs.kindAt place = some (.file number) ∧ fs.content number = content := by
  rw [fileAt?]
  cases fs.kindAt place with
  | none => simp
  | some kind => cases kind <;> simp [Kind.number?]

theorem contentAt_of_kindAt {place : Place} {number : Nat}
    (h : fs.kindAt place = some (.file number)) : fs.contentAt place = fs.content number := by
  rw [contentAt, fileAt?_of_kindAt h, Option.getD_some]

theorem contentAt_of_free {place : Place} (h : fs.kindAt place = none) :
    fs.contentAt place = [] := by
  rw [contentAt, fileAt?, h]
  rfl

/-! ## Well-formed disks -/

/-- A disk holds a tree of directories, with files at its ends. -/
structure WellFormed (fs : FileSystem) : Prop where
  /-- No name stands twice. -/
  nodup : (fs.kinds.map Prod.fst).Nodup
  /-- The root is there. -/
  root : fs.kindAt [] = some .directory
  /-- What is there lies in a directory. -/
  parent : ∀ place, (fs.kindAt place).isSome → fs.kindAt place.dropLast = some .directory
  /-- A file has been made. -/
  numbered : ∀ place number, fs.kindAt place = some (.file number) → number < fs.files.length
  /-- A file has one name. -/
  single : ∀ place place' number, fs.kindAt place = some (.file number) →
    fs.kindAt place' = some (.file number) → place = place'

theorem mem_kinds_of_kindAt {place : Place} {kind : Kind} (h : fs.kindAt place = some kind) :
    (place, kind) ∈ fs.kinds := by
  obtain ⟨before, after, hkinds, -⟩ := List.lookup_eq_some_iff.mp h
  rw [hkinds]
  exact List.mem_append_right before List.mem_cons_self

/-- What stands in the list is there. -/
theorem isSome_kindAt_of_mem {k : Place × Kind} (h : k ∈ fs.kinds) : (fs.kindAt k.1).isSome := by
  rw [kindAt, List.lookup_isSome_iff]
  exact ⟨k, h, BEq.rfl⟩

/-- What stands in a list of distinct names is there. -/
theorem kindAt_of_mem_kinds (hnodup : (fs.kinds.map Prod.fst).Nodup) {k : Place × Kind}
    (h : k ∈ fs.kinds) : fs.kindAt k.1 = some k.2 := by
  obtain ⟨kind, hkind⟩ := Option.isSome_iff_exists.mp (isSome_kindAt_of_mem h)
  have heq : k = (k.1, kind) := List.inj_on_of_nodup_map hnodup h (mem_kinds_of_kindAt hkind) rfl
  rw [hkind, congrArg Prod.snd heq]

/-- No name of the list leads to a free place. -/
theorem ne_of_mem_kinds {place : Place} (hfree : fs.kindAt place = none) {k : Place × Kind}
    (hk : k ∈ fs.kinds) : k.1 ≠ place := by
  intro heq
  have hsome := isSome_kindAt_of_mem hk
  rw [heq, hfree] at hsome
  cases hsome

/-- Whether a disk is a tree can be seen from its names. -/
theorem wellFormed_of_kinds (hnodup : (fs.kinds.map Prod.fst).Nodup)
    (hroot : fs.kindAt [] = some .directory)
    (hparent : ∀ k ∈ fs.kinds, fs.kindAt k.1.dropLast = some .directory)
    (hnumbered : ∀ k ∈ fs.kinds, ∀ number ∈ k.2.number?, number < fs.files.length)
    (hsingle : ∀ k ∈ fs.kinds, ∀ l ∈ fs.kinds, k.2.number?.isSome → k.2.number? = l.2.number? →
      k.1 = l.1) : fs.WellFormed := by
  refine ⟨hnodup, hroot, ?_, ?_, ?_⟩
  · intro place hplace
    obtain ⟨kind, hkind⟩ := Option.isSome_iff_exists.mp hplace
    exact hparent _ (mem_kinds_of_kindAt hkind)
  · intro place number hplace
    exact hnumbered _ (mem_kinds_of_kindAt hplace) number rfl
  · intro place place' number hplace hplace'
    exact hsingle _ (mem_kinds_of_kindAt hplace) _ (mem_kinds_of_kindAt hplace') rfl rfl

namespace WellFormed

variable (hfs : fs.WellFormed) {place : Place}

include hfs

theorem kindAt_of_mem {k : Place × Kind} (h : k ∈ fs.kinds) : fs.kindAt k.1 = some k.2 :=
  kindAt_of_mem_kinds hfs.nodup h

/-- On the way to what is there, there are directories only. -/
theorem directory_of_append (here : Place) {rest : Place} (hrest : rest ≠ [])
    (h : (fs.kindAt (here ++ rest)).isSome) : fs.kindAt here = some .directory := by
  induction rest using List.reverseRecOn with
  | nil => exact absurd rfl hrest
  | append_singleton rest name ih =>
    have hparent := hfs.parent _ h
    rw [← List.append_assoc, List.dropLast_concat] at hparent
    by_cases hempty : rest = []
    · rwa [hempty, List.append_nil] at hparent
    · exact ih hempty (by rw [hparent, Option.isSome_some])

/-- Below a file there is nothing, and below a free place neither. -/
theorem eq_of_isPrefixOf {k : Place × Kind} (hk : k ∈ fs.kinds)
    (h : fs.kindAt place ≠ some .directory) (hbelow : place.isPrefixOf k.1 = true) :
    k.1 = place := by
  obtain ⟨rest, hrest⟩ := List.isPrefixOf_iff_prefix.mp hbelow
  by_cases hempty : rest = []
  · rw [← hrest, hempty, List.append_nil]
  · refine absurd (hfs.directory_of_append place hempty ?_) h
    rw [hrest]
    exact isSome_kindAt_of_mem hk

/-- Nothing is at a free place or below it. -/
theorem not_isPrefixOf_of_free {k : Place × Kind} (hk : k ∈ fs.kinds)
    (h : fs.kindAt place = none) : place.isPrefixOf k.1 = false := by
  rw [Bool.eq_false_iff]
  intro hbelow
  exact ne_of_mem_kinds h hk (hfs.eq_of_isPrefixOf hk (by rw [h]; exact nofun) hbelow)

/-- Nothing has to give way at a free place. -/
theorem filter_not_isPrefixOf_of_free
    (hfree : fs.kindAt place = none) :
    (fs.kinds.filter fun k => !place.isPrefixOf k.1) = fs.kinds := by
  rw [List.filter_eq_self]
  intro k hk
  rw [hfs.not_isPrefixOf_of_free hk hfree]
  rfl

end WellFormed

/-! ## Changes -/

/-- The content of a file does not depend on the names. -/
theorem content_congr {fs fs' : FileSystem} (h : fs'.files = fs.files) :
    fs'.content = fs.content := by
  funext number
  rw [content, content, h]

@[simp] theorem kinds_touch (fs : FileSystem) (place : Place) :
    (fs.touch place).kinds = fs.kinds := by
  rw [kinds, kinds, touch, List.map_map]
  refine List.map_congr_left fun e _ => ?_
  obtain ⟨here, entry⟩ := e
  cases entry <;> rfl

/-- A disk when its clock shows a moment. -/
def atClock (fs : FileSystem) (clock : Moment) : FileSystem := { fs with clock }

/-- The clock of a disk does not change what is on it. -/
theorem wellFormed_atClock (h : fs.WellFormed) (clock : Moment) : (fs.atClock clock).WellFormed :=
  ⟨h.nodup, h.root, h.parent, h.numbered, h.single⟩

/-- The empty disk is a tree. -/
theorem wellFormed_empty (clock : Moment) : (empty clock).WellFormed := by
  have hkinds : (empty clock).kinds = [([], .directory)] := rfl
  refine wellFormed_of_kinds ?_ rfl ?_ ?_ ?_
  · rw [hkinds]
    exact List.nodup_singleton _
  · intro k hk
    rw [hkinds, List.mem_singleton] at hk
    rw [hk]
    rfl
  · intro k hk number hnumber
    rw [hkinds, List.mem_singleton] at hk
    rw [hk] at hnumber
    cases hnumber
  · intro k hk l _ hsome
    rw [hkinds, List.mem_singleton] at hk
    rw [hk] at hsome
    cases hsome

/-! ### A new name -/

theorem kinds_add (fs : FileSystem) (place : Place) (entry : Entry) :
    (fs.add place entry).kinds = fs.kinds ++ [(place, entry.kind)] := by
  have htouch := kinds_touch fs place.dropLast
  rw [kinds] at htouch
  rw [kinds, add, List.map_append, htouch]
  rfl

/-- A name that is added leads to what it was added for. -/
theorem kindAt_add {place : Place} (hfree : fs.kindAt place = none) (entry : Entry) (here : Place) :
    (fs.add place entry).kindAt here =
      if here = place then some entry.kind else fs.kindAt here := by
  rw [kindAt, kinds_add, List.lookup_append, ← kindAt, List.lookup_cons, List.lookup_nil]
  by_cases h : here = place
  · rw [if_pos h, h, hfree, Option.none_or, beq_self_eq_true]
  · rw [if_neg h, beq_false_of_ne h, Option.or_none]

/-- A free place in a directory may be given a name, of a directory or of a file that is new. -/
theorem wellFormed_add (h : fs.WellFormed) {place : Place} (hfree : fs.kindAt place = none)
    (hparent : fs.kindAt place.dropLast = some .directory) {entry : Entry} {files : List File}
    (hfiles : fs.files.length ≤ files.length)
    (hnew : ∀ number, entry.kind = .file number →
      fs.files.length ≤ number ∧ number < files.length) :
    { fs.add place entry with files }.WellFormed := by
  have hkind (here : Place) : FileSystem.kindAt { fs.add place entry with files } here =
      if here = place then some entry.kind else fs.kindAt here := kindAt_add hfree entry here
  -- a file is the new one, with a number that no old one has, or it was there before
  have hfile (here : Place) (number : Nat)
      (hhere : FileSystem.kindAt { fs.add place entry with files } here = some (.file number)) :
      (here = place ∧ fs.files.length ≤ number ∧ number < files.length) ∨
        fs.kindAt here = some (.file number) := by
    rw [hkind] at hhere
    by_cases heq : here = place
    · rw [if_pos heq] at hhere
      exact .inl ⟨heq, hnew number (Option.some.inj hhere)⟩
    · rw [if_neg heq] at hhere
      exact .inr hhere
  refine ⟨?_, ?_, ?_, ?_, ?_⟩
  · show ((fs.add place entry).kinds.map Prod.fst).Nodup
    rw [kinds_add, List.map_append, List.nodup_append]
    refine ⟨h.nodup, List.nodup_singleton place, ?_⟩
    rintro here hhere _ hplace rfl
    obtain ⟨k, hk, rfl⟩ := List.mem_map.mp hhere
    exact ne_of_mem_kinds hfree hk (List.mem_singleton.mp hplace)
  · have hne : ([] : Place) ≠ place := by
      rintro rfl
      rw [h.root] at hfree
      cases hfree
    rw [hkind, if_neg hne, h.root]
  · intro here hhere
    have hdirectory : fs.kindAt here.dropLast = some .directory := by
      by_cases heq : here = place
      · rw [heq, hparent]
      · rw [hkind, if_neg heq] at hhere
        exact h.parent here hhere
    have hne : here.dropLast ≠ place := by
      intro heq
      rw [heq, hfree] at hdirectory
      cases hdirectory
    rw [hkind, if_neg hne, hdirectory]
  · intro here number hhere
    obtain ⟨-, -, hlt⟩ | hold := hfile here number hhere
    · exact hlt
    · exact Nat.lt_of_lt_of_le (h.numbered here number hold) hfiles
  · intro here here' number hhere hhere'
    obtain ⟨heq, hle, -⟩ | hold := hfile here number hhere <;>
      obtain ⟨heq', hle', -⟩ | hold' := hfile here' number hhere'
    · rw [heq, heq']
    · exact absurd (h.numbered here' number hold') (Nat.not_lt.mpr hle)
    · exact absurd (h.numbered here number hold) (Nat.not_lt.mpr hle')
    · exact h.single here here' number hold hold'

/-! ### A new file -/

theorem kindAt_create {place : Place} (hfree : fs.kindAt place = none) (file : File)
    (here : Place) :
    (fs.create place file).kindAt here =
      if here = place then some (.file fs.files.length) else fs.kindAt here :=
  kindAt_add hfree (.file fs.files.length) here

theorem wellFormed_create (h : fs.WellFormed) {place : Place} (hfree : fs.kindAt place = none)
    (hparent : fs.kindAt place.dropLast = some .directory) (file : File) :
    (fs.create place file).WellFormed := by
  refine wellFormed_add h hfree hparent ?_ ?_
  · rw [List.length_append]
    omega
  · rintro number hnumber
    cases hnumber
    rw [List.length_append, List.length_singleton]
    omega

/-- The files that are there do not notice a new one. -/
theorem content_create_of_lt {number : Nat} (h : number < fs.files.length) (place : Place)
    (file : File) : (fs.create place file).content number = fs.content number := by
  rw [content, content, create, List.getElem?_append_left h]

theorem content_create_self (place : Place) (file : File) :
    (fs.create place file).content fs.files.length = file.content := by
  rw [content, create, List.getElem?_concat_length]
  rfl

/-! ### A change of a file -/

@[simp] theorem kindAt_append (fs : FileSystem) (number : Nat) (bytes : Bytes) (place : Place) :
    (fs.append number bytes).kindAt place = fs.kindAt place := by
  rw [kindAt, kindAt, kinds, kinds, entries_append]

@[simp] theorem length_files_append (fs : FileSystem) (number : Nat) (bytes : Bytes) :
    (fs.append number bytes).files.length = fs.files.length := by
  unfold append
  split
  · rfl
  · exact List.length_set

theorem wellFormed_append (h : fs.WellFormed) (number : Nat) (bytes : Bytes) :
    (fs.append number bytes).WellFormed := by
  refine ⟨?_, ?_, ?_, ?_, ?_⟩
  · rw [kinds, entries_append]
    exact h.nodup
  · rw [kindAt_append, h.root]
  · intro place hplace
    rw [kindAt_append] at hplace ⊢
    exact h.parent place hplace
  · intro place n hplace
    rw [kindAt_append] at hplace
    rw [length_files_append]
    exact h.numbered place n hplace
  · intro place place' n hplace hplace'
    rw [kindAt_append] at hplace hplace'
    exact h.single place place' n hplace hplace'

/-! ### A new place for a file -/

/-- Where a place is after a move from one place to another. -/
def placeAfter (source target here : Place) : Place :=
  if here = source then target else here

theorem placeAfter_inj {source target here there : Place} (h₁ : here ≠ target) (h₂ : there ≠ target)
    (h : placeAfter source target here = placeAfter source target there) : here = there := by
  unfold placeAfter at h
  by_cases hs₁ : here = source <;> by_cases hs₂ : there = source
  · rw [hs₁, hs₂]
  · rw [if_pos hs₁, if_neg hs₂] at h
    exact absurd h.symm h₂
  · rw [if_neg hs₁, if_pos hs₂] at h
    exact absurd h h₁
  · rwa [if_neg hs₁, if_neg hs₂] at h

/-- What a move makes of a list of names. -/
theorem lookup_map_placeAfter {source target : Place} {l : List (Place × Kind)}
    (hfree : ∀ k ∈ l, k.1 ≠ target) (here : Place) :
    (l.map fun k => (placeAfter source target k.1, k.2)).lookup here =
      if here = target then l.lookup source
      else if here = source then none else l.lookup here := by
  induction l with
  | nil => simp
  | cons k rest ih =>
    have hrest := ih fun l hl => hfree l (List.mem_cons_of_mem k hl)
    have hk := hfree k List.mem_cons_self
    rw [List.map_cons, List.lookup_cons, List.lookup_cons, List.lookup_cons, hrest, placeAfter]
    by_cases hsource : k.1 = source
    · rw [if_pos hsource]
      by_cases htarget : here = target
      · simp only [htarget, hsource, beq_self_eq_true, if_true]
      · rw [beq_false_of_ne htarget, if_neg htarget, if_neg htarget]
        by_cases hhere : here = source
        · rw [if_pos hhere, if_pos hhere]
        · rw [if_neg hhere, if_neg hhere, hsource, beq_false_of_ne hhere]
    · rw [if_neg hsource]
      by_cases htarget : here = target
      · rw [htarget, beq_false_of_ne (Ne.symm hk), if_pos rfl, if_pos rfl,
          beq_false_of_ne (Ne.symm hsource)]
      · rw [if_neg htarget, if_neg htarget]
        by_cases hhere : here = source
        · rw [if_pos hhere, if_pos hhere, hhere, beq_false_of_ne (Ne.symm hsource)]
        · rw [if_neg hhere, if_neg hhere]

/-- A move of a file to a free place changes its name and nothing else. -/
structure Moves (source target : Place) (fs fs' : FileSystem) : Prop where
  files : fs'.files = fs.files
  kinds : fs'.kinds = fs.kinds.map fun k => (placeAfter source target k.1, k.2)

namespace Moves

variable {fs' : FileSystem} {source target here : Place} (h : Moves source target fs fs')
  (htarget : fs.kindAt target = none)

include h htarget

theorem kindAt (here : Place) : fs'.kindAt here =
    if here = target then fs.kindAt source
    else if here = source then none else fs.kindAt here := by
  rw [FileSystem.kindAt, h.kinds]
  exact lookup_map_placeAfter (fun k hk => ne_of_mem_kinds htarget hk) here

theorem kindAt_of_ne (h₁ : here ≠ target) (h₂ : here ≠ source) :
    fs'.kindAt here = fs.kindAt here := by
  rw [h.kindAt htarget, if_neg h₁, if_neg h₂]

theorem kindAt_target : fs'.kindAt target = fs.kindAt source := by
  rw [h.kindAt htarget, if_pos rfl]

theorem kindAt_source (hne : source ≠ target) : fs'.kindAt source = none := by
  rw [h.kindAt htarget, if_neg hne, if_pos rfl]

/-- What is there after the move was there before. -/
theorem exists_of_kindAt {kind : Kind} (hhere : fs'.kindAt here = some kind) :
    ∃ there, fs.kindAt there = some kind ∧ here = placeAfter source target there := by
  rw [h.kindAt htarget] at hhere
  by_cases h₁ : here = target
  · rw [if_pos h₁] at hhere
    exact ⟨source, hhere, by rw [placeAfter, if_pos rfl, h₁]⟩
  · by_cases h₂ : here = source
    · rw [if_neg h₁, if_pos h₂] at hhere
      cases hhere
    · rw [if_neg h₁, if_neg h₂] at hhere
      exact ⟨here, hhere, by rw [placeAfter, if_neg h₂]⟩

/-- Directories stay. -/
theorem kindAt_directory (hsource : fs.kindAt source ≠ some .directory)
    (hhere : fs.kindAt here = some .directory) : fs'.kindAt here = some .directory := by
  have h₁ : here ≠ target := by
    rintro rfl
    rw [htarget] at hhere
    cases hhere
  have h₂ : here ≠ source := by
    rintro rfl
    exact hsource hhere
  rw [h.kindAt_of_ne htarget h₁ h₂, hhere]

/-- A tree is left. -/
theorem wellFormed (hfs : fs.WellFormed) (hsource : fs.kindAt source ≠ some .directory)
    (hparent : fs.kindAt target.dropLast = some .directory) : fs'.WellFormed := by
  refine ⟨?_, h.kindAt_directory htarget hsource hfs.root, ?_, ?_, ?_⟩
  · have hnames : fs'.kinds.map Prod.fst =
        (fs.kinds.map Prod.fst).map (placeAfter source target) := by
      rw [h.kinds, List.map_map, List.map_map]
      rfl
    rw [hnames]
    refine hfs.nodup.map_on ?_
    intro p hp q hq heq
    obtain ⟨k, hk, rfl⟩ := List.mem_map.mp hp
    obtain ⟨l, hl, rfl⟩ := List.mem_map.mp hq
    exact placeAfter_inj (ne_of_mem_kinds htarget hk) (ne_of_mem_kinds htarget hl) heq
  · intro here hhere
    obtain ⟨kind, hkind⟩ := Option.isSome_iff_exists.mp hhere
    obtain ⟨there, hthere, rfl⟩ := h.exists_of_kindAt htarget hkind
    refine h.kindAt_directory htarget hsource ?_
    unfold placeAfter
    by_cases hs : there = source
    · rw [if_pos hs, hparent]
    · rw [if_neg hs]
      exact hfs.parent there (by rw [hthere, Option.isSome_some])
  · intro here number hhere
    obtain ⟨there, hthere, -⟩ := h.exists_of_kindAt htarget hhere
    rw [h.files]
    exact hfs.numbered there number hthere
  · intro here here' number hhere hhere'
    obtain ⟨there, hthere, rfl⟩ := h.exists_of_kindAt htarget hhere
    obtain ⟨there', hthere', rfl⟩ := h.exists_of_kindAt htarget hhere'
    rw [hfs.single there there' number hthere hthere']

end Moves

/-- What a successful renaming makes of the names. -/
theorem kinds_rename {source target : Path} {s t : Target} (hs : fs.locate source = .ok s)
    (ht : fs.locate target = .ok t) {fs' : FileSystem} (h : fs.rename source target = .ok fs') :
    fs'.files = fs.files ∧
      fs'.kinds = (fs.kinds.filter fun k => !t.place.isPrefixOf k.1).map fun k =>
        (moved s.place t.place k.1, k.2) := by
  simp only [rename, hs, ht] at h
  by_cases hname : source.name?.isNone = true ∨ target.name?.isNone = true
  · rw [if_pos hname] at h
    cases h
  rw [if_neg hname] at h
  cases hstat : fs.stat source with
  | error fault =>
    rw [hstat] at h
    cases h
  | ok found =>
    rw [hstat] at h
    by_cases hinto : s.place.isPrefixOf t.place = true
    · simp only [if_pos hinto] at h
      cases h
    · simp only [if_neg hinto] at h
      cases h
      refine ⟨rfl, ?_⟩
      rw [kinds_touch, kinds_touch, kinds, kinds, List.filter_map, List.map_map, List.map_map]
      rfl

/-- Only what leads somewhere is renamed to what leads somewhere. -/
theorem exists_locate_of_rename {source target : Path} {fs' : FileSystem}
    (h : fs.rename source target = .ok fs') :
    ∃ s t, fs.locate source = .ok s ∧ fs.locate target = .ok t := by
  unfold rename at h
  cases hs : fs.locate source with
  | error fault =>
    rw [hs] at h
    cases h
  | ok s =>
    cases ht : fs.locate target with
    | error fault =>
      rw [hs, ht] at h
      cases h
    | ok t => exact ⟨s, t, rfl, rfl⟩

/-- Renaming moves a file to a free place. -/
theorem moves_of_rename (hfs : fs.WellFormed) {source target : Path} {s t : Target}
    (hs : fs.locate source = .ok s) (ht : fs.locate target = .ok t)
    (hsource : fs.kindAt s.place ≠ some .directory) (htarget : fs.kindAt t.place = none)
    {fs' : FileSystem} (h : fs.rename source target = .ok fs') : Moves s.place t.place fs fs' := by
  obtain ⟨hfiles, hkinds⟩ := kinds_rename hs ht h
  refine ⟨hfiles, ?_⟩
  rw [hkinds, hfs.filter_not_isPrefixOf_of_free htarget]
  refine List.map_congr_left fun k hk => ?_
  unfold moved placeAfter
  by_cases hbelow : s.place.isPrefixOf k.1 = true
  · have heq : k.1 = s.place := hfs.eq_of_isPrefixOf hk hsource hbelow
    rw [if_pos hbelow, if_pos heq, heq, List.drop_length, List.append_nil]
  · have hne : k.1 ≠ s.place := by
      intro heq
      rw [heq] at hbelow
      exact hbelow (List.isPrefixOf_iff_prefix.mpr (List.prefix_refl _))
    rw [if_neg hbelow, if_neg hne]

/-! ### A new place for whatever is there -/

variable {source target : Place}

theorem moved_of_not_isPrefixOf {p : Place} (h : source.isPrefixOf p = false) :
    moved source target p = p := by
  rw [moved, h, if_neg Bool.false_ne_true]

theorem moved_append (rest : Place) : moved source target (source ++ rest) = target ++ rest := by
  rw [moved, if_pos (List.isPrefixOf_iff_prefix.mpr (List.prefix_append source rest)),
    List.drop_left]

/-- A place is at a source or below it, or it is neither. -/
theorem exists_append_or_not_isPrefixOf (source p : Place) :
    (∃ rest, p = source ++ rest) ∨ source.isPrefixOf p = false := by
  cases h : source.isPrefixOf p with
  | false => exact .inr rfl
  | true =>
    obtain ⟨rest, hrest⟩ := List.isPrefixOf_iff_prefix.mp h
    exact .inl ⟨rest, hrest.symm⟩

/-- What is not at a place or below it does not lie behind something that is. -/
theorem not_isPrefixOf_dropLast {p : Place} (h : source.isPrefixOf p = false) :
    source.isPrefixOf p.dropLast = false := by
  rw [Bool.eq_false_iff] at h ⊢
  intro hdrop
  have hprefix := (List.isPrefixOf_iff_prefix.mp hdrop).trans (List.dropLast_prefix p)
  exact h (List.isPrefixOf_iff_prefix.mpr hprefix)

/-- Different places stay different when one of them is moved to where nothing is. -/
theorem moved_inj {p q : Place} (hp : target.isPrefixOf p = false)
    (hq : target.isPrefixOf q = false) (h : moved source target p = moved source target q) :
    p = q := by
  have hbelow (rest : Place) : target.isPrefixOf (target ++ rest) = true :=
    List.isPrefixOf_iff_prefix.mpr (List.prefix_append target rest)
  obtain ⟨p', rfl⟩ | hp' := exists_append_or_not_isPrefixOf source p <;>
    obtain ⟨q', rfl⟩ | hq' := exists_append_or_not_isPrefixOf source q
  · rw [moved_append, moved_append] at h
    rw [List.append_cancel_left h]
  · rw [moved_append, moved_of_not_isPrefixOf hq'] at h
    rw [← h, hbelow] at hq
    cases hq
  · rw [moved_append, moved_of_not_isPrefixOf hp'] at h
    rw [h, hbelow] at hp
    cases hp
  · rwa [moved_of_not_isPrefixOf hp', moved_of_not_isPrefixOf hq'] at h

/-- **A move to a free place leaves a tree**, whatever is moved: what lay behind the source lies
behind the target. -/
theorem WellFormed.of_kinds_map_moved (hfs : fs.WellFormed) {fs' : FileSystem}
    (hfree : fs.kindAt target = none) (hparent : fs.kindAt target.dropLast = some .directory)
    (hinto : source.isPrefixOf target = false) (hfiles : fs'.files = fs.files)
    (hkinds : fs'.kinds = fs.kinds.map fun k => (moved source target k.1, k.2)) :
    fs'.WellFormed := by
  have hnot {k : Place × Kind} (hk : k ∈ fs.kinds) : target.isPrefixOf k.1 = false :=
    hfs.not_isPrefixOf_of_free hk hfree
  have hnodup : (fs'.kinds.map Prod.fst).Nodup := by
    have hnames : fs'.kinds.map Prod.fst = (fs.kinds.map Prod.fst).map (moved source target) := by
      rw [hkinds, List.map_map, List.map_map]
      rfl
    rw [hnames]
    refine hfs.nodup.map_on ?_
    intro p hp q hq heq
    obtain ⟨k, hk, rfl⟩ := List.mem_map.mp hp
    obtain ⟨l, hl, rfl⟩ := List.mem_map.mp hq
    exact moved_inj (hnot hk) (hnot hl) heq
  have hthere {p : Place} {kind : Kind} (hp : fs.kindAt p = some kind) :
      fs'.kindAt (moved source target p) = some kind := by
    refine kindAt_of_mem_kinds (k := (moved source target p, kind)) hnodup ?_
    rw [hkinds]
    exact List.mem_map.mpr ⟨_, mem_kinds_of_kindAt hp, rfl⟩
  have hstays {p : Place} (hp : fs.kindAt p = some .directory)
      (hout : source.isPrefixOf p = false) : fs'.kindAt p = some .directory := by
    rw [← hthere hp, moved_of_not_isPrefixOf hout]
  refine wellFormed_of_kinds hnodup ?_ ?_ ?_ ?_
  · refine hstays hfs.root ?_
    cases source with
    | nil => cases hinto
    | cons step rest => rfl
  · intro k' hk'
    rw [hkinds] at hk'
    obtain ⟨k, hk, rfl⟩ := List.mem_map.mp hk'
    have hup := hfs.parent k.1 (isSome_kindAt_of_mem hk)
    obtain ⟨rest, hrest⟩ | hout := exists_append_or_not_isPrefixOf source k.1
    · show fs'.kindAt (moved source target k.1).dropLast = _
      rw [hrest, moved_append]
      -- what is moved itself has a new parent, and what lay behind it lies behind it still
      by_cases hnil : rest = []
      · rw [hnil, List.append_nil]
        exact hstays hparent (not_isPrefixOf_dropLast hinto)
      · rw [hrest, List.dropLast_append_of_ne_nil hnil] at hup
        have hbehind : moved source target (source ++ rest.dropLast) = target ++ rest.dropLast :=
          moved_append rest.dropLast
        rw [List.dropLast_append_of_ne_nil hnil, ← hbehind]
        exact hthere hup
    · show fs'.kindAt (moved source target k.1).dropLast = _
      rw [moved_of_not_isPrefixOf hout]
      exact hstays hup (not_isPrefixOf_dropLast hout)
  · intro k' hk' number hnumber
    rw [hkinds] at hk'
    obtain ⟨k, hk, rfl⟩ := List.mem_map.mp hk'
    have hkind := hfs.kindAt_of_mem hk
    rw [Kind.eq_file_of_number? hnumber] at hkind
    rw [hfiles]
    exact hfs.numbered k.1 number hkind
  · intro k' hk' l' hl' hfile hnumber
    rw [hkinds] at hk' hl'
    obtain ⟨k, hk, rfl⟩ := List.mem_map.mp hk'
    obtain ⟨l, hl, rfl⟩ := List.mem_map.mp hl'
    obtain ⟨number, hn⟩ : ∃ number, k.2.number? = some number := Option.isSome_iff_exists.mp hfile
    have hm : l.2.number? = some number := hnumber.symm.trans hn
    have hfirst := hfs.kindAt_of_mem hk
    have hsecond := hfs.kindAt_of_mem hl
    rw [Kind.eq_file_of_number? hn] at hfirst
    rw [Kind.eq_file_of_number? hm] at hsecond
    exact congrArg (moved source target) (hfs.single k.1 l.1 number hfirst hsecond)

/-- Nothing is renamed to a place behind itself. -/
theorem not_isPrefixOf_of_rename {source target : Path} {s t : Target}
    (hs : fs.locate source = .ok s) (ht : fs.locate target = .ok t) {fs' : FileSystem}
    (h : fs.rename source target = .ok fs') : s.place.isPrefixOf t.place = false := by
  rw [Bool.eq_false_iff]
  intro hinto
  simp only [rename, hs, ht, hinto, if_true] at h
  by_cases hname : source.name?.isNone = true ∨ target.name?.isNone = true
  · rw [if_pos hname] at h
    cases h
  · rw [if_neg hname] at h
    cases hstat : fs.stat source with
    | error fault =>
      rw [hstat] at h
      cases h
    | ok found =>
      rw [hstat] at h
      cases h

/-- Renaming to a free place leaves a tree. -/
theorem wellFormed_of_rename (hfs : fs.WellFormed) {source target : Path} {s t : Target}
    (hs : fs.locate source = .ok s) (ht : fs.locate target = .ok t)
    (hfree : fs.kindAt t.place = none) (hparent : fs.kindAt t.place.dropLast = some .directory)
    {fs' : FileSystem} (h : fs.rename source target = .ok fs') : fs'.WellFormed := by
  obtain ⟨hfiles, hkinds⟩ := kinds_rename hs ht h
  rw [hfs.filter_not_isPrefixOf_of_free hfree] at hkinds
  exact hfs.of_kinds_map_moved hfree hparent (not_isPrefixOf_of_rename hs ht h) hfiles hkinds

/-- What has been renamed to a free place is gone from where it was. -/
theorem kindAt_source_of_rename (hfs : fs.WellFormed) {source target : Path} {s t : Target}
    (hs : fs.locate source = .ok s) (ht : fs.locate target = .ok t)
    (hthere : (fs.kindAt s.place).isSome) (hfree : fs.kindAt t.place = none) {fs' : FileSystem}
    (h : fs.rename source target = .ok fs') : fs'.kindAt s.place = none := by
  obtain ⟨-, hkinds⟩ := kinds_rename hs ht h
  rw [hfs.filter_not_isPrefixOf_of_free hfree] at hkinds
  obtain ⟨there, hthere⟩ := Option.isSome_iff_exists.mp hthere
  have hself : s.place.isPrefixOf s.place = true :=
    List.isPrefixOf_iff_prefix.mpr (List.prefix_refl s.place)
  cases hkind : fs'.kindAt s.place with
  | none => rfl
  | some kind =>
    have hmem := mem_kinds_of_kindAt hkind
    rw [hkinds] at hmem
    obtain ⟨k, -, hmoved⟩ := List.mem_map.mp hmem
    replace hmoved : moved s.place t.place k.1 = s.place := congrArg Prod.fst hmoved
    obtain ⟨rest, hrest⟩ | hout := exists_append_or_not_isPrefixOf s.place k.1
    · have habove := hfs.not_isPrefixOf_of_free (mem_kinds_of_kindAt hthere) hfree
      rw [hrest, moved_append] at hmoved
      rw [List.isPrefixOf_iff_prefix.mpr ⟨rest, hmoved⟩] at habove
      cases habove
    · rw [moved_of_not_isPrefixOf hout] at hmoved
      rw [hmoved, hself] at hout
      cases hout

end FileSystem

end GuardedGateway.Storage
