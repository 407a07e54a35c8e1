import GuardedGateway.Guard.Allowlist
import GuardedGateway.Proofs.Text.Pieces
import Mathlib.Data.List.Sort
import Mathlib.Data.Set.Card

/-!
# The set that an allowlist describes

The setting is a text, and what it stands for is a set of names.  A name is in it when it is one of
the pieces between the commas, trimmed, and not empty (`mem_entries_iff`).

Many texts describe one set.  `Lists names text` says how they can differ: blanks around the names,
the order of the names, names that are written more than once, pieces with nothing in them.  There is
no other difference, and none of these makes one (`lists_iff`).  This rests on what a name can be:
a name without commas, and without blanks at its ends, comes back from between two commas as it was.

The set itself is written in one way, as the increasing list of its members (`eq_of_mem_iff`), so
two settings that describe one set are read as the same value.
-/

namespace GuardedGateway

namespace Text

/-! ## Entries -/

/-- **The entries of a list** are its pieces, trimmed, that are not empty. -/
theorem mem_entries_iff {s name : String} :
    name ∈ entries s ↔
      name ≠ "" ∧ trim name = name ∧ ∃ piece ∈ split ',' s, trim piece = name := by
  have hne (core : List Char) : (!core.isEmpty) = true ↔ String.ofList core ≠ "" := by
    rw [← String.ofList_nil, Ne, String.ofList_inj]
    simp
  constructor
  · intro h
    obtain ⟨core, hcore, rfl⟩ := List.mem_map.mp h
    obtain ⟨hmem, hsome⟩ := List.mem_filter.mp hcore
    obtain ⟨piece, hpiece, rfl⟩ := List.mem_map.mp hmem
    have hname := (hne _).mp hsome
    rw [← trim_ofList] at hname ⊢
    exact ⟨hname, trim_trim _, .ofList piece, List.mem_map_of_mem hpiece, rfl⟩
  · rintro ⟨hsome, -, part, hpart, rfl⟩
    obtain ⟨piece, hpiece, rfl⟩ := List.mem_map.mp hpart
    rw [trim_ofList] at hsome ⊢
    exact List.mem_map_of_mem
      (List.mem_filter.mpr ⟨List.mem_map_of_mem hpiece, (hne _).mpr hsome⟩)

/-- Lists are joined with a comma. -/
theorem entries_append (s more : String) :
    entries (s ++ "," ++ more) = entries s ++ entries more := by
  have htext : (s ++ "," ++ more).toList = s.toList ++ ',' :: more.toList := by
    rw [String.toList_append, String.toList_append, List.append_assoc]
    rfl
  rw [entries, htext, pieces_append_cons, List.map_append, List.filter_append, List.map_append]
  rfl

/-- What can be an entry: a name that is not empty, with no blank at its ends and no comma. -/
structure IsEntry (name : String) : Prop where
  ne_empty : name ≠ ""
  bare : Bare name.toList
  comma_notMem : ',' ∉ name.toList

theorem isEntry_of_mem {s name : String} (h : name ∈ entries s) : IsEntry name := by
  obtain ⟨hne, -, part, hpart, htrim⟩ := mem_entries_iff.mp h
  obtain ⟨⟨before, after, -, -, heq⟩, hbare⟩ := trim_eq_iff.mp htrim
  have hword : ",".toList = [','] := rfl
  have hpieces := ((eq_split_iff hword).mp (rfl : split ',' s = split ',' s)).2.1
  refine ⟨hne, hbare, fun hcomma => hpieces part hpart ?_⟩
  rw [heq]
  exact List.mem_append_right before (List.mem_append_left after hcomma)

/-! ## Texts that list the same names -/

/-- A text lists some names: between its commas stand pieces, each of them blank or one of the names
with blanks around it, and every name is in a piece. -/
def Lists (names : List String) (text : String) : Prop :=
  ∃ parts : List String, text = ",".intercalate parts ∧
    (∀ part ∈ parts, Padded part.toList [] ∨ ∃ name ∈ names, Padded part.toList name.toList) ∧
    ∀ name ∈ names, ∃ part ∈ parts, Padded part.toList name.toList

/-- The entries of parts that are joined with commas are the parts, trimmed, that are not empty. -/
theorem mem_entries_intercalate {parts : List String} (h : ∀ part ∈ parts, ',' ∉ part.toList)
    {name : String} :
    name ∈ entries (",".intercalate parts) ↔
      name ≠ "" ∧ trim name = name ∧ ∃ part ∈ parts, trim part = name := by
  rcases eq_or_ne parts [] with rfl | hne
  · -- there is nothing to cut here, though an empty text has a piece
    rw [String.intercalate_nil, entries_empty]
    simp
  · rw [mem_entries_iff, split_intercalate rfl hne h]

section

variable {names : List String} {text : String}

/-- A text that lists names has these for its entries. -/
theorem mem_entries_iff_of_lists (hnames : ∀ name ∈ names, IsEntry name) (h : Lists names text)
    {name : String} : name ∈ entries text ↔ name ∈ names := by
  obtain ⟨parts, rfl, hparts, hall⟩ := h
  have hcomma : ∀ part ∈ parts, ',' ∉ part.toList := by
    intro part hpart
    rcases hparts part hpart with hblank | ⟨other, hother, hpadded⟩
    · exact notMem_of_padded rfl hblank List.not_mem_nil
    · exact notMem_of_padded rfl hpadded (hnames other hother).comma_notMem
  rw [mem_entries_intercalate hcomma]
  constructor
  · rintro ⟨hne, -, part, hpart, rfl⟩
    rcases hparts part hpart with hblank | ⟨other, hother, hpadded⟩
    · refine absurd ?_ hne
      rw [← String.toList_inj, toList_trim]
      exact trimChars_eq_nil_iff.mpr (padded_nil_iff.mp hblank)
    · rwa [trim_eq_iff.mpr ⟨hpadded, (hnames other hother).bare⟩]
  · intro hname
    obtain ⟨part, hpart, hpadded⟩ := hall name hname
    obtain ⟨hne, hbare, -⟩ := hnames name hname
    exact ⟨hne, trim_eq_self_iff.mpr hbare, part, hpart, trim_eq_iff.mpr ⟨hpadded, hbare⟩⟩

/-- A text lists its entries, and so any names that are the same. -/
theorem lists_of_mem_entries_iff (h : ∀ name, name ∈ entries text ↔ name ∈ names) :
    Lists names text := by
  refine ⟨split ',' text, (intercalate_split rfl text).symm, fun part hpart => ?_,
    fun name hname => ?_⟩
  · have hpadded := padded_trim part
    rcases eq_or_ne (trim part) "" with hblank | hne
    · rw [hblank] at hpadded
      exact .inl hpadded
    · have hentry := mem_entries_iff.mpr ⟨hne, trim_trim part, part, hpart, rfl⟩
      exact .inr ⟨trim part, (h _).mp hentry, hpadded⟩
  · obtain ⟨-, -, part, hpart, htrim⟩ := mem_entries_iff.mp ((h name).mpr hname)
    exact ⟨part, hpart, (trim_eq_iff.mp htrim).1⟩

/-- **The texts that list some names are those with these entries.** -/
theorem lists_iff (hnames : ∀ name ∈ names, IsEntry name) :
    Lists names text ↔ ∀ name, name ∈ entries text ↔ name ∈ names :=
  ⟨fun h _ => mem_entries_iff_of_lists hnames h, lists_of_mem_entries_iff⟩

end

/-! ## Sets as increasing lists -/

/-- A set is written in one way as an increasing list. -/
theorem eq_of_mem_iff {l m : List String} (hl : l.Pairwise Text.Before)
    (hm : m.Pairwise Text.Before) (h : ∀ name, name ∈ l ↔ name ∈ m) : l = m := by
  have : Std.Irrefl Text.Before := ⟨Text.Before.irrefl⟩
  have : Std.Antisymm Text.Before :=
    ⟨fun a b hab hba => absurd (hab.trans hba) (Text.Before.irrefl a)⟩
  exact hl.eq_of_mem_iff hm h

end Text

namespace Guard.Allowlist

/-- An allowlist is what it allows. -/
theorem eq_of_allows_iff {a b : Allowlist} (h : ∀ ns, a.allows ns = true ↔ b.allows ns = true) :
    a = b := by
  obtain ⟨names, increasing⟩ := a
  obtain ⟨others, increasing'⟩ := b
  obtain rfl : names = others := by
    refine Text.eq_of_mem_iff increasing increasing' fun ns => ?_
    have hns := h ns
    rwa [allows_iff, allows_iff] at hns
  rfl

/-- The size of an allowlist is the number of the names that it allows. -/
theorem size_eq_ncard (allowlist : Allowlist) :
    allowlist.size = {ns | allowlist.allows ns = true}.ncard := by
  have hnodup : allowlist.names.Nodup := by
    rw [← List.map_id allowlist.names]
    exact allowlist.increasing.nodup
  have hset : {ns | allowlist.allows ns = true} = (allowlist.names.toFinset : Set String) := by
    ext ns
    exact (allows_iff allowlist ns).trans List.mem_toFinset.symm
  rw [hset, Set.ncard_coe_finset, List.toFinset_card_of_nodup hnodup, size]

/-- Another setting is read as the same set just when it lists the same names. -/
theorem parse_eq_iff {raw again : String} :
    parse again = parse raw ↔ Text.Lists (parse raw).names again := by
  have hnames : ∀ name ∈ (parse raw).names, Text.IsEntry name := by
    intro name hname
    rw [← allows_iff, allows_parse_iff] at hname
    exact Text.isEntry_of_mem hname
  rw [Text.lists_iff hnames]
  constructor
  · intro heq name
    rw [← allows_parse_iff, heq, allows_iff]
  · intro h
    refine eq_of_allows_iff fun ns => ?_
    rw [allows_parse_iff, h, allows_iff]

/-- **An allowlist is read exactly, and written in one way.**  There is one way to cut the setting at
its commas, and trimming takes the blanks from the ends of a text and nothing else.  The names that
are allowed are the pieces, trimmed, that are not empty; they are listed in the order of their bytes,
each once, and counted.  Another setting is read as the same set just when it lists the same names,
whatever blanks are around them, in whatever order and however often, with whatever empty pieces.
Two settings with a comma between them describe the union. -/
theorem parse_exact_and_canonical (raw : String) :
    (∀ pieces, pieces = Text.split ',' raw ↔
      pieces ≠ [] ∧ (∀ piece ∈ pieces, ',' ∉ piece.toList) ∧ ",".intercalate pieces = raw) ∧
      (∀ text core, Text.trim text = core ↔
        Text.Padded text.toList core.toList ∧ Text.Bare core.toList) ∧
      (∀ ns, (parse raw).allows ns = true ↔
        ns ≠ "" ∧ Text.trim ns = ns ∧ ∃ piece ∈ Text.split ',' raw, Text.trim piece = ns) ∧
      (∀ ns, ns ∈ (parse raw).names ↔ (parse raw).allows ns = true) ∧
      (parse raw).names.Pairwise Text.Before ∧
      (parse raw).size = {ns | (parse raw).allows ns = true}.ncard ∧
      (∀ again, parse again = parse raw ↔ Text.Lists (parse raw).names again) ∧
      ∀ more ns, (parse (raw ++ "," ++ more)).allows ns =
        ((parse raw).allows ns || (parse more).allows ns) := by
  refine ⟨fun pieces => Text.eq_split_iff rfl, fun text core => Text.trim_eq_iff, fun ns => ?_,
    fun ns => (allows_iff _ ns).symm, (parse raw).increasing, size_eq_ncard _,
    fun again => parse_eq_iff, fun more ns => ?_⟩
  · rw [allows_parse_iff, Text.mem_entries_iff]
  · rw [Bool.eq_iff_iff, Bool.or_eq_true, allows_parse_iff, allows_parse_iff, allows_parse_iff,
      Text.entries_append, List.mem_append]

/-- Blanks, order, repetitions and empty pieces make no difference, the case of letters does. -/
example : (parse " b,,a , b,").names = ["a", "b"] ∧ (parse "A").allows "a" = false := by
  decide +kernel

end Guard.Allowlist

end GuardedGateway
