import GuardedGateway.Proofs.Cluster.Selection
import GuardedGateway.Proofs.Guard.Allowlist

/-!
# The requirements that a selector writes down

A selector is written by hand, and its operators overlap: `=` is inside `==` and inside `!=`.  So
which requirement a term states depends on the order in which the operators are looked for, and a
wrong order would cut `app!=web` at its `=`.

`Spells` says which terms state a requirement, without looking for anything: an operand on either
side, with blanks around it, and between them one of the operators of the requirement.  Operands
that are free of the characters of the operators leave one way to cut such a term, and it is the one
that is found (`ofTerm_of_spells`).

`Writes` says the same of whole selectors: terms in any order, any number of times, and empty terms
between them.  Then the requirements that are read are those that were written
(`mem_requirements_iff_of_writes`), and labels match just when they meet every one of them.
-/

namespace GuardedGateway.Cluster

open Text (Padded Bare trimChars)

/-! ## What a requirement asks -/

namespace Labels

variable {labels : Labels} {key : String}

/-- Looking a label up finds the one with the key. -/
theorem lookup_eq_some_iff (h : labels.Ordered) {value : String} :
    labels.lookup key = some value ↔ (key, value) ∈ labels := by
  induction labels with
  | nil => exact iff_of_false (fun hnone => nomatch hnone) List.not_mem_nil
  | cons l rest ih =>
    obtain ⟨hfirst, hrest⟩ := List.nodup_cons.mp (Text.Increasing.nodup h)
    rw [lookup_cons, List.mem_cons]
    by_cases hkey : key = l.1
    · subst hkey
      have habsent : (l.1, value) ∉ rest :=
        fun hmem => hfirst (List.mem_map.mpr ⟨(l.1, value), hmem, rfl⟩)
      rw [if_pos rfl, or_iff_left habsent, Option.some.injEq, Prod.ext_iff, eq_comm]
      exact (and_iff_right rfl).symm
    · have hne : (key, value) ≠ l := fun heq => hkey (congrArg Prod.fst heq)
      rw [if_neg hkey, or_iff_right hne]
      exact ih (List.pairwise_cons.mp h).2

theorem lookup_eq_none_iff (h : labels.Ordered) :
    labels.lookup key = none ↔ ∀ value, (key, value) ∉ labels := by
  rw [Option.eq_none_iff_forall_ne_some]
  exact forall_congr' fun value => (lookup_eq_some_iff h).not

end Labels

namespace Requirement

/-- What a requirement asks of the labels.  To differ from a value is to have another one or none. -/
def Met (labels : Labels) : Requirement → Prop
  | .equals key value => (key, value) ∈ labels
  | .differs key value =>
    (∀ other, (key, other) ∉ labels) ∨ ∃ other, (key, other) ∈ labels ∧ other ≠ value
  | .present key => ∃ value, (key, value) ∈ labels

theorem holds_eq_true_iff {labels : Labels} (h : labels.Ordered) {requirement : Requirement} :
    requirement.holds labels = true ↔ requirement.Met labels := by
  cases requirement with
  | equals key value => rw [holds, beq_iff_eq, Labels.lookup_eq_some_iff h, Met]
  | differs key value =>
    rw [holds, bne_iff_ne, Met, ← Labels.lookup_eq_none_iff h]
    cases hlookup : labels.lookup key with
    | none => exact iff_of_true (Option.some_ne_none value).symm (.inl rfl)
    | some found =>
      have hfound (other : String) : (key, other) ∈ labels ↔ found = other := by
        rw [← Labels.lookup_eq_some_iff h, hlookup, Option.some.injEq]
      simp [hfound]
  | present key =>
    rw [holds, Option.isSome_iff_exists, Met]
    exact exists_congr fun value => Labels.lookup_eq_some_iff h

/-! ## How a requirement is written -/

/-- A text in which no operator can begin. -/
structure Plain (text : List Char) : Prop where
  bang : '!' ∉ text
  equals : '=' ∉ text

/-- What a key or a value may be in a selector: it has no blank at its ends, no comma in it, and no
character of an operator. -/
structure IsOperand (word : String) : Prop where
  bare : Bare word.toList
  plain : Plain word.toList
  comma : ',' ∉ word.toList

/-- A requirement that can be written down. -/
def Writable : Requirement → Prop
  | .equals key value => key ≠ "" ∧ IsOperand key ∧ IsOperand value
  | .differs key value => key ≠ "" ∧ IsOperand key ∧ IsOperand value
  | .present key => key ≠ "" ∧ IsOperand key

/-- A term states a requirement: the operands stand on either side of the operator, with any blanks
around them. -/
inductive Spells : List Char → Requirement → Prop
  | equals {left right : List Char} {key value : String} (hleft : Padded left key.toList)
      (hright : Padded right value.toList) :
      Spells (left ++ ("=".toList ++ right)) (.equals key value)
  | equalsTwice {left right : List Char} {key value : String} (hleft : Padded left key.toList)
      (hright : Padded right value.toList) :
      Spells (left ++ ("==".toList ++ right)) (.equals key value)
  | differs {left right : List Char} {key value : String} (hleft : Padded left key.toList)
      (hright : Padded right value.toList) :
      Spells (left ++ ("!=".toList ++ right)) (.differs key value)
  | present {term : List Char} {key : String} (hterm : Padded term key.toList) :
      Spells term (.present key)

/-- An operand stays plain with blanks around it. -/
theorem IsOperand.plain_of_padded {word : String} (h : IsOperand word) {side : List Char}
    (hside : Padded side word.toList) : Plain side :=
  ⟨Text.notMem_of_padded rfl hside h.plain.bang, Text.notMem_of_padded rfl hside h.plain.equals⟩

/-- Trimming a term leaves the operator with the operands on either side of it, and with blanks
between them at most. -/
theorem exists_sides {operator key value : String} (hne : operator.toList ≠ [])
    (hoperator : Bare operator.toList) (hkey : IsOperand key) (hvalue : IsOperand value)
    {left right : List Char} (hleft : Padded left key.toList)
    (hright : Padded right value.toList) :
    ∃ before after,
      trimChars (left ++ (operator.toList ++ right)) = before ++ (operator.toList ++ after) ∧
      Plain before ∧ Plain after ∧
      Text.trim (.ofList before) = key ∧ Text.trim (.ofList after) = value := by
  have hfound {word : String} (hword : IsOperand word) {side part : List Char}
      (hside : Padded side word.toList) (hpart : trimChars part = trimChars side) :
      Text.trim (.ofList part) = word := by
    rw [Text.trim_ofList, hpart, Text.trimChars_eq_iff.mpr ⟨hside, hword.bare⟩,
      String.ofList_toList]
  have hplain {side part : List Char} (hside : Plain side) (hpart : part ⊆ side) : Plain part :=
    ⟨fun hmem => hside.bang (hpart hmem), fun hmem => hside.equals (hpart hmem)⟩
  obtain ⟨before, after, htrim, hbefore, hafter, hsubleft, hsubright⟩ :=
    Text.exists_trimChars_around hne hoperator left right
  exact ⟨before, after, htrim, hplain (hkey.plain_of_padded hleft) hsubleft,
    hplain (hvalue.plain_of_padded hright) hsubright, hfound hkey hleft hbefore,
    hfound hvalue hright hafter⟩

/-! ## What is read of a term -/

section

variable {before after term : List Char}

/-- Where no `!` stands, there is no `!=`. -/
theorem splitOnce_differs_eq_none (h : '!' ∉ term) : Text.splitOnce "!=" (.ofList term) = none :=
  Text.splitOnce_eq_none fun hinside => h (hinside.subset List.mem_cons_self)

/-- Where a single `=` stands, there is no `==`. -/
theorem splitOnce_equalsTwice_eq_none (h : term.count '=' ≤ 1) :
    Text.splitOnce "==" (.ofList term) = none := by
  refine Text.splitOnce_eq_none fun hinside => ?_
  have htwo : "==".toList.count '=' ≤ term.count '=' := hinside.count_le '='
  exact absurd (htwo.trans h) (by decide)

theorem ofTerm_differs (hbefore : Plain before) (after : List Char) :
    ofTerm (.ofList (before ++ ("!=".toList ++ after))) =
      .differs (Text.trim (.ofList before)) (Text.trim (.ofList after)) := by
  have hsplit := Text.splitOnce_eq_some "!=" rfl hbefore.bang after
  rw [ofTerm, hsplit]

theorem ofTerm_equalsTwice (hbefore : Plain before) (hafter : Plain after) :
    ofTerm (.ofList (before ++ ("==".toList ++ after))) =
      .equals (Text.trim (.ofList before)) (Text.trim (.ofList after)) := by
  have hbang : '!' ∉ before ++ ("==".toList ++ after) := by
    simp [hbefore.bang, hafter.bang]
  have hsplit := Text.splitOnce_eq_some "==" rfl hbefore.equals after
  simp only [ofTerm, splitOnce_differs_eq_none hbang, hsplit, Option.orElse_eq_orElse,
    Option.orElse_some]

theorem ofTerm_equals (hbefore : Plain before) (hafter : Plain after) :
    ofTerm (.ofList (before ++ ("=".toList ++ after))) =
      .equals (Text.trim (.ofList before)) (Text.trim (.ofList after)) := by
  have hbang : '!' ∉ before ++ ("=".toList ++ after) := by
    simp [hbefore.bang, hafter.bang]
  have hcount : (before ++ ("=".toList ++ after)).count '=' ≤ 1 := by
    simp [List.count_append, List.count_eq_zero.mpr hbefore.equals,
      List.count_eq_zero.mpr hafter.equals]
  have hsplit := Text.splitOnce_eq_some "=" rfl hbefore.equals after
  simp only [ofTerm, splitOnce_differs_eq_none hbang, splitOnce_equalsTwice_eq_none hcount, hsplit,
    Option.orElse_eq_orElse, Option.orElse_none]

/-- A term without an operator asks for a key. -/
theorem ofTerm_present (h : Plain term) : ofTerm (.ofList term) = .present (.ofList term) := by
  have hcount : term.count '=' ≤ 1 := (List.count_eq_zero.mpr h.equals).trans_le zero_le_one
  have hsplit : Text.splitOnce "=" (.ofList term) = none :=
    Text.splitOnce_eq_none fun hinside => h.equals (hinside.subset List.mem_cons_self)
  simp only [ofTerm, splitOnce_differs_eq_none h.bang, splitOnce_equalsTwice_eq_none hcount, hsplit,
    Option.orElse_eq_orElse, Option.orElse_none]

end

/-- **The requirement that a term states is the one that is read of it**, and such a term is not
empty. -/
theorem ofTerm_of_spells {part : List Char} {requirement : Requirement}
    (hwritable : requirement.Writable) (h : Spells part requirement) :
    ofTerm (.ofList (trimChars part)) = requirement ∧ trimChars part ≠ [] := by
  have hequals : Bare "=".toList := Text.trimChars_eq_self_iff.mp (by decide)
  have htwice : Bare "==".toList := Text.trimChars_eq_self_iff.mp (by decide)
  have hdiffers : Bare "!=".toList := Text.trimChars_eq_self_iff.mp (by decide)
  cases h with
  | equals hleft hright =>
    obtain ⟨-, hkey, hvalue⟩ := hwritable
    obtain ⟨before, after, htrim, hbefore, hafter, rfl, rfl⟩ :=
      exists_sides (by decide) hequals hkey hvalue hleft hright
    rw [htrim]
    exact ⟨ofTerm_equals hbefore hafter, by simp⟩
  | equalsTwice hleft hright =>
    obtain ⟨-, hkey, hvalue⟩ := hwritable
    obtain ⟨before, after, htrim, hbefore, hafter, rfl, rfl⟩ :=
      exists_sides (by decide) htwice hkey hvalue hleft hright
    rw [htrim]
    exact ⟨ofTerm_equalsTwice hbefore hafter, by simp⟩
  | differs hleft hright =>
    obtain ⟨-, hkey, hvalue⟩ := hwritable
    obtain ⟨before, after, htrim, hbefore, -, rfl, rfl⟩ :=
      exists_sides (by decide) hdiffers hkey hvalue hleft hright
    rw [htrim]
    exact ⟨ofTerm_differs hbefore after, by simp⟩
  | present hterm =>
    obtain ⟨hne, hkey⟩ := hwritable
    rw [Text.trimChars_eq_iff.mpr ⟨hterm, hkey.bare⟩, ofTerm_present hkey.plain,
      String.ofList_toList]
    exact ⟨rfl, fun hnil => hne (String.toList_eq_nil_iff.mp hnil)⟩

end Requirement

/-! ## Selectors -/

open Requirement (Spells)

/-- A selector writes some requirements down: between its commas stand terms, each of them blank or
stating one of the requirements, and every requirement is stated. -/
def Writes (wanted : List Requirement) (selector : String) : Prop :=
  ∃ parts : List String, selector = ",".intercalate parts ∧
    (∀ part ∈ parts, Padded part.toList [] ∨ ∃ r ∈ wanted, Spells part.toList r) ∧
    ∀ r ∈ wanted, ∃ part ∈ parts, Spells part.toList r

/-- A term that states a requirement has no comma in it. -/
theorem comma_notMem_of_spells {part : List Char} {r : Requirement} (hwritable : r.Writable)
    (h : Spells part r) : ',' ∉ part := by
  have hoperand {word : String} (hword : Requirement.IsOperand word) {side : List Char}
      (hside : Padded side word.toList) : ',' ∉ side :=
    Text.notMem_of_padded rfl hside hword.comma
  cases h with
  | equals hleft hright =>
    simp [hoperand hwritable.2.1 hleft, hoperand hwritable.2.2 hright]
  | equalsTwice hleft hright =>
    simp [hoperand hwritable.2.1 hleft, hoperand hwritable.2.2 hright]
  | differs hleft hright =>
    simp [hoperand hwritable.2.1 hleft, hoperand hwritable.2.2 hright]
  | present hterm => exact hoperand hwritable.2 hterm

/-- **The requirements that are read are those that were written.** -/
theorem mem_requirements_iff_of_writes {wanted : List Requirement} {selector : String}
    (hwritable : ∀ r ∈ wanted, r.Writable) (h : Writes wanted selector) {r : Requirement} :
    r ∈ requirements selector ↔ r ∈ wanted := by
  obtain ⟨parts, rfl, hparts, hall⟩ := h
  have hcomma : ∀ part ∈ parts, ',' ∉ part.toList := by
    intro part hpart
    rcases hparts part hpart with hblank | ⟨s, hs, hspells⟩
    · exact Text.notMem_of_padded rfl hblank List.not_mem_nil
    · exact comma_notMem_of_spells (hwritable s hs) hspells
  simp only [requirements, List.mem_map, Text.mem_entries_intercalate hcomma]
  constructor
  · rintro ⟨term, ⟨hne, -, part, hpart, rfl⟩, rfl⟩
    rcases hparts part hpart with hblank | ⟨s, hs, hspells⟩
    · refine absurd ?_ hne
      rw [← String.toList_inj, Text.toList_trim]
      exact Text.trimChars_eq_nil_iff.mpr (Text.padded_nil_iff.mp hblank)
    · rw [Text.trim, (Requirement.ofTerm_of_spells (hwritable s hs) hspells).1]
      exact hs
  · intro hr
    obtain ⟨part, hpart, hspells⟩ := hall r hr
    obtain ⟨hread, hne⟩ := Requirement.ofTerm_of_spells (hwritable r hr) hspells
    refine ⟨Text.trim part, ⟨fun hempty => hne ?_, Text.trim_trim part, part, hpart, rfl⟩, hread⟩
    rw [← Text.toList_trim, hempty]
    rfl

/-- A selector that is written behind another one and a comma adds its requirements. -/
theorem requirements_append (selector more : String) :
    requirements (selector ++ "," ++ more) = requirements selector ++ requirements more := by
  rw [requirements, Text.entries_append, List.map_append, requirements, requirements]

/-- **A selector means the conjunction of its terms.**  However some requirements are written down,
labels match when they meet all of them; and two selectors with a comma between them match when both
do. -/
theorem selector_means_conjunction (labels : Labels) :
    (∀ (wanted : List Requirement) (selector : String), labels.Ordered →
      (∀ r ∈ wanted, r.Writable) → Writes wanted selector →
      (matchesSelector labels selector = true ↔ ∀ r ∈ wanted, r.Met labels)) ∧
    ∀ selector more : String,
      matchesSelector labels (selector ++ "," ++ more) =
        (matchesSelector labels selector && matchesSelector labels more) := by
  refine ⟨fun wanted selector hlabels hwritable hwrites => ?_, fun selector more => ?_⟩
  · rw [matchesSelector_eq_true_iff]
    refine forall_congr' fun r => ?_
    rw [mem_requirements_iff_of_writes hwritable hwrites, Requirement.holds_eq_true_iff hlabels]
  · rw [matchesSelector, requirements_append, List.all_append, matchesSelector, matchesSelector]

/-- Three requirements with blanks in and around their terms, one of them stated twice, with an
empty term between them and one at the end: they are met where there is a tier other than `web`, and
not where there is no tier. -/
theorem selector_means_conjunction_spacedTerms :
    let wanted : List Requirement := [.equals "app" "web", .differs "tier" "web", .present "tier"]
    let selector := " tier != web ,, app==web,tier,app = web,"
    let labels : Labels := [("app", "web"), ("tier", "db")]
    let others : Labels := [("app", "web")]
    (∀ r ∈ wanted, r.Writable) ∧ Writes wanted selector ∧ labels.Ordered ∧ others.Ordered ∧
      matchesSelector labels selector = true ∧ matchesSelector others selector = false ∧
      matchesSelector labels (selector ++ "," ++ "app!=web") = false := by
  intro wanted selector labels others
  have happ : Requirement.IsOperand "app" :=
    ⟨Text.trimChars_eq_self_iff.mp (by decide), ⟨by decide, by decide⟩, by decide⟩
  have hweb : Requirement.IsOperand "web" :=
    ⟨Text.trimChars_eq_self_iff.mp (by decide), ⟨by decide, by decide⟩, by decide⟩
  have htier : Requirement.IsOperand "tier" :=
    ⟨Text.trimChars_eq_self_iff.mp (by decide), ⟨by decide, by decide⟩, by decide⟩
  have hwritable : ∀ r ∈ wanted, r.Writable := by
    refine List.forall_mem_cons.mpr ⟨⟨by decide, happ, hweb⟩, List.forall_mem_cons.mpr
      ⟨⟨by decide, htier, hweb⟩, List.forall_mem_singleton.mpr ⟨by decide, htier⟩⟩⟩
  have hside (side word : String) (h : Text.trim side = word) : Padded side.toList word.toList :=
    h ▸ Text.padded_trim side
  have hfirst : Spells " tier != web ".toList (.differs "tier" "web") :=
    .differs (hside " tier " "tier" (by decide +kernel)) (hside " web " "web" (by decide +kernel))
  have hsecond : Spells " app==web".toList (.equals "app" "web") :=
    .equalsTwice (hside " app" "app" (by decide +kernel)) (hside "web" "web" (by decide +kernel))
  have hthird : Spells "tier".toList (.present "tier") :=
    .present (hside "tier" "tier" (by decide +kernel))
  have hfourth : Spells "app = web".toList (.equals "app" "web") :=
    .equals (hside "app " "app" (by decide +kernel)) (hside " web" "web" (by decide +kernel))
  have hempty : Padded "".toList [] := hside "" "" rfl
  have hwrites : Writes wanted selector := by
    refine ⟨[" tier != web ", "", " app==web", "tier", "app = web", ""], by decide +kernel, ?_, ?_⟩
    · simp only [List.forall_mem_cons]
      exact ⟨.inr ⟨_, by simp [wanted], hfirst⟩, .inl hempty, .inr ⟨_, by simp [wanted], hsecond⟩,
        .inr ⟨_, by simp [wanted], hthird⟩, .inr ⟨_, by simp [wanted], hfourth⟩, .inl hempty,
        List.forall_mem_nil _⟩
    · simp only [wanted, List.forall_mem_cons]
      exact ⟨⟨_, by simp, hsecond⟩, ⟨_, by simp, hfirst⟩, ⟨_, by simp, hthird⟩,
        List.forall_mem_nil _⟩
  have hordered : labels.Ordered := by
    rw [Labels.Ordered, Text.Increasing]
    decide
  have hothers : others.Ordered := List.pairwise_singleton _ _
  obtain ⟨hlabels, happend⟩ := selector_means_conjunction labels
  have hmatches : matchesSelector labels selector = true := by
    refine (hlabels wanted selector hordered hwritable hwrites).mpr ?_
    simp [wanted, labels, Requirement.Met]
  have hfails : ¬ matchesSelector others selector = true := by
    rw [(selector_means_conjunction others).1 wanted selector hothers hwritable hwrites]
    simp [wanted, others, Requirement.Met]
  refine ⟨hwritable, hwrites, hordered, hothers, hmatches, Bool.eq_false_iff.mpr hfails, ?_⟩
  rw [happend, hmatches]
  decide +kernel

end GuardedGateway.Cluster
