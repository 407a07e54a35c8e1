import GuardedGateway.Proofs.Cluster.Blotting
import GuardedGateway.Proofs.Cluster.Representable
import Mathlib.Data.Fintype.EquivFin

/-!
# What a selector tells about the labels

A selector answers one question about the labels of a pod.  The answer depends on the labels that
its requirements name: on the value where a value is compared, and only on the key where a key has
to be there.  So it does not depend on the secret ones if no requirement compares the value of a
secret key; and it does not depend on anything if no labels can match at all, as with `a=1,a=2`.
Such a selector is `Discreet`.

Any other tells secrets.  Among the labels that match it there are some of which only the value
under one secret key has to be changed so that they match no more (`exists_revealing`).
-/

namespace GuardedGateway.Cluster

open Guard (isSecretKey redacted)
open Json (Record)
open Json.Field (optional_gives optional_gives_of_put)

/-! ## Labels -/

namespace Labels

/-- Labels stand in the order of their keys, each key once. -/
def Ordered (labels : Labels) : Prop :=
  Text.Increasing Prod.fst labels

/-- Labels with a value under a key, which may have been there or not. -/
def set (key value : String) (labels : Labels) : Labels :=
  Text.insertBy Prod.fst (key, value) labels

theorem ordered_blotted {labels : Labels} (h : labels.Ordered) :
    (Labels.blotted labels).Ordered := by
  rw [Ordered, Text.Increasing, blotted, List.pairwise_map]
  exact h

theorem ordered_set (key value : String) {labels : Labels} (h : labels.Ordered) :
    (labels.set key value).Ordered :=
  Text.increasing_insertBy Prod.fst (key, value) h

theorem lookup_cons (l : String × String) (rest : Labels) (key : String) :
    List.lookup key (l :: rest) = if key = l.1 then some l.2 else rest.lookup key := by
  rw [List.lookup_cons]
  by_cases hkey : key = l.1
  · rw [if_pos hkey, beq_iff_eq.mpr hkey]
  · rw [if_neg hkey, beq_eq_false_iff_ne.mpr hkey]

theorem lookup_blotted (labels : Labels) (key : String) :
    (Labels.blotted labels).lookup key =
      (labels.lookup key).map fun value => if isSecretKey key then redacted else value := by
  induction labels with
  | nil => rfl
  | cons l rest ih =>
    rw [blotted] at ih
    rw [blotted, List.map_cons, lookup_cons, lookup_cons, ih]
    by_cases hkey : key = l.1
    · rw [if_pos hkey, if_pos hkey, hkey, Option.map_some]
    · rw [if_neg hkey, if_neg hkey]

section

variable (key value : String) (labels : Labels)

theorem lookup_set_self : (labels.set key value).lookup key = some value := by
  induction labels with
  | nil => exact List.lookup_cons_self
  | cons l rest ih =>
    rw [set] at ih
    rw [set, Text.insertBy]
    split
    · exact List.lookup_cons_self
    · rename_i hne
      split
      · exact List.lookup_cons_self
      · rw [lookup_cons, if_neg hne, ih]

theorem lookup_set_of_ne {other : String} (h : other ≠ key) :
    (labels.set key value).lookup other = labels.lookup other := by
  induction labels with
  | nil => exact (lookup_cons _ _ _).trans (if_neg h)
  | cons l rest ih =>
    rw [set] at ih
    rw [set, Text.insertBy]
    split
    · rename_i heq
      have hother : other ≠ l.1 := fun hl => h (hl.trans heq.symm)
      rw [lookup_cons, lookup_cons, if_neg h, if_neg hother]
    · split
      · rw [lookup_cons, if_neg h]
      · rw [lookup_cons, lookup_cons, ih]

/-- Setting a label to the value that it has changes nothing that is looked up. -/
theorem lookup_set_of_lookup {value : String} (h : labels.lookup key = some value)
    (other : String) : (labels.set key value).lookup other = labels.lookup other := by
  by_cases hother : other = key
  · rw [hother, lookup_set_self, h]
  · exact lookup_set_of_ne key value labels hother

/-- Which value stands under a secret key makes no difference once blotted. -/
theorem blotted_set (h : isSecretKey key = true) (other : String) :
    Labels.blotted (labels.set key value) = Labels.blotted (labels.set key other) := by
  have hhead : (key, if isSecretKey key then redacted else value) =
      (key, if isSecretKey key then redacted else other) := by
    rw [if_pos h, if_pos h]
  induction labels with
  | nil => exact congrArg (· :: []) hhead
  | cons l rest ih =>
    rw [set, set, blotted, blotted] at ih
    rw [set, set, Text.insertBy, Text.insertBy]
    split
    · exact congrArg (· :: _) hhead
    · split
      · exact congrArg (· :: _) hhead
      · exact congrArg (_ :: ·) ih

end

end Labels

/-! ## Requirements -/

namespace Requirement

/-- The key that a requirement is about. -/
def key : Requirement → String
  | .equals key _ => key
  | .differs key _ => key
  | .present key => key

/-- A requirement that compares no value under a secret key. -/
def Discreet : Requirement → Prop
  | .equals key _ => isSecretKey key = false
  | .differs key _ => isSecretKey key = false
  | .present _ => True

/-- Requirements look labels up. -/
theorem holds_congr {labels others : Labels} {requirement : Requirement}
    (h : labels.lookup requirement.key = others.lookup requirement.key) :
    requirement.holds labels = requirement.holds others := by
  cases requirement with
  | equals key value => exact congrArg (· == some value) h
  | differs key value => exact congrArg (· != some value) h
  | present key => exact congrArg Option.isSome h

/-- A discreet requirement does not notice that labels are blotted. -/
theorem holds_blotted {requirement : Requirement} (h : requirement.Discreet) (labels : Labels) :
    requirement.holds (Labels.blotted labels) = requirement.holds labels := by
  have hsame {key : String} (hkey : isSecretKey key = false) :
      (Labels.blotted labels).lookup key = labels.lookup key := by
    rw [Labels.lookup_blotted, hkey]
    exact Option.map_id'
  cases requirement with
  | equals key value => exact holds_congr (hsame h)
  | differs key value => exact holds_congr (hsame h)
  | present key => rw [holds, holds, Labels.lookup_blotted, Option.isSome_map]

/-- A requirement that is not discreet is about a secret key, and fails under some value. -/
theorem exists_fails {requirement : Requirement} (h : ¬ requirement.Discreet) :
    isSecretKey requirement.key = true ∧
      ∃ value, ∀ labels : Labels,
        requirement.holds (labels.set requirement.key value) = false := by
  cases requirement with
  | equals key wanted =>
    refine ⟨eq_true_of_ne_false h, ?_⟩
    obtain ⟨value, hvalue⟩ := Infinite.exists_notMem_finset {wanted}
    refine ⟨value, fun labels => ?_⟩
    rw [holds, Requirement.key, Labels.lookup_set_self, beq_eq_false_iff_ne]
    exact fun heq => hvalue (Finset.mem_singleton.mpr (Option.some.inj heq))
  | differs key unwanted =>
    refine ⟨eq_true_of_ne_false h, unwanted, fun labels => ?_⟩
    rw [holds, Requirement.key, Labels.lookup_set_self, bne_self_eq_false]
  | present key => exact absurd trivial h

end Requirement

/-! ## Selectors -/

/-- A selector that tells nothing about secret labels: it compares none, or matches nothing. -/
def Discreet (selector : String) : Prop :=
  (∀ requirement ∈ requirements selector, requirement.Discreet) ∨
    ∀ labels : Labels, labels.Ordered → matchesSelector labels selector = false

theorem matchesSelector_eq_true_iff {labels : Labels} {selector : String} :
    matchesSelector labels selector = true ↔
      ∀ requirement ∈ requirements selector, requirement.holds labels = true :=
  List.all_eq_true

theorem matchesSelector_congr {labels others : Labels} (selector : String)
    (h : ∀ key, labels.lookup key = others.lookup key) :
    matchesSelector labels selector = matchesSelector others selector := by
  have hholds : Requirement.holds labels = Requirement.holds others :=
    funext fun requirement => Requirement.holds_congr (h requirement.key)
  rw [matchesSelector, matchesSelector, hholds]

/-- A discreet selector does not notice that labels are blotted. -/
theorem matchesSelector_blotted {labels : Labels} {selector : String} (h : Discreet selector)
    (hlabels : labels.Ordered) :
    matchesSelector (Labels.blotted labels) selector = matchesSelector labels selector := by
  rcases h with hdiscreet | hnothing
  · rw [Bool.eq_iff_iff, matchesSelector_eq_true_iff, matchesSelector_eq_true_iff]
    refine forall₂_congr fun requirement hmem => ?_
    rw [Requirement.holds_blotted (hdiscreet requirement hmem)]
  · rw [hnothing _ (Labels.ordered_blotted hlabels), hnothing _ hlabels]

/-- Labels with a value under a key that no requirement compares with still match. -/
theorem matchesSelector_set_of_absent {labels : Labels} {selector key value : String}
    (hmatches : matchesSelector labels selector = true) (habsent : labels.lookup key = none)
    (hfresh : ∀ other, .differs key other ∈ requirements selector → value ≠ other) :
    matchesSelector (labels.set key value) selector = true := by
  rw [matchesSelector_eq_true_iff] at hmatches ⊢
  intro requirement hmem
  have hbefore := hmatches requirement hmem
  by_cases hkey : requirement.key = key
  · -- the key was absent, so all that can have been asked of it is to have another value
    cases requirement with
    | equals other wanted =>
      obtain rfl : other = key := hkey
      rw [Requirement.holds, habsent] at hbefore
      cases hbefore
    | present other =>
      obtain rfl : other = key := hkey
      rw [Requirement.holds, habsent] at hbefore
      cases hbefore
    | differs other wanted =>
      obtain rfl : other = key := hkey
      rw [Requirement.holds, Labels.lookup_set_self, bne_iff_ne]
      exact fun heq => hfresh wanted hmem (Option.some.inj heq)
  · rw [← hbefore]
    exact Requirement.holds_congr (Labels.lookup_set_of_ne key value labels hkey)

/-- Labels that match a selector can be given some value under any key such that they still do, if
the key was there or the selector does not ask for it. -/
theorem exists_set_matchesSelector {labels : Labels} {selector : String}
    (h : matchesSelector labels selector = true) (key : String) :
    ∃ value, matchesSelector (labels.set key value) selector = true := by
  cases hlookup : labels.lookup key with
  | some value =>
    refine ⟨value, ?_⟩
    rw [matchesSelector_congr selector (Labels.lookup_set_of_lookup key labels hlookup)]
    exact h
  | none =>
    let compared := (requirements selector).filterMap fun
      | .differs other value => if other = key then some value else none
      | _ => none
    obtain ⟨value, hvalue⟩ := Infinite.exists_notMem_finset compared.toFinset
    refine ⟨value, matchesSelector_set_of_absent h hlookup ?_⟩
    rintro other hmem rfl
    exact hvalue (List.mem_toFinset.mpr (List.mem_filterMap.mpr ⟨_, hmem, if_pos rfl⟩))

/-- **A selector that is not discreet tells secrets**: there are labels of which only the value
under a secret key decides whether they match. -/
theorem exists_revealing {selector : String} (h : ¬ Discreet selector) :
    ∃ (labels : Labels) (key value other : String),
      labels.Ordered ∧ isSecretKey key = true ∧
        matchesSelector (labels.set key value) selector = true ∧
        matchesSelector (labels.set key other) selector = false := by
  rw [Discreet, not_or] at h
  obtain ⟨hcompares, hmatches⟩ := h
  push Not at hcompares hmatches
  obtain ⟨requirement, hmem, hdiscreet⟩ := hcompares
  obtain ⟨labels, hordered, hlabels⟩ := hmatches
  obtain ⟨hsecret, other, hfails⟩ := Requirement.exists_fails hdiscreet
  obtain ⟨value, hvalue⟩ :=
    exists_set_matchesSelector (eq_true_of_ne_false hlabels) requirement.key
  refine ⟨labels, requirement.key, value, other, hordered, hsecret, hvalue, ?_⟩
  exact List.all_eq_false.mpr ⟨requirement, hmem, Bool.eq_false_iff.mp (hfails labels)⟩

/-! ## Snapshots -/

/-- A pod of which only the labels have been blotted. -/
def Pod.labelsBlotted (p : Pod) : Pod :=
  { p with labels := Labels.blotted p.labels }

namespace Snapshot

/-- The labels of every pod stand in the order of their keys. -/
def Ordered (snapshot : Snapshot) : Prop :=
  ∀ n ∈ snapshot.namespaces, ∀ p ∈ n.pods, Labels.Ordered p.labels

/-- A snapshot with every pod changed. -/
def mapPods (change : Pod → Pod) (snapshot : Snapshot) : Snapshot :=
  ⟨snapshot.namespaces.map fun n => { n with pods := n.pods.map change }⟩

/-- **A snapshot that was read is ordered.** -/
theorem ordered_of_parse {content : Bytes} {snapshot : Snapshot}
    (h : parse content = .ok snapshot) : snapshot.Ordered := by
  have hpods : Pod.record.Keeps fun p => Labels.Ordered p.labels :=
    { start := .nil
      field := by
        simp only [Pod.record, List.forall_mem_cons]
        refine ⟨?_, ?_, ?_, ?_, ?_, ?_, ?_, ?_, ?_, ?_, List.forall_mem_nil _⟩
        case refine_7 =>
          exact fun depth r hr => optional_gives (Json.mapOf_gives_increasing _ depth)
            fun labels h => h
        all_goals exact fun depth r hr => optional_gives_of_put fun _ => hr }
  have hnamespaces : Namespace.record.Keeps fun n => ∀ p ∈ n.pods, Labels.Ordered p.labels :=
    { start := List.forall_mem_nil _
      field := by
        simp only [Namespace.record, List.forall_mem_cons]
        refine ⟨?_, ?_, ?_, ?_, List.forall_mem_nil _⟩
        case refine_3 =>
          exact fun depth r hr => optional_gives
            (Json.listOf_gives (Record.shape_gives hpods) depth) fun _ h => h
        all_goals exact fun depth r hr => optional_gives_of_put fun _ => hr }
  have hstart : record.start.Ordered := List.forall_mem_nil _
  refine Record.keeps_of_parse (p := Snapshot.Ordered) ⟨hstart, ?_⟩ h
  simp only [record, List.forall_mem_cons]
  refine ⟨fun depth r hr => ?_, List.forall_mem_nil _⟩
  exact optional_gives (Json.listOf_gives (Record.shape_gives hnamespaces) depth) fun _ h => h

/-- Two snapshots that are equal except for the values under secret keys of labels. -/
def EqualButSecretLabels (a b : Snapshot) : Prop :=
  a.mapPods Pod.labelsBlotted = b.mapPods Pod.labelsBlotted

/-- Blotting annotations as well leaves them equal. -/
theorem EqualButSecretLabels.equalButSecrets {a b : Snapshot} (h : a.EqualButSecretLabels b) :
    a.EqualButSecrets b := by
  have htwice (labels : Labels) :
      Labels.blotted (Labels.blotted labels) = Labels.blotted labels := by
    rw [Labels.blotted, Labels.blotted, List.map_map]
    refine List.map_congr_left fun l _ => ?_
    by_cases hkey : isSecretKey l.1 = true
    · simp only [Function.comp_apply, if_pos hkey]
    · simp only [Function.comp_apply, if_neg hkey]
  have hpod (p : Pod) : p.labelsBlotted.blotted = p.blotted := by
    rw [Pod.labelsBlotted, Pod.blotted, Pod.blotted, htwice]
  have hblotted (snapshot : Snapshot) :
      (snapshot.mapPods Pod.labelsBlotted).blotted = snapshot.blotted := by
    rw [blotted, blotted, mapPods, List.map_map]
    refine congrArg Snapshot.mk (List.map_congr_left fun n _ => ?_)
    simp only [Function.comp_apply, Namespace.blotted, List.map_map]
    exact congrArg (Namespace.mk _ _ · _) (List.map_congr_left fun p _ => hpod p)
  rw [EqualButSecrets, ← hblotted a, ← hblotted b, h]

/-- A discreet selector, or none, selects the same pods of a snapshot and of the blotted one. -/
theorem listPods_blotted_of_discreet {snapshot : Snapshot} (hordered : snapshot.Ordered)
    {selector : Option String} (h : ∀ asked ∈ selector, Discreet asked) (ns : String) :
    snapshot.blotted.listPods ns selector = snapshot.listPods ns selector := by
  rw [listPods, listPods, readable_blotted]
  cases hreadable : snapshot.readable ns with
  | error fault => rfl
  | ok found =>
    cases found with
    | none => rfl
    | some n =>
      have hchosen : ∀ p ∈ n.pods,
          (selector.all fun asked => matchesSelector p.blotted.labels asked) =
            selector.all (matchesSelector p.labels) := by
        intro p hp
        cases selector with
        | none => rfl
        | some asked =>
          exact matchesSelector_blotted (h asked rfl)
            (hordered n (mem_of_readable hreadable) p hp)
      have hfilter : (n.pods.map Pod.blotted).filter
            (fun p => selector.all (matchesSelector p.labels)) =
          (n.pods.filter fun p => selector.all (matchesSelector p.labels)).map Pod.blotted := by
        rw [List.filter_map]
        exact congrArg (List.map Pod.blotted) (List.filter_congr hchosen)
      simp only [bind, Except.bind, Except.map, Option.map_some, Namespace.blotted, hfilter,
        List.map_map]
      rfl

/-- **Snapshots that differ in secret labels answer a discreet selector alike.** -/
theorem listPods_eq_of_discreet {a b : Snapshot} (ha : a.Ordered) (hb : b.Ordered)
    (hequal : a.EqualButSecretLabels b) {selector : Option String}
    (h : ∀ asked ∈ selector, Discreet asked) (ns : String) :
    a.listPods ns selector = b.listPods ns selector := by
  rw [← listPods_blotted_of_discreet ha h, ← listPods_blotted_of_discreet hb h,
    hequal.equalButSecrets]

/-! ## One pod -/

/-- A namespace with one pod that has these labels. -/
def singlePod (ns : String) (labels : Labels) : Snapshot :=
  ⟨[⟨ns, false, [{ Pod.record.start with labels }], []⟩]⟩

theorem ordered_singlePod (ns : String) {labels : Labels} (h : labels.Ordered) :
    (singlePod ns labels).Ordered :=
  List.forall_mem_singleton.mpr (List.forall_mem_singleton.mpr h)

theorem equalButSecretLabels_singlePod (ns : String) {labels others : Labels}
    (h : Labels.blotted labels = Labels.blotted others) :
    (singlePod ns labels).EqualButSecretLabels (singlePod ns others) := by
  simp only [EqualButSecretLabels, singlePod, mapPods, List.map_cons, List.map_nil,
    Pod.labelsBlotted, h]

theorem listPods_singlePod (ns : String) (labels : Labels) (selector : String) :
    (singlePod ns labels).listPods ns (some selector) =
      .ok (if matchesSelector labels selector then [⟨"", ns, "", ""⟩] else []) := by
  have hreadable : (singlePod ns labels).readable ns =
      .ok (some ⟨ns, false, [{ Pod.record.start with labels }], []⟩) := by
    simp [readable, entry?, singlePod]
  rw [listPods, hreadable]
  simp only [bind, Except.bind, List.filter_singleton, Option.all_some]
  cases matchesSelector labels selector <;> rfl

end Snapshot

end GuardedGateway.Cluster
