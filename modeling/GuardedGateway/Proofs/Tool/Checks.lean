import GuardedGateway.Proofs.Tool.Waiting
import Mathlib.Logic.Relation

/-!
# Checks that are done in any order

The listing of namespaces sends out a helper for every candidate.  The helpers are done in any
order, and their verdicts are taken in the order of the candidates, each when it is there.  When the
deadline passes nobody takes verdicts any more, and the helpers that are told to stop say no.

`Collection.Step` is one thing that happens.  What is kept is determined by the names that have been
asked about, and the verdict that is waiting for a name is the one on that name (`Sound`).  Each
step keeps this, so however the steps interleave the names that are kept in the end are those that
pass (`kept_of_collected`).  A collection that is stopped early has kept the first of them and no
others, although some of its verdicts are wrong by then (`kept_isPrefix`).

Every step brings the end nearer (`Step.remaining_lt`), and a collection that is not stopped can
always go on until everything is taken (`exists_collected`).
-/

namespace GuardedGateway.Tool

/-- Verdicts that are being collected: the names that are left to ask about, in order, each with the
verdict of its helper if that is done; the names that were kept; and whether the deadline has
passed. -/
structure Collection where
  left : List (String × Option Bool)
  kept : List String
  stopped : Bool

namespace Collection

/-- The helpers have been sent out. -/
def start (names : List String) : Collection :=
  ⟨names.map fun ns => (ns, none), [], false⟩

/-- Every verdict has been taken. -/
def Collected (c : Collection) : Prop := c.left = []

/-- What can happen: a helper is done, or gives up since it was told to; the next verdict is taken;
the deadline passes. -/
inductive Step (check : String → Bool) : Collection → Collection → Prop
  | done (before after : List (String × Option Bool)) (ns : String) (kept : List String)
      (stopped : Bool) :
      Step check ⟨before ++ (ns, none) :: after, kept, stopped⟩
        ⟨before ++ (ns, some (check ns)) :: after, kept, stopped⟩
  | gaveUp (before after : List (String × Option Bool)) (ns : String) (kept : List String) :
      Step check ⟨before ++ (ns, none) :: after, kept, true⟩
        ⟨before ++ (ns, some false) :: after, kept, true⟩
  | taken (ns : String) (verdict : Bool) (rest : List (String × Option Bool))
      (kept : List String) :
      Step check ⟨(ns, some verdict) :: rest, kept, false⟩
        ⟨rest, if verdict then kept ++ [ns] else kept, false⟩
  | stop (left : List (String × Option Bool)) (kept : List String) :
      Step check ⟨left, kept, false⟩ ⟨left, kept, true⟩

/-- Things that happen one after the other. -/
abbrev Steps (check : String → Bool) : Collection → Collection → Prop :=
  Relation.ReflTransGen (Step check)

variable {check : String → Bool} {names : List String} {c d : Collection}

/-! ## What is kept -/

/-- Of the names that were asked about those are kept that pass.  As long as the deadline has not
passed, the verdicts that are waiting are right. -/
structure Sound (check : String → Bool) (names : List String) (c : Collection) : Prop where
  kept : ∃ asked, names = asked ++ c.left.map Prod.fst ∧ c.kept = asked.filter check
  verdicts : c.stopped = false →
    ∀ name verdict, (name, some verdict) ∈ c.left → verdict = check name

theorem sound_start (check : String → Bool) (names : List String) :
    Sound check names (start names) where
  kept := ⟨[], by simp [start, Function.comp_def], rfl⟩
  verdicts _ name verdict h := by
    obtain ⟨ns, -, heq⟩ := List.mem_map.mp h
    cases heq

/-- Each step keeps a collection sound. -/
theorem Sound.step (h : Sound check names c) (hstep : Step check c d) : Sound check names d := by
  obtain ⟨asked, hnames, hkept⟩ := h.kept
  have hverdicts := h.verdicts
  cases hstep with
  | done before after ns kept stopped =>
    refine ⟨⟨asked, by simpa using hnames, hkept⟩, fun hgoing name verdict hmem => ?_⟩
    rcases List.mem_append.mp hmem with hbefore | hrest
    · exact hverdicts hgoing name verdict (List.mem_append_left _ hbefore)
    · rcases List.mem_cons.mp hrest with hnew | hafter
      · cases hnew
        rfl
      · exact hverdicts hgoing name verdict
          (List.mem_append_right _ (List.mem_cons_of_mem _ hafter))
  | gaveUp before after ns kept =>
    exact ⟨⟨asked, by simpa using hnames, hkept⟩, fun hgoing => nomatch hgoing⟩
  | taken ns verdict rest kept =>
    obtain rfl : verdict = check ns := hverdicts rfl ns verdict List.mem_cons_self
    refine ⟨⟨asked ++ [ns], by simpa using hnames, ?_⟩, fun hgoing name verdict' hmem =>
      hverdicts hgoing name verdict' (List.mem_cons_of_mem _ hmem)⟩
    have hasked : kept = asked.filter check := hkept
    rw [List.filter_append, List.filter_singleton, hasked]
    cases check ns <;> simp
  | stop left kept => exact ⟨⟨asked, hnames, hkept⟩, fun hgoing => nomatch hgoing⟩

theorem Sound.steps (h : Sound check names c) (hsteps : Steps check c d) :
    Sound check names d := by
  induction hsteps with
  | refl => exact h
  | tail _ hstep ih => exact ih.step hstep

/-- **The order in which the helpers are done does not matter**: when all verdicts have been taken,
the names that pass have been kept, in their order. -/
theorem kept_of_collected (hsteps : Steps check (start names) c) (hdone : c.Collected) :
    c.kept = names.filter check := by
  obtain ⟨asked, hnames, hkept⟩ := ((sound_start check names).steps hsteps).kept
  have hleft : c.left = [] := hdone
  rw [hleft, List.map_nil, List.append_nil] at hnames
  rw [hkept, hnames]

/-- At any time, stopped or not, the first of the names that pass have been kept. -/
theorem kept_isPrefix (hsteps : Steps check (start names) c) :
    c.kept <+: names.filter check := by
  obtain ⟨asked, hnames, hkept⟩ := ((sound_start check names).steps hsteps).kept
  rw [hkept, hnames, List.filter_append]
  exact List.prefix_append _ _

/-! ## Getting done -/

/-- How much can still happen: verdicts to take, helpers to wait for, and the deadline. -/
def remaining (c : Collection) : Nat :=
  c.left.length + c.left.countP (fun slot => slot.2.isNone) + if c.stopped then 0 else 1

/-- Every step brings the end nearer. -/
theorem Step.remaining_lt (h : Step check c d) : d.remaining < c.remaining := by
  cases h with
  | done => simp [remaining]
  | gaveUp => simp [remaining]
  | taken => simp [remaining]
  | stop => simp [remaining]

/-- What is next can be done or taken. -/
theorem exists_step (check : String → Bool) (hgoing : c.stopped = false) (hleft : ¬ c.Collected) :
    ∃ d, Step check c d ∧ d.stopped = false := by
  obtain ⟨left, kept, stopped⟩ := c
  obtain rfl : stopped = false := hgoing
  cases left with
  | nil => exact absurd rfl hleft
  | cons slot rest =>
    obtain ⟨ns, verdict?⟩ := slot
    cases verdict? with
    | none => exact ⟨_, .done [] rest ns kept false, rfl⟩
    | some verdict => exact ⟨_, .taken ns verdict rest kept, rfl⟩

/-- **Everything can be taken**, as long as the deadline has not passed. -/
theorem exists_collected (check : String → Bool) {c : Collection} (hgoing : c.stopped = false) :
    ∃ d, Steps check c d ∧ d.Collected ∧ d.stopped = false := by
  by_cases hdone : c.Collected
  · exact ⟨c, .refl, hdone, hgoing⟩
  · obtain ⟨next, hstep, hnext⟩ := exists_step check hgoing hdone
    have := hstep.remaining_lt
    obtain ⟨d, hsteps, hcollected⟩ := exists_collected check hnext
    exact ⟨d, .head hstep hsteps, hcollected⟩
termination_by c.remaining

end Collection

end GuardedGateway.Tool
