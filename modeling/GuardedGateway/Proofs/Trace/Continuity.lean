import GuardedGateway.Proofs.Trace.Traceparent
import Mathlib.Data.List.Chain

/-!
# One trace from hop to hop

A call goes from gateway to gateway, and each hands the context of its span on as a `traceparent`.
What is handed on has to be accepted, or the trace breaks there, and nobody notices: the next
gateway starts a trace of its own.  An id that is one digit short would be enough, and the numbers
that are written with one digit less are rare among those that are drawn.

So it is shown of every draw that a context spells itself in what it renders
(`Context.spelledBy_render`), and from that, hop by hop, that one trace goes through all of them
(`unbroken_along`).  Where it begins depends on what comes in: a `traceparent` that spells a parent
is continued, anything else starts a trace.
-/

namespace GuardedGateway.Trace

open Text (IsHexDigit)

/-! ## One hop -/

/-- The parent that a `traceparent` spells, if there is one and it spells any. -/
def Spells (traceparent : Option String) (parent : Parent) : Prop :=
  ∃ raw, traceparent = some raw ∧ parent.SpelledBy raw

theorem bind_parse?_eq_some_iff {traceparent : Option String} {parent : Parent} :
    traceparent.bind Parent.parse? = some parent ↔ Spells traceparent parent := by
  simp only [Option.bind_eq_some_iff, Parent.parse?_eq_some_iff, Spells]

namespace Context

/-- What a context is for the spans that continue it. -/
def asParent (context : Context) : Parent :=
  ⟨context.traceId, context.spanId, context.sampled⟩

/-- A context of which both ids are ids. -/
structure WellFormed (context : Context) : Prop where
  traceId : IsIdOf 32 context.traceId
  spanId : IsIdOf 16 context.spanId

section

variable {traceparent : Option String} {parent : Parent} (draw : Draw) (tracestate : Option String)

/-- A parent is continued. -/
theorem continueOrStart_of_spells (h : Spells traceparent parent) :
    continueOrStart draw traceparent tracestate =
      ⟨parent.traceId, newId 16 draw.span, some parent.spanId, tracestate, parent.sampled⟩ := by
  rw [continueOrStart, bind_parse?_eq_some_iff.mpr h]

/-- Where there is no parent, a trace is started. -/
theorem continueOrStart_of_not_spells (h : ∀ parent, ¬ Spells traceparent parent) :
    continueOrStart draw traceparent tracestate =
      ⟨newId 32 draw.trace, newId 16 draw.span, none, none, true⟩ := by
  have hnone : traceparent.bind Parent.parse? = none :=
    Option.eq_none_iff_forall_ne_some.mpr fun parent hparent =>
      h parent (bind_parse?_eq_some_iff.mp hparent)
  rw [continueOrStart, hnone]

/-- The context of every hop has ids, whatever comes in and whatever is drawn. -/
theorem wellFormed_continueOrStart (traceparent : Option String) :
    (continueOrStart draw traceparent tracestate).WellFormed := by
  have hspan : IsIdOf 16 (newId 16 draw.span) := isIdOf_newId (by decide) draw.span
  by_cases h : ∃ parent, Spells traceparent parent
  · obtain ⟨parent, hparent⟩ := h
    obtain ⟨raw, -, flags, -, htrace, -⟩ := id hparent
    rw [continueOrStart_of_spells draw tracestate hparent]
    exact ⟨htrace, hspan⟩
  · rw [continueOrStart_of_not_spells draw tracestate (not_exists.mp h)]
    exact ⟨isIdOf_newId (by decide) draw.trace, hspan⟩

end

theorem toList_render (context : Context) :
    context.render.toList = hyphenated context.traceId.toList context.spanId.toList
      ['0', if context.sampled then '1' else '0'] := by
  cases hsampled : context.sampled <;> simp [render, hyphenated, hsampled]

/-- **A context spells itself in what it renders.** -/
theorem spelledBy_render {context : Context} (h : context.WellFormed) :
    context.asParent.SpelledBy context.render := by
  have hflags : ∀ c ∈ ['0', if context.sampled then '1' else '0'], IsHexDigit c := by
    refine List.forall_mem_cons.mpr ⟨.inl (by decide), List.forall_mem_singleton.mpr ?_⟩
    cases context.sampled <;> exact .inl (by decide)
  refine ⟨['0', if context.sampled then '1' else '0'], ?_, h.traceId, h.spanId, rfl, hflags, ?_⟩
  · rw [toList_render, trimChars_hyphenated h.traceId.digits h.spanId.digits hflags]
    rfl
  · show context.sampled = _
    cases context.sampled <;> decide

end Context

/-! ## Hops -/

/-- What there is to a hop besides the `traceparent`: the numbers that are drawn for it, and the
`tracestate` that came along. -/
structure Hop where
  draw : Draw
  tracestate : Option String

/-- The contexts of hops of which each hands its context on to the next.  The first one is given a
`traceparent` from outside. -/
def Context.along : Option String → List Hop → List Context
  | _, [] => []
  | traceparent, hop :: rest =>
    let context := continueOrStart hop.draw traceparent hop.tracestate
    context :: along (some context.render) rest

/-- Contexts that carry the trace of a parent from hop to hop. -/
structure Follows (parent : Parent) (hops : List Hop) (contexts : List Context) : Prop where
  sameTrace : ∀ context ∈ contexts,
    context.traceId = parent.traceId ∧ context.sampled = parent.sampled
  first : ∀ context ∈ contexts.head?, context.parentSpanId = some parent.spanId
  linked : contexts.IsChain fun a b => b.parentSpanId = some a.spanId
  states : contexts.map Context.traceState = hops.map Hop.tracestate

/-- One hop more: what follows the context of a hop follows the parent of that hop. -/
theorem Follows.cons {parent : Parent} {hops : List Hop} {contexts : List Context} {hop : Hop}
    {context : Context} (htrace : context.traceId = parent.traceId)
    (hsampled : context.sampled = parent.sampled)
    (hspan : context.parentSpanId = some parent.spanId)
    (hstate : context.traceState = hop.tracestate)
    (h : Follows context.asParent hops contexts) :
    Follows parent (hop :: hops) (context :: contexts) where
  sameTrace := by
    refine List.forall_mem_cons.mpr ⟨⟨htrace, hsampled⟩, fun next hnext => ?_⟩
    obtain ⟨htrace', hsampled'⟩ := h.sameTrace next hnext
    exact ⟨htrace'.trans htrace, hsampled'.trans hsampled⟩
  first := by
    rintro _ ⟨⟩
    exact hspan
  linked := List.isChain_cons.mpr ⟨h.first, h.linked⟩
  states := by rw [List.map_cons, List.map_cons, hstate, h.states]

/-- **A parent is followed through all hops.** -/
theorem follows_along {traceparent : Option String} {parent : Parent}
    (h : Spells traceparent parent) (hops : List Hop) :
    Follows parent hops (Context.along traceparent hops) := by
  induction hops generalizing traceparent parent with
  | nil => exact ⟨List.forall_mem_nil _, nofun, .nil, rfl⟩
  | cons hop rest ih =>
    have hcontext := Context.continueOrStart_of_spells hop.draw hop.tracestate h
    have hwell := Context.wellFormed_continueOrStart hop.draw hop.tracestate traceparent
    have hrest := ih ⟨_, rfl, Context.spelledBy_render hwell⟩
    exact .cons (by rw [hcontext]) (by rw [hcontext]) (by rw [hcontext]) (by rw [hcontext]) hrest

/-- Contexts that carry one trace from hop to hop, wherever it began. -/
structure Unbroken (hops : List Hop) (contexts : List Context) : Prop where
  length : contexts.length = hops.length
  wellFormed : ∀ context ∈ contexts, context.WellFormed
  oneTrace : ∀ a ∈ contexts, ∀ b ∈ contexts, a.traceId = b.traceId ∧ a.sampled = b.sampled
  linked : contexts.IsChain fun a b => b.parentSpanId = some a.spanId
  states : contexts.tail.map Context.traceState = hops.tail.map Hop.tracestate

theorem length_along (traceparent : Option String) (hops : List Hop) :
    (Context.along traceparent hops).length = hops.length := by
  induction hops generalizing traceparent with
  | nil => rfl
  | cons hop rest ih => rw [Context.along, List.length_cons, List.length_cons, ih]

theorem wellFormed_of_mem_along {traceparent : Option String} {hops : List Hop} {context : Context}
    (h : context ∈ Context.along traceparent hops) : context.WellFormed := by
  induction hops generalizing traceparent with
  | nil => exact absurd h List.not_mem_nil
  | cons hop rest ih =>
    obtain rfl | hrest := List.mem_cons.mp h
    · exact Context.wellFormed_continueOrStart hop.draw hop.tracestate traceparent
    · exact ih hrest

/-- **One trace goes through all hops.**  The first hop may start it, all others follow. -/
theorem unbroken_along (traceparent : Option String) (hops : List Hop) :
    Unbroken hops (Context.along traceparent hops) := by
  have hlength := length_along traceparent hops
  have hwell : ∀ context ∈ Context.along traceparent hops, context.WellFormed :=
    fun _ => wellFormed_of_mem_along
  cases hops with
  | nil => exact ⟨hlength, hwell, List.forall_mem_nil _, .nil, rfl⟩
  | cons hop rest =>
    have hfirst := Context.wellFormed_continueOrStart hop.draw hop.tracestate traceparent
    have hrest := follows_along ⟨_, rfl, Context.spelledBy_render hfirst⟩ rest
    rw [Context.along] at hlength hwell ⊢
    generalize Context.continueOrStart hop.draw traceparent hop.tracestate = first at *
    have hall : ∀ context ∈ first :: Context.along (some first.render) rest,
        context.traceId = first.traceId ∧ context.sampled = first.sampled :=
      List.forall_mem_cons.mpr ⟨⟨rfl, rfl⟩, hrest.sameTrace⟩
    refine ⟨hlength, hwell, fun a ha b hb => ?_, ?_, hrest.states⟩
    · obtain ⟨hatrace, hasampled⟩ := hall a ha
      obtain ⟨hbtrace, hbsampled⟩ := hall b hb
      exact ⟨hatrace.trans hbtrace.symm, hasampled.trans hbsampled.symm⟩
    · exact List.isChain_cons.mpr ⟨hrest.first, hrest.linked⟩

/-- **The trace is not broken**, whatever comes in and whatever is drawn.  A context has two ids, is
read back from what it renders, and keeps the `tracestate` exactly when the `traceparent` that came
with it spells a parent.  So through any number of hops there is one trace id and one sampled flag,
those of the caller if there is a parent, and the parent of each hop is the span of the hop before.
-/
theorem continues_through_all_hops (traceparent : Option String) :
    (∀ draw tracestate,
      let context := Context.continueOrStart draw traceparent tracestate
      context.WellFormed ∧
      Parent.parse? context.render = some ⟨context.traceId, context.spanId, context.sampled⟩ ∧
      (∀ parent, Spells traceparent parent → context.traceState = tracestate) ∧
      ((∀ parent, ¬ Spells traceparent parent) → context.traceState = none)) ∧
    ∀ hops,
      Unbroken hops (Context.along traceparent hops) ∧
      ∀ parent, Spells traceparent parent →
        Follows parent hops (Context.along traceparent hops) := by
  refine ⟨fun draw tracestate => ?_, fun hops => ?_⟩
  · have hwell := Context.wellFormed_continueOrStart draw tracestate traceparent
    refine ⟨hwell, ?_, fun parent hparent => ?_, fun hnone => ?_⟩
    · exact Parent.parse?_eq_some_iff.mpr (Context.spelledBy_render hwell)
    · rw [Context.continueOrStart_of_spells draw tracestate hparent]
    · rw [Context.continueOrStart_of_not_spells draw tracestate hnone]
  · exact ⟨unbroken_along traceparent hops, fun _ hparent => follows_along hparent hops⟩

end GuardedGateway.Trace
