import GuardedGateway.Gateway.Session
import GuardedGateway.Proofs.Dispatch.Agreement
import GuardedGateway.Proofs.Dispatch.Decision
import Mathlib.Data.List.Nodup

/-!
# Sessions of overlapping dispatches

In a session dispatches begin and end in any order, and the settings and the connection change in
between.  A dispatch that has begun is known by its ticket, the number of dispatches that began
before it; one whose caller has stopped waiting just never ends.

A session keeps a trail: for each phase of a dispatch, the records and the series that this phase
has added.  So `Session.added` tells what one dispatch has added, even when others have written in
between, and the log and the metrics are what they were at the start and the whole trail
(`Session.Sound`).

When nothing comes between the beginning of a dispatch and its end, the session is `Sequential`.
Then the records of the dispatches stand one after the other in the log, and the session is a run
over the calls and bodies that were dispatched (`state_run_of_sequential`).
-/

namespace GuardedGateway.Gateway

/-! ## Sessions -/

/-- What a dispatch has added in one of its phases. -/
structure Trail where
  ticket : Nat
  records : List Audit.Record
  series : List Series

/-- What stands in a state and did not stand in an earlier one. -/
def Trail.between (ticket : Nat) (before after : State) : Trail where
  ticket := ticket
  records := after.audit.records.drop before.audit.records.length
  series := after.metrics.drop before.metrics.length

/-- A dispatch that has begun and not ended. -/
structure Open where
  ticket : Nat
  incoming : Incoming
  pending : Pending

/-- A dispatch that has returned. -/
structure Returned where
  ticket : Nat
  incoming : Incoming
  dispatched : Dispatched

/-- A session: the state of the gateway, the number of dispatches that have begun, those that have
not ended, the trail, and those that have returned, in order. -/
structure Session where
  state : State
  begun : Nat
  underway : List Open
  trail : List Trail
  returned : List Returned

/-- What happens next in a session. -/
inductive Move where
  | begin (ambient : Ambient) (incoming : Incoming)
  | finish (ticket : Nat)
  | change (live : Settings) (connection : Cluster.Connection)

namespace Session

/-- A session in which nothing has happened. -/
def start (state : State) : Session := ⟨state, 0, [], [], []⟩

/-- The session after a dispatch has begun. -/
def begin (frame : Frame) (session : Session) (ambient : Ambient) (incoming : Incoming) : Session :=
  let (state, pending) := incoming.begin frame ambient session.state
  { state
    begun := session.begun + 1
    underway := session.underway ++ [⟨session.begun, incoming, pending⟩]
    trail := session.trail ++ [.between session.begun session.state state]
    returned := session.returned }

/-- The session after a dispatch has ended. -/
def finish (frame : Frame) (session : Session) (ended : Open) : Session :=
  let (state, dispatched) := ended.pending.conclude frame session.state
  { state
    begun := session.begun
    underway := session.underway.filter fun other => other.ticket != ended.ticket
    trail := session.trail ++ [.between ended.ticket session.state state]
    returned := session.returned ++ [⟨ended.ticket, ended.incoming, dispatched⟩] }

/-- One move.  To finish what is not underway does nothing. -/
def step (frame : Frame) (session : Session) : Move → Session
  | .begin ambient incoming => session.begin frame ambient incoming
  | .finish ticket =>
    match session.underway.find? fun other => other.ticket == ticket with
    | some ended => session.finish frame ended
    | none => session
  | .change live connection => { session with state := { session.state with live, connection } }

/-- The session after some moves. -/
def run (frame : Frame) (session : Session) (moves : List Move) : Session :=
  moves.foldl (step frame) session

/-- What a dispatch has added in all its phases, in order: its records, or its series. -/
def added {β : Type} (session : Session) (kind : Trail → List β) (ticket : Nat) : List β :=
  (session.trail.filter fun part => part.ticket == ticket).flatMap kind

/-! ## What a session keeps -/

/-- The log and the metrics of a session are what they were at the start and its trail, and each
dispatch has left in the trail what it should by now: the record of its call while it is underway,
and everything that there is to record once it has returned. -/
structure Sound (frame : Frame) (initial : State) (session : Session) : Prop where
  works : session.state.audit.Works
  records : session.state.audit.records =
    initial.audit.records ++ session.trail.flatMap Trail.records
  metrics : session.state.metrics = initial.metrics ++ session.trail.flatMap Trail.series
  begun_trail : ∀ part ∈ session.trail, part.ticket < session.begun
  begun_underway : ∀ other ∈ session.underway, other.ticket < session.begun
  begun_returned : ∀ other ∈ session.returned, other.ticket < session.begun
  nodup : (session.returned.map Returned.ticket ++ session.underway.map Open.ticket).Nodup
  opened : ∀ other ∈ session.underway,
    (∃ called, Opened other.incoming other.pending
      (session.added Trail.records other.ticket) called) ∧
      session.added Trail.series other.ticket = []
  recorded : ∀ other ∈ session.returned, ∃ called ended sample shown,
    RecordedOnce other.incoming other.dispatched (session.added Trail.records other.ticket)
      (session.added Trail.series other.ticket) called ended sample shown

variable {frame : Frame} {initial : State} {session : Session}

theorem sound_start (h : initial.audit.Works) : Sound frame initial (start initial) where
  works := h
  records := (List.append_nil _).symm
  metrics := (List.append_nil _).symm
  begun_trail := List.forall_mem_nil _
  begun_underway := List.forall_mem_nil _
  begun_returned := List.forall_mem_nil _
  nodup := List.nodup_nil
  opened := List.forall_mem_nil _
  recorded := List.forall_mem_nil _

/-- A part of the trail tells what was added. -/
theorem between_eq {ticket : Nat} {before after : State} {records : List Audit.Record}
    {series : List Series} (hrecords : after.audit.records = before.audit.records ++ records)
    (hseries : after.metrics = before.metrics ++ series) :
    Trail.between ticket before after = ⟨ticket, records, series⟩ := by
  rw [Trail.between, hrecords, hseries, List.drop_left, List.drop_left]

section

variable {next : Session} {part : Trail} (htrail : next.trail = session.trail ++ [part])
include htrail

/-- The trail grows by one part. -/
theorem flatMap_trail {β : Type} (kind : Trail → List β) :
    next.trail.flatMap kind = session.trail.flatMap kind ++ kind part := by
  rw [htrail, List.flatMap_append, List.flatMap_singleton]

/-- The dispatch that the part belongs to has added the part. -/
theorem added_of_ticket {β : Type} (kind : Trail → List β) :
    next.added kind part.ticket = session.added kind part.ticket ++ kind part := by
  have hkept : [part].filter (fun other => other.ticket == part.ticket) = [part] :=
    List.filter_eq_self.mpr fun other hother => by rw [List.mem_singleton.mp hother]; simp
  rw [added, htrail, List.filter_append, List.flatMap_append, hkept, List.flatMap_singleton, added]

/-- No other dispatch has added anything. -/
theorem added_of_ne {β : Type} (kind : Trail → List β) {ticket : Nat} (h : ticket ≠ part.ticket) :
    next.added kind ticket = session.added kind ticket := by
  have hdropped : [part].filter (fun other => other.ticket == ticket) = [] :=
    List.filter_eq_nil_iff.mpr fun other hother => by
      rw [List.mem_singleton.mp hother, beq_iff_eq]
      exact h.symm
  rw [added, htrail, List.filter_append, hdropped, List.append_nil, added]

end

/-- A dispatch that has not begun has added nothing. -/
theorem added_begun {β : Type} (kind : Trail → List β)
    (h : ∀ part ∈ session.trail, part.ticket < session.begun) :
    session.added kind session.begun = [] := by
  have hnone : session.trail.filter (fun part => part.ticket == session.begun) = [] := by
    refine List.filter_eq_nil_iff.mpr fun part hpart hticket => ?_
    exact Nat.ne_of_lt (h part hpart) (beq_iff_eq.mp hticket)
  rw [added, hnone, List.flatMap_nil]

/-- **A dispatch begins.** -/
theorem sound_begin (h : Sound frame initial session) (ambient : Ambient) (incoming : Incoming) :
    Sound frame initial (session.begin frame ambient incoming) := by
  obtain ⟨called, hworks, hrecords, hmetrics, hopened⟩ :=
    exists_opened_begin frame ambient incoming h.works
  have hpart : Trail.between session.begun session.state
      (incoming.begin frame ambient session.state).1 = ⟨session.begun, called.toList, []⟩ :=
    between_eq hrecords (hmetrics.trans (List.append_nil _).symm)
  have htrail : (session.begin frame ambient incoming).trail =
      session.trail ++ [⟨session.begun, called.toList, []⟩] := congrArg (session.trail ++ [·]) hpart
  have hlater {ticket : Nat} (hlt : ticket < session.begun) : ticket < session.begun + 1 :=
    Nat.lt_succ_of_lt hlt
  constructor
  case works => exact hworks
  case records =>
    rw [flatMap_trail htrail, ← List.append_assoc, ← h.records]
    exact hrecords
  case metrics =>
    rw [flatMap_trail htrail, List.append_nil, ← h.metrics]
    exact hmetrics
  case begun_trail =>
    rw [htrail, List.forall_mem_append, List.forall_mem_singleton]
    exact ⟨fun part hpart => hlater (h.begun_trail part hpart), Nat.lt_succ_self _⟩
  case begun_underway =>
    refine List.forall_mem_append.mpr
      ⟨fun other hother => hlater (h.begun_underway other hother), ?_⟩
    exact List.forall_mem_singleton.mpr (Nat.lt_succ_self _)
  case begun_returned => exact fun other hother => hlater (h.begun_returned other hother)
  case nodup =>
    have hearlier : ∀ ticket ∈
        session.returned.map Returned.ticket ++ session.underway.map Open.ticket,
        ticket < session.begun :=
      List.forall_mem_append.mpr
        ⟨List.forall_mem_map.mpr h.begun_returned, List.forall_mem_map.mpr h.begun_underway⟩
    have hunderway : (session.begin frame ambient incoming).underway.map Open.ticket =
        session.underway.map Open.ticket ++ [session.begun] := List.map_append
    rw [hunderway, ← List.append_assoc, ← List.concat_eq_append]
    exact h.nodup.concat fun hmem => Nat.lt_irrefl _ (hearlier _ hmem)
  case opened =>
    refine List.forall_mem_append.mpr ⟨fun other hother => ?_, List.forall_mem_singleton.mpr ?_⟩
    · have hne : other.ticket ≠ session.begun := Nat.ne_of_lt (h.begun_underway other hother)
      rw [added_of_ne htrail _ hne, added_of_ne htrail _ hne]
      exact h.opened other hother
    · have hlines := added_of_ticket htrail Trail.records
      have hseries := added_of_ticket htrail Trail.series
      simp only [added_begun _ h.begun_trail, List.nil_append] at hlines hseries
      exact ⟨⟨called, hlines ▸ hopened⟩, hseries⟩
  case recorded =>
    intro other hother
    have hne : other.ticket ≠ session.begun := Nat.ne_of_lt (h.begun_returned other hother)
    rw [added_of_ne htrail _ hne, added_of_ne htrail _ hne]
    exact h.recorded other hother

/-- All others are still underway when a dispatch has ended. -/
theorem mem_underway_finish {ended other : Open} :
    other ∈ (session.finish frame ended).underway ↔
      other ∈ session.underway ∧ other.ticket ≠ ended.ticket := by
  rw [finish, List.mem_filter, bne_iff_ne]

/-- When a dispatch ends its ticket passes from those underway to those that have returned. -/
theorem tickets_finish_perm {ended : Open} (h : (session.underway.map Open.ticket).Nodup)
    (hended : ended ∈ session.underway) :
    (session.returned.map Returned.ticket ++ session.underway.map Open.ticket).Perm
      ((session.finish frame ended).returned.map Returned.ticket ++
        (session.finish frame ended).underway.map Open.ticket) := by
  have hreturned : (session.finish frame ended).returned.map Returned.ticket =
      session.returned.map Returned.ticket ++ [ended.ticket] := List.map_append
  have hunderway : (session.finish frame ended).underway.map Open.ticket =
      (session.underway.map Open.ticket).erase ended.ticket := by
    rw [h.erase_eq_filter, List.filter_map]
    rfl
  rw [hreturned, hunderway, List.append_assoc, List.singleton_append]
  exact (List.perm_cons_erase (List.mem_map_of_mem hended)).append_left _

/-- **A dispatch ends.** -/
theorem sound_finish (h : Sound frame initial session) {ended : Open}
    (hended : ended ∈ session.underway) : Sound frame initial (session.finish frame ended) := by
  obtain ⟨hworks, hrecords, hmetrics⟩ := ended.pending.conclude_eq frame h.works
  have htrail : (session.finish frame ended).trail = session.trail ++
      [⟨ended.ticket, [ended.pending.record], samples frame.registry ended.pending.response⟩] :=
    congrArg (session.trail ++ [·]) (between_eq hrecords hmetrics)
  obtain ⟨-, hnodup, hdisjoint⟩ := List.nodup_append.mp h.nodup
  constructor
  case works => exact hworks
  case records =>
    rw [flatMap_trail htrail, ← List.append_assoc, ← h.records]
    exact hrecords
  case metrics =>
    rw [flatMap_trail htrail, ← List.append_assoc, ← h.metrics]
    exact hmetrics
  case begun_trail =>
    rw [htrail, List.forall_mem_append, List.forall_mem_singleton]
    exact ⟨h.begun_trail, h.begun_underway ended hended⟩
  case begun_underway =>
    exact fun other hother => h.begun_underway other (mem_underway_finish.mp hother).1
  case begun_returned =>
    refine List.forall_mem_append.mpr ⟨h.begun_returned, ?_⟩
    exact List.forall_mem_singleton.mpr (h.begun_underway ended hended)
  case nodup => exact (tickets_finish_perm hnodup hended).nodup_iff.mp h.nodup
  case opened =>
    intro other hother
    obtain ⟨hmem, hne⟩ := mem_underway_finish.mp hother
    rw [added_of_ne htrail _ hne, added_of_ne htrail _ hne]
    exact h.opened other hmem
  case recorded =>
    refine List.forall_mem_append.mpr ⟨fun other hother => ?_, List.forall_mem_singleton.mpr ?_⟩
    · have hne : other.ticket ≠ ended.ticket :=
        hdisjoint _ (List.mem_map_of_mem hother) _ (List.mem_map_of_mem hended)
      rw [added_of_ne htrail _ hne, added_of_ne htrail _ hne]
      exact h.recorded other hother
    · obtain ⟨⟨called, hopened⟩, hadded⟩ := h.opened ended hended
      have hlines := added_of_ticket htrail Trail.records
      have hseries := added_of_ticket htrail Trail.series
      simp only [hadded, List.nil_append] at hlines hseries
      rw [hlines, hseries]
      exact ⟨called, _, _, _, recordedOnce_conclude frame hopened session.state⟩

/-- **One move** keeps what a session keeps. -/
theorem sound_step (h : Sound frame initial session) (move : Move) :
    Sound frame initial (session.step frame move) := by
  cases move with
  | begin ambient incoming => exact sound_begin h ambient incoming
  | finish ticket =>
    rw [step]
    cases hfound : session.underway.find? fun other => other.ticket == ticket with
    | none => exact h
    | some ended => exact sound_finish h (List.mem_of_find?_eq_some hfound)
  | change live connection => exact { h with }

/-- Any moves do. -/
theorem sound_run (h : Sound frame initial session) (moves : List Move) :
    Sound frame initial (session.run frame moves) := by
  induction moves generalizing session with
  | nil => exact h
  | cons move moves ih => exact ih (sound_step h move)

/-! ## One dispatch after another -/

/-- The session after a dispatch that nothing comes in between. -/
def complete (frame : Frame) (session : Session) (ambient : Ambient) (incoming : Incoming) :
    Session :=
  (session.begin frame ambient incoming).finish frame
    ⟨session.begun, incoming, (incoming.begin frame ambient session.state).2⟩

/-- Moves that finish a dispatch before the next one begins; so many have begun before. -/
inductive Sequential : Nat → List Move → Prop
  | nil (begun : Nat) : Sequential begun []
  | dispatch {begun : Nat} {moves : List Move} (ambient : Ambient) (incoming : Incoming) :
    Sequential (begun + 1) moves →
    Sequential begun (.begin ambient incoming :: .finish begun :: moves)
  | change {begun : Nat} {moves : List Move} (live : Settings) (connection : Cluster.Connection) :
    Sequential begun moves → Sequential begun (.change live connection :: moves)

/-- Each dispatch that has returned has its records in one piece, and these pieces are all of the
trail, in order. -/
def InOrder (session : Session) : Prop :=
  session.trail.flatMap Trail.records =
    session.returned.flatMap fun returned => session.added Trail.records returned.ticket

section

variable (frame) (ambient : Ambient) (incoming : Incoming)

theorem step_finish_step_begin (hidle : session.underway = []) :
    (session.step frame (.begin ambient incoming)).step frame (.finish session.begun) =
      session.complete frame ambient incoming := by
  have hopen : (session.begin frame ambient incoming).underway = session.underway ++
      [⟨session.begun, incoming, (incoming.begin frame ambient session.state).2⟩] := rfl
  rw [step, step, hopen, hidle, List.nil_append, List.find?_singleton, if_pos (by simp), complete]

/-- A dispatch that nothing comes in between is the dispatch of a gateway on its own. -/
theorem state_complete :
    (session.complete frame ambient incoming).state =
      (incoming.dispatch frame ambient session.state).done := by
  obtain ⟨-, hended⟩ := incoming.dispatch_eq_conclude_begin frame ambient session.state
  exact (congrArg Prod.fst hended).symm

theorem returned_complete :
    (session.complete frame ambient incoming).returned = session.returned ++
      [⟨session.begun, incoming, (incoming.dispatch frame ambient session.state).result⟩] := by
  obtain ⟨-, hended⟩ := incoming.dispatch_eq_conclude_begin frame ambient session.state
  have hresult : (incoming.dispatch frame ambient session.state).result = _ :=
    congrArg Prod.snd hended
  rw [hresult]
  rfl

theorem underway_complete (hidle : session.underway = []) :
    (session.complete frame ambient incoming).underway = [] := by
  refine List.eq_nil_iff_forall_not_mem.mpr fun other hother => ?_
  obtain ⟨hmem, hne⟩ := mem_underway_finish.mp hother
  have hopen : other ∈ session.underway ++
      [⟨session.begun, incoming, (incoming.begin frame ambient session.state).2⟩] := hmem
  rw [hidle, List.nil_append, List.mem_singleton] at hopen
  exact hne (congrArg Open.ticket hopen)

theorem sound_complete (h : Sound frame initial session) :
    Sound frame initial (session.complete frame ambient incoming) :=
  sound_finish (sound_begin h ambient incoming)
    (List.mem_append_right _ (List.mem_singleton.mpr rfl))

/-- A dispatch that nothing comes in between adds its records in one piece. -/
theorem inOrder_complete (h : Sound frame initial session) (horder : session.InOrder) :
    (session.complete frame ambient incoming).InOrder := by
  have hfirst : (session.begin frame ambient incoming).trail = session.trail ++
      [.between session.begun session.state (session.begin frame ambient incoming).state] := rfl
  have hsecond : (session.complete frame ambient incoming).trail =
      (session.begin frame ambient incoming).trail ++
        [.between session.begun (session.begin frame ambient incoming).state
          (session.complete frame ambient incoming).state] := rfl
  have hold : ∀ returned ∈ session.returned,
      (session.complete frame ambient incoming).added Trail.records returned.ticket =
        session.added Trail.records returned.ticket := by
    intro returned hreturned
    have hne : returned.ticket ≠ session.begun :=
      Nat.ne_of_lt (h.begun_returned returned hreturned)
    rw [added_of_ne hsecond _ hne, added_of_ne hfirst _ hne]
  have hnew := added_of_ticket hsecond Trail.records
  have hbegun := added_of_ticket hfirst Trail.records
  simp only [Trail.between] at hnew hbegun hfirst hsecond
  rw [added_begun _ h.begun_trail, List.nil_append] at hbegun
  rw [InOrder, flatMap_trail hsecond, flatMap_trail hfirst, returned_complete,
    List.flatMap_append, List.flatMap_congr hold, horder, List.flatMap_singleton, hnew, hbegun,
    List.append_assoc]

end

/-- **In a sequential session** the records of the dispatches stand one after the other. -/
theorem inOrder_run_of_sequential {moves : List Move} (h : Sound frame initial session)
    (hidle : session.underway = []) (horder : session.InOrder)
    (hmoves : Sequential session.begun moves) : (session.run frame moves).InOrder := by
  generalize hbegun : session.begun = begun at hmoves
  induction hmoves generalizing session with
  | nil => exact horder
  | dispatch ambient incoming _ ih =>
    subst hbegun
    rw [run, List.foldl_cons, List.foldl_cons, step_finish_step_begin frame ambient incoming hidle]
    exact ih (sound_complete frame ambient incoming h)
      (underway_complete frame ambient incoming hidle)
      (inOrder_complete frame ambient incoming h horder) rfl
  | change live connection _ ih =>
    exact ih (sound_step h (.change live connection)) hidle horder hbegun

end Session

/-! ## Sequential sessions and runs -/

/-- The event in the life of a gateway that a dispatch is. -/
def Incoming.event : Incoming → Event
  | .body content => .body content
  | .call given => .call given

theorem step_event (frame : Frame) (ambient : Ambient) (state : State) (incoming : Incoming) :
    (step frame ambient state incoming.event).1 =
      (incoming.dispatch frame ambient state).done := by
  cases incoming <;> rfl

/-- The events that the moves of a sequential session are; a change happens at some moment. -/
def Move.events (moment : Ambient) : Move → List (Ambient × Event)
  | .begin ambient incoming => [(ambient, incoming.event)]
  | .finish _ => []
  | .change live connection => [(moment, .configure live), (moment, .reconnect connection)]

/-- **A sequential session is a run** over the dispatches that begin in it. -/
theorem Session.state_run_of_sequential {frame : Frame} {session : Session} {moves : List Move}
    (moment : Ambient) (hidle : session.underway = [])
    (hmoves : Sequential session.begun moves) :
    (session.run frame moves).state =
      Gateway.run frame session.state (moves.flatMap (Move.events moment)) := by
  generalize hbegun : session.begun = begun at hmoves
  induction hmoves generalizing session with
  | nil => rfl
  | dispatch ambient incoming _ ih =>
    subst hbegun
    have hrest := ih (underway_complete frame ambient incoming hidle) rfl
    rw [state_complete, ← step_event] at hrest
    rw [Session.run, List.foldl_cons, List.foldl_cons,
      step_finish_step_begin frame ambient incoming hidle]
    exact hrest
  | @change begun rest live connection _ ih =>
    have hrest : ((session.step frame (.change live connection)).run frame rest).state = _ :=
      ih hidle hbegun
    exact hrest

/-- **One outcome, recorded once, everywhere the same.**  In a session of dispatches of any calls
and bodies on a working log, overlapping in any way, each dispatch that returns has added the record
of its end and, before it, the record of its call if it was given one; it has counted once; and its
end is shown alike in all places.  In a sequential session the log is the records of the dispatches,
one dispatch after the other. -/
theorem one_outcome_recorded_once (frame : Frame) {initial : State} (h : initial.audit.Works)
    (moves : List Move) :
    let session := (Session.start initial).run frame moves
    session.state.audit.records =
        initial.audit.records ++ session.trail.flatMap Trail.records ∧
      session.state.metrics = initial.metrics ++ session.trail.flatMap Trail.series ∧
      (session.returned.map Returned.ticket).Nodup ∧
      (∀ returned ∈ session.returned, ∃ called ended sample shown,
        RecordedOnce returned.incoming returned.dispatched
          (session.added Trail.records returned.ticket)
          (session.added Trail.series returned.ticket) called ended sample shown) ∧
      (Session.Sequential 0 moves →
        session.state.audit.records = initial.audit.records ++
          session.returned.flatMap fun returned =>
            session.added Trail.records returned.ticket) := by
  intro session
  have hsound : Session.Sound frame initial session :=
    Session.sound_run (Session.sound_start h) moves
  refine ⟨hsound.records, hsound.metrics, (List.nodup_append.mp hsound.nodup).1,
    hsound.recorded, fun hmoves => ?_⟩
  have horder : session.InOrder :=
    Session.inOrder_run_of_sequential (Session.sound_start h) rfl rfl hmoves
  rw [hsound.records, horder]

/-- A call that is turned away and a body that is no call: each has its records, whether the body is
answered while the call is underway or after it. -/
theorem one_outcome_recorded_once_overlapping :
    let live := Settings.allowing "default"
    let frame := Frame.ofSettings .builtin live
    let initial := State.fresh live (.now (.error (.backend "unreachable")))
    let ambient : Ambient := ⟨⟨1, 1⟩, 0, 0, 0⟩
    let call : Incoming := .call ⟨"k8s.list_pods", [("namespace", .str "other")], 0⟩
    let body : Incoming := .body (Text.bytes "[")
    let overlapping := (Session.start initial).run frame
      [.begin ambient call, .begin ambient body, .finish 1, .finish 0]
    let sequential := (Session.start initial).run frame
      [.begin ambient call, .finish 0, .begin ambient body, .finish 1]
    initial.audit.Works ∧ overlapping.returned.map Returned.ticket = [1, 0] ∧
      (∀ returned ∈ overlapping.returned, ∃ called ended sample shown,
        RecordedOnce returned.incoming returned.dispatched
          (overlapping.added Trail.records returned.ticket)
          (overlapping.added Trail.series returned.ticket) called ended sample shown) ∧
      sequential.state.audit.records = sequential.returned.flatMap fun returned =>
        sequential.added Trail.records returned.ticket := by
  intro live frame initial ambient call body overlapping sequential
  have hworks : initial.audit.Works := ⟨rfl, fun _ => rfl⟩
  obtain ⟨-, -, -, hrecorded, -⟩ := one_outcome_recorded_once frame hworks
    [.begin ambient call, .begin ambient body, .finish 1, .finish 0]
  obtain ⟨-, -, -, -, hsequential⟩ := one_outcome_recorded_once frame hworks
    [.begin ambient call, .finish 0, .begin ambient body, .finish 1]
  refine ⟨hworks, by decide, hrecorded, ?_⟩
  exact hsequential (.dispatch ambient call (.dispatch ambient body (.nil 2)))

end GuardedGateway.Gateway
