import GuardedGateway.Lifecycle.Shutdown
import Mathlib.Data.List.TakeWhile
import Mathlib.Tactic.SplitIfs

/-!
# The event is delivered once

Everybody who waits for the shutdown when it is triggered is told, once, and nobody is told who
comes later.  The channel keeps one message only, so a second message could take the place of one
that has not been received.  There is no second message: the coordinator remembers that it has
fired, and what the channel has sent is at most one (`Party.Sound`).

## Where a receiver stands

A receiver is a position in the sequence of messages.  With at most one message there are three
ways for it to stand (`Standing`): nothing has been sent yet, the event is due to it, or there is no
event for it any more.  One act moves a receiver from one to the next (`Standing.next`,
`standing?_act`), and a run is followed receiver by receiver from the moment of its subscription.

Nothing can be asked of a coordinator that is gone, so of a history only the part before that counts
for what was sent (`live`).
-/

namespace GuardedGateway.Lifecycle

/-! ## Histories -/

/-- What happens while there is a coordinator. -/
def live (acts : List Act) : List Act :=
  acts.takeWhile fun act => act != .drop

/-- The event is sent. -/
def Fired (acts : List Act) : Prop :=
  .trigger ∈ live acts

instance (acts : List Act) : Decidable (Fired acts) :=
  inferInstanceAs (Decidable (_ ∈ _))

theorem live_of_not_mem {acts : List Act} (h : .drop ∉ acts) : live acts = acts :=
  List.takeWhile_eq_self_iff.mpr fun _ hact => bne_iff_ne.mpr fun heq => h (heq ▸ hact)

theorem mem_live_cons {wanted act : Act} {rest : List Act} :
    wanted ∈ live (act :: rest) ↔ act ≠ .drop ∧ (wanted = act ∨ wanted ∈ live rest) := by
  rw [live, List.takeWhile_cons]
  by_cases hdrop : act = .drop
  · rw [if_neg (by rw [hdrop]; decide)]
    exact iff_of_false List.not_mem_nil fun h => h.1 hdrop
  · rw [if_pos (bne_iff_ne.mpr hdrop), List.mem_cons, and_iff_right hdrop]
    rfl

/-- What happens in two stretches, the first with a coordinator at its end. -/
theorem mem_live_append {wanted : Act} {before acts : List Act} (h : .drop ∉ before) :
    wanted ∈ live (before ++ acts) ↔ wanted ∈ before ∨ wanted ∈ live acts := by
  have hall : ∀ act ∈ before, (act != .drop) = true :=
    fun _ hact => bne_iff_ne.mpr fun heq => h (heq ▸ hact)
  rw [live, List.takeWhile_append_of_pos hall, List.mem_append]
  rfl

namespace Party

/-- A party after some acts. -/
def run (party : Party) (acts : List Act) : Party :=
  acts.foldl (fun party act => (party.act act).1) party

theorem run_append (party : Party) (acts more : List Act) :
    party.run (acts ++ more) = (party.run acts).run more :=
  List.foldl_append

/-! ## What was sent -/

/-- The channel is closed when the coordinator is gone, it has sent one message or none, and no
receiver is ahead of it. -/
structure Sound (party : Party) : Prop where
  closed : party.shutdown.channel.closed = party.dropped
  sent : party.shutdown.channel.sent = if party.shutdown.triggered then 1 else 0
  behind : ∀ entry ∈ party.receivers, entry.2 ≤ party.shutdown.channel.sent

theorem sound_start : start.Sound := ⟨rfl, rfl, List.forall_mem_nil _⟩

theorem Sound.receiver_le {party : Party} (h : party.Sound) {name : String} {receiver : Receiver}
    (hlookup : party.receivers.lookup name = some receiver) :
    receiver ≤ party.shutdown.channel.sent := by
  obtain ⟨before, rest, hreceivers, -⟩ := List.lookup_eq_some_iff.mp hlookup
  exact h.behind (name, receiver) (by simp [hreceivers])

theorem Sound.sent_le {party : Party} (h : party.Sound) :
    party.shutdown.channel.sent ≤ capacity := by
  rw [h.sent]
  split_ifs <;> decide

/-- Nothing that a receiver has not got yet was replaced. -/
theorem Sound.next_eq {party : Party} (h : party.Sound) (receiver : Receiver) :
    party.shutdown.channel.next receiver = receiver := by
  rw [Channel.next, Nat.sub_eq_zero_of_le h.sent_le, Nat.max_zero]

/-- A receiver that is not ahead of the channel is put under a name. -/
theorem Sound.put {party : Party} (h : party.Sound) (name : String) {receiver : Receiver}
    (hreceiver : receiver ≤ party.shutdown.channel.sent) : (party.put name receiver).Sound where
  closed := h.closed
  sent := h.sent
  behind := by
    refine List.forall_mem_cons.mpr ⟨hreceiver, fun entry hentry => ?_⟩
    exact h.behind entry (List.mem_filter.mp hentry).1

/-- A receiver that got something is not ahead of the channel. -/
theorem Sound.receive_le {party : Party} (h : party.Sound) {receiver : Receiver}
    (hreceiver : receiver ≤ party.shutdown.channel.sent) :
    (party.shutdown.channel.receive receiver).2 ≤ party.shutdown.channel.sent := by
  rw [Channel.receive]
  by_cases hless : receiver < party.shutdown.channel.sent
  · rw [if_pos hless, h.next_eq]
    exact hless
  · rw [if_neg hless]
    exact hreceiver

/-- Firing sends the one message, unless it has been sent. -/
theorem sound_trigger {party : Party} (h : party.Sound) :
    Sound { party with shutdown := party.shutdown.trigger } := by
  obtain ⟨⟨⟨sent, closed⟩, triggered⟩, dropped, receivers⟩ := party
  obtain ⟨hclosed, hsent, hbehind⟩ := h
  cases triggered with
  | true => exact ⟨hclosed, hsent, hbehind⟩
  | false =>
    obtain rfl : sent = 0 := hsent
    exact ⟨hclosed, rfl, fun entry hentry => Nat.le_succ_of_le (hbehind entry hentry)⟩

/-- **Every act keeps a party sound.** -/
theorem sound_act {party : Party} (h : party.Sound) (act : Act) : (party.act act).1.Sound := by
  cases act with
  | subscribe name =>
    rw [Party.act]
    split_ifs
    · exact h
    · exact h.put name (Nat.le_refl _)
  | receive name =>
    rw [Party.act]
    cases hlookup : party.receivers.lookup name with
    | none => exact h
    | some receiver => exact h.put name (h.receive_le (h.receiver_le hlookup))
  | trigger =>
    rw [Party.act]
    split_ifs
    · exact h
    · exact sound_trigger h
  | drop => exact ⟨rfl, h.sent, h.behind⟩

theorem sound_run {party : Party} (h : party.Sound) (acts : List Act) : (party.run acts).Sound := by
  induction acts generalizing party with
  | nil => exact h
  | cons act rest ih => exact ih (sound_act h act)

/-! ## Whether the coordinator is gone, and whether it has fired -/

theorem dropped_act (party : Party) (act : Act) :
    (party.act act).1.dropped = false ↔ party.dropped = false ∧ act ≠ .drop := by
  cases act with
  | subscribe name => rw [Party.act]; split_ifs <;> simp [put]
  | receive name => rw [Party.act]; cases party.receivers.lookup name <;> simp [put]
  | trigger => rw [Party.act]; split_ifs <;> simp
  | drop => simp [Party.act]

theorem triggered_act (party : Party) (act : Act) :
    (party.act act).1.shutdown.triggered = true ↔
      party.shutdown.triggered = true ∨ party.dropped = false ∧ act = .trigger := by
  cases act with
  | subscribe name => rw [Party.act]; split_ifs <;> simp [put]
  | receive name => rw [Party.act]; cases party.receivers.lookup name <;> simp [put]
  | trigger => rw [Party.act]; split_ifs with hdropped <;> simp [hdropped]
  | drop => simp [Party.act, Shutdown.drop]

theorem dropped_run (party : Party) (acts : List Act) :
    (party.run acts).dropped = false ↔ party.dropped = false ∧ .drop ∉ acts := by
  induction acts generalizing party with
  | nil => simp [run]
  | cons act rest ih =>
    show ((party.act act).1.run rest).dropped = false ↔ _
    rw [ih, dropped_act, List.mem_cons, not_or, and_assoc, ne_comm]

/-- The coordinator of a party fires when it is triggered before it is gone. -/
theorem triggered_run (party : Party) (acts : List Act) :
    (party.run acts).shutdown.triggered = true ↔
      party.shutdown.triggered = true ∨ party.dropped = false ∧ Fired acts := by
  induction acts generalizing party with
  | nil => simp [run, Fired, live]
  | cons act rest ih =>
    show ((party.act act).1.run rest).shutdown.triggered = true ↔ _
    rw [ih, triggered_act, dropped_act, Fired, Fired, mem_live_cons]
    constructor
    · rintro ((hfired | ⟨hlive, rfl⟩) | ⟨⟨hlive, hact⟩, hrest⟩)
      · exact .inl hfired
      · exact .inr ⟨hlive, nofun, .inl rfl⟩
      · exact .inr ⟨hlive, hact, .inr hrest⟩
    · rintro (hfired | ⟨hlive, hact, rfl | hrest⟩)
      · exact .inl (.inl hfired)
      · exact .inl (.inr ⟨hlive, rfl⟩)
      · exact .inr ⟨⟨hlive, hact⟩, hrest⟩

/-- An act that is not to happen while there is a coordinator is not the first one. -/
theorem ne_of_not_mem_live {party : Party} {wanted act : Act} {rest : List Act}
    (hwanted : wanted ≠ .drop) (h : party.dropped = false → wanted ∉ live (act :: rest)) :
    party.dropped = false → act ≠ wanted := by
  rintro hdropped rfl
  exact h hdropped (mem_live_cons.mpr ⟨hwanted, .inl rfl⟩)

/-- What does not happen to a party before its coordinator is gone does not happen after one act. -/
theorem not_mem_live_rest {party : Party} {wanted act : Act} {rest : List Act}
    (h : party.dropped = false → wanted ∉ live (act :: rest)) :
    (party.act act).1.dropped = false → wanted ∉ live rest := by
  intro hlive hmem
  obtain ⟨hdropped, hact⟩ := (dropped_act party act).mp hlive
  exact h hdropped (mem_live_cons.mpr ⟨hact, .inr hmem⟩)

end Party

/-! ## Where a receiver stands -/

/-- Where a receiver stands: nothing has been sent yet, the event is due to it, or there is none for
it any more. -/
inductive Standing where
  | waiting
  | due
  | done
  deriving DecidableEq, Repr

namespace Standing

/-- Where a receiver stands at its position. -/
def ofReceiver (shutdown : Shutdown) (receiver : Receiver) : Standing :=
  if receiver < shutdown.channel.sent then .due
  else if shutdown.triggered then .done else .waiting

/-- What an act does to where the receiver with this name stands. -/
def next (name : String) (dropped : Bool) : Act → Standing → Standing
  | .trigger, .waiting => if dropped then .waiting else .due
  | .receive other, .due => if other = name then .done else .due
  | _, standing => standing

/-- What a receiver finds. -/
def finds (dropped : Bool) : Standing → Received
  | .due => .event
  | _ => if dropped then .closed else .empty

end Standing

namespace Party

/-- Where the receiver with a name stands. -/
def standing? (party : Party) (name : String) : Option Standing :=
  (party.receivers.lookup name).map (Standing.ofReceiver party.shutdown)

theorem lookup_put (party : Party) (name other : String) (receiver : Receiver) :
    (party.put name receiver).receivers.lookup other =
      if other = name then some receiver else party.receivers.lookup other := by
  rw [put, List.lookup_cons]
  by_cases hother : other = name
  · rw [if_pos hother, beq_iff_eq.mpr hother]
  · rw [if_neg hother, beq_eq_false_iff_ne.mpr hother]
    show (party.receivers.filter fun r => r.1 != name).lookup other = party.receivers.lookup other
    induction party.receivers with
    | nil => rfl
    | cons entry rest ih =>
      by_cases hentry : entry.1 = name
      · have hne : (other == entry.1) = false := beq_eq_false_iff_ne.mpr (hentry ▸ hother)
        rw [List.filter_cons_of_neg (by simp [hentry]), ih, List.lookup_cons, hne]
      · rw [List.filter_cons_of_pos (by simp [hentry]), List.lookup_cons, List.lookup_cons, ih]

theorem standing?_put (party : Party) (name other : String) (receiver : Receiver) :
    (party.put name receiver).standing? other =
      if other = name then some (.ofReceiver party.shutdown receiver)
      else party.standing? other := by
  rw [standing?, lookup_put]
  split_ifs <;> rfl

/-- A new receiver waits, or it has come too late. -/
theorem standing?_subscribe {party : Party} (hlive : party.dropped = false) (name : String) :
    (party.act (.subscribe name)).1.standing? name =
      some (if party.shutdown.triggered then .done else .waiting) := by
  rw [Party.act, hlive]
  show (party.put name party.shutdown.channel.sent).standing? name = _
  rw [standing?_put, if_pos rfl, Standing.ofReceiver, if_neg (Nat.lt_irrefl _)]

/-- What a receiver is told says where it stands. -/
theorem found_eq {party : Party} (h : party.Sound) (name : String) :
    (party.act (.receive name)).2 = (party.standing? name).map (Standing.finds party.dropped) := by
  rw [Party.act, standing?]
  cases party.receivers.lookup name with
  | none => rfl
  | some receiver =>
    show some (party.shutdown.channel.receive receiver).1 =
      some (Standing.finds party.dropped (Standing.ofReceiver party.shutdown receiver))
    rw [Channel.receive, Standing.ofReceiver, h.closed]
    split_ifs <;> simp_all [Standing.finds]

section

variable {party : Party} (h : party.Sound) (name : String)
include h

/-- When a receiver has looked, an event that was due to it is so no longer. -/
theorem ofReceiver_receive (dropped : Bool) (receiver : Receiver) :
    Standing.ofReceiver party.shutdown (party.shutdown.channel.receive receiver).2 =
      .next name dropped (.receive name) (.ofReceiver party.shutdown receiver) := by
  obtain ⟨⟨⟨sent, closed⟩, triggered⟩, gone, receivers⟩ := party
  have hsent := h.sent
  -- one message was sent or none, so a receiver is at the beginning or past everything
  cases triggered with
  | false =>
    obtain rfl : sent = 0 := hsent
    cases receiver <;> rfl
  | true =>
    obtain rfl : sent = 1 := hsent
    cases receiver <;> simp [Standing.ofReceiver, Standing.next, Channel.receive, Channel.next,
      capacity]

/-- When the coordinator fires, the event is due to whoever was waiting for it. -/
theorem ofReceiver_trigger {receiver : Receiver}
    (hreceiver : receiver ≤ party.shutdown.channel.sent) :
    Standing.ofReceiver party.shutdown.trigger receiver =
      .next name false .trigger (.ofReceiver party.shutdown receiver) := by
  obtain ⟨⟨⟨sent, closed⟩, triggered⟩, gone, receivers⟩ := party
  have hsent := h.sent
  cases triggered with
  | false =>
    obtain rfl : sent = 0 := hsent
    obtain rfl : receiver = 0 := Nat.le_zero.mp hreceiver
    rfl
  | true =>
    obtain rfl : sent = 1 := hsent
    cases receiver <;> simp [Standing.ofReceiver, Standing.next, Shutdown.trigger]

/-- **One act moves a receiver on**, unless another one takes its place. -/
theorem standing?_act {act : Act} (hact : party.dropped = false → act ≠ .subscribe name) :
    (party.act act).1.standing? name =
      (party.standing? name).map (Standing.next name party.dropped act) := by
  have hsame {act : Act}
      (hnext : ∀ standing, Standing.next name party.dropped act standing = standing) :
      (party.standing? name).map (Standing.next name party.dropped act) = party.standing? name := by
    rw [funext hnext]
    exact Option.map_id'
  cases act with
  | subscribe other =>
    rw [hsame fun standing => by cases standing <;> rfl, Party.act]
    split_ifs with hdropped
    · rfl
    · have hother : name ≠ other :=
        fun heq => hact (Bool.eq_false_iff.mpr hdropped) (by rw [heq])
      exact (standing?_put party other name _).trans (if_neg hother)
  | receive other =>
    rw [Party.act]
    by_cases hname : name = other
    · subst hname
      cases hlookup : party.receivers.lookup name with
      | none => rw [standing?, hlookup]; rfl
      | some receiver =>
        show (party.put name (party.shutdown.channel.receive receiver).2).standing? name = _
        rw [standing?_put, if_pos rfl, ofReceiver_receive h name party.dropped, standing?, hlookup]
        rfl
    · rw [hsame fun standing => by cases standing <;> simp [Standing.next, Ne.symm hname]]
      cases party.receivers.lookup other with
      | none => rfl
      | some receiver => exact (standing?_put party other name _).trans (if_neg hname)
  | trigger =>
    rw [Party.act]
    by_cases hdropped : party.dropped = true
    · rw [if_pos hdropped, hsame]
      intro standing
      cases standing <;> simp [Standing.next, hdropped]
    · rw [if_neg hdropped, Bool.eq_false_iff.mpr hdropped, standing?, standing?, Option.map_map]
      cases hlookup : party.receivers.lookup name with
      | none => rfl
      | some receiver => exact congrArg some (ofReceiver_trigger h name (h.receiver_le hlookup))
  | drop => exact (hsame fun standing => by cases standing <;> rfl).symm

/-! ## Runs of a receiver -/

variable {acts : List Act} (hacts : party.dropped = false → .subscribe name ∉ live acts)
include hacts

/-- A receiver for which there is no event any more stays so. -/
theorem standing?_run_of_done (hdone : party.standing? name = some .done) :
    (party.run acts).standing? name = some .done := by
  induction acts generalizing party with
  | nil => exact hdone
  | cons act rest ih =>
    refine ih (sound_act h act) (not_mem_live_rest hacts) ?_
    rw [standing?_act h name (ne_of_not_mem_live nofun hacts), hdone]
    cases act <;> rfl

/-- **An event that is due stays so until it is received**, and then there is none any more. -/
theorem standing?_run_of_due (hdue : party.standing? name = some .due) :
    (party.run acts).standing? name =
      some (if .receive name ∈ acts then .done else .due) := by
  induction acts generalizing party with
  | nil => exact hdue
  | cons act rest ih =>
    have hrest := not_mem_live_rest hacts
    have hnext := standing?_act h name (ne_of_not_mem_live nofun hacts)
    rw [hdue] at hnext
    by_cases hreceive : act = .receive name
    · subst hreceive
      rw [if_pos List.mem_cons_self]
      refine standing?_run_of_done (sound_act h _) name hrest ?_
      simpa [Standing.next] using hnext
    · have hmem : .receive name ∈ act :: rest ↔ .receive name ∈ rest := by
        rw [List.mem_cons, or_iff_right (Ne.symm hreceive)]
      simp only [hmem]
      refine ih (sound_act h act) hrest (hnext.trans ?_)
      cases act with
      | receive other =>
        have hother : other ≠ name := fun heq => hreceive (by rw [heq])
        simp [Standing.next, hother]
      | subscribe other => rfl
      | trigger => rfl
      | drop => rfl

/-- While nothing is sent a receiver waits. -/
theorem standing?_run_of_waiting (hwaiting : party.standing? name = some .waiting)
    (hquiet : party.dropped = false → ¬ Fired acts) :
    (party.run acts).standing? name = some .waiting := by
  induction acts generalizing party with
  | nil => exact hwaiting
  | cons act rest ih =>
    refine ih (sound_act h act) (not_mem_live_rest hacts) ?_ (not_mem_live_rest hquiet)
    rw [standing?_act h name (ne_of_not_mem_live nofun hacts), hwaiting]
    cases act with
    | trigger =>
      cases hdropped : party.dropped with
      | true => rfl
      | false =>
        have hfired : Fired (.trigger :: rest) := mem_live_cons.mpr ⟨nofun, .inl rfl⟩
        exact absurd hfired (hquiet hdropped)
    | subscribe other => rfl
    | receive other => rfl
    | drop => rfl

end

end Party

/-! ## Delivery -/

/-- A party with this history. -/
def partyAfter (acts : List Act) : Party :=
  Party.start.run acts

/-- What a receiver finds after a history. -/
def found (acts : List Act) (name : String) : Option Received :=
  ((partyAfter acts).act (.receive name)).2

/-- What there is to find when there is no event: the channel is empty, or closed once the
coordinator is gone. -/
def silence (acts : List Act) : Received :=
  if .drop ∈ acts then .closed else .empty

theorem sound_partyAfter (acts : List Act) : (partyAfter acts).Sound :=
  Party.sound_run Party.sound_start acts

theorem triggered_partyAfter (acts : List Act) :
    (partyAfter acts).shutdown.triggered = true ↔ Fired acts := by
  rw [partyAfter, Party.triggered_run]
  exact ⟨fun h => (h.resolve_left Bool.false_ne_true).2, fun h => .inr ⟨rfl, h⟩⟩

theorem dropped_partyAfter (acts : List Act) :
    (partyAfter acts).dropped = decide (.drop ∈ acts) := by
  rw [Bool.eq_iff_iff, decide_eq_true_iff, ← not_iff_not, Bool.not_eq_true, partyAfter,
    Party.dropped_run]
  exact and_iff_right rfl

/-- Where a receiver stands after a history decides what it finds. -/
theorem found_of_standing {acts : List Act} {name : String} {standing : Standing}
    (h : (partyAfter acts).standing? name = some standing) :
    found acts name = some (if standing = .due then .event else silence acts) := by
  rw [found, Party.found_eq (sound_partyAfter acts), h, dropped_partyAfter]
  cases standing <;> simp [Standing.finds, silence]

/-- What follows an act happens to the party after that act. -/
theorem partyAfter_cons (before : List Act) (act : Act) (rest : List Act) :
    partyAfter (before ++ act :: rest) = ((partyAfter before).act act).1.run rest :=
  Party.run_append ..

theorem dropped_of_not_mem {acts : List Act} (h : .drop ∉ acts) :
    (partyAfter acts).dropped = false := by
  rw [dropped_partyAfter, decide_eq_false_iff_not]
  exact h

section

variable {before since : List Act} {name : String} (hbefore : .drop ∉ before)
  (hsince : .subscribe name ∉ live since)
include hbefore hsince

/-- A receiver that comes after the event has come too late. -/
theorem standing?_of_fired (hfired : Fired before) :
    (partyAfter (before ++ .subscribe name :: since)).standing? name = some .done := by
  have hdone := Party.standing?_subscribe (dropped_of_not_mem hbefore) name
  rw [if_pos ((triggered_partyAfter before).mpr hfired)] at hdone
  rw [partyAfter_cons]
  exact Party.standing?_run_of_done (Party.sound_act (sound_partyAfter before) _) name
    (fun _ => hsince) hdone

/-- A receiver that is in time waits, as long as nothing is sent. -/
theorem standing?_of_not_fired (hquiet : ¬ Fired before) (hnot : ¬ Fired since) :
    (partyAfter (before ++ .subscribe name :: since)).standing? name = some .waiting := by
  have hwaiting := Party.standing?_subscribe (dropped_of_not_mem hbefore) name
  rw [if_neg (mt (triggered_partyAfter before).mp hquiet)] at hwaiting
  rw [partyAfter_cons]
  exact Party.standing?_run_of_waiting (Party.sound_act (sound_partyAfter before) _) name
    (fun _ => hsince) hwaiting fun _ => hnot

end

/-- **The event is due to a receiver that was in time, until it looks.** -/
theorem standing?_of_trigger {before waiting following : List Act} {name : String}
    (hbefore : .drop ∉ before) (hquiet : ¬ Fired before) (hwaiting : .drop ∉ waiting)
    (hfirst : .trigger ∉ waiting)
    (hsince : .subscribe name ∉ live (waiting ++ .trigger :: following)) :
    (partyAfter (before ++ .subscribe name :: (waiting ++ .trigger :: following))).standing? name =
      some (if .receive name ∈ following then .done else .due) := by
  obtain ⟨hnone, hlater⟩ := not_or.mp (mt (mem_live_append hwaiting).mpr hsince)
  rw [← live_of_not_mem hwaiting] at hnone hfirst
  have hwaits := standing?_of_not_fired hbefore hnone hquiet hfirst
  have hlive : (partyAfter (before ++ .subscribe name :: waiting)).dropped = false :=
    dropped_of_not_mem (by simp [hbefore, hwaiting])
  have hsound := sound_partyAfter (before ++ .subscribe name :: waiting)
  have hact : Act.trigger ≠ .subscribe name := nofun
  have hdue := Party.standing?_act hsound name fun _ => hact
  rw [hwaits, hlive] at hdue
  rw [← List.cons_append, ← List.append_assoc, partyAfter_cons]
  refine Party.standing?_run_of_due (Party.sound_act hsound _) name (fun _ hmem => ?_) hdue
  exact hlater (mem_live_cons.mpr ⟨nofun, .inr hmem⟩)

/-- **The shutdown is delivered once.**  After any history the coordinator tells whether it was
triggered, and triggering it again changes nothing.  A message that somebody has not received is
never replaced by another one.

The last three clauses are about a receiver from its subscription on.  One that comes after the
event never gets one.  One that was in time finds nothing before the event, the event when it first
looks after it, and nothing after that. -/
theorem shutdown_delivered_once (acts : List Act) :
    (.drop ∉ acts → (partyAfter acts).triggered? = some (decide (.trigger ∈ acts))) ∧
    (Fired acts → partyAfter (acts ++ [.trigger]) = partyAfter acts) ∧
    (∀ entry ∈ (partyAfter acts).receivers,
      (partyAfter acts).shutdown.channel.next entry.2 = entry.2) ∧
    ∀ before since name, acts = before ++ .subscribe name :: since →
      .drop ∉ before → .subscribe name ∉ live since →
      (Fired before → found acts name = some (silence acts)) ∧
      (¬ Fired before → ¬ Fired since → found acts name = some (silence acts)) ∧
      (¬ Fired before → ∀ waiting following, since = waiting ++ .trigger :: following →
        .drop ∉ waiting → .trigger ∉ waiting →
        found acts name = some (if .receive name ∈ following then silence acts else .event)) := by
  refine ⟨fun hlive => ?told, fun hfired => ?again, fun entry _ => ?kept, ?receivers⟩
  case told =>
    rw [Party.triggered?, dropped_of_not_mem hlive, if_neg Bool.false_ne_true, Option.some_inj,
      Bool.eq_iff_iff, decide_eq_true_iff, triggered_partyAfter, Fired, live_of_not_mem hlive]
  case again =>
    have htriggered := (triggered_partyAfter acts).mpr hfired
    rw [partyAfter_cons]
    show ((partyAfter acts).act .trigger).1 = partyAfter acts
    rw [Party.act, Shutdown.trigger, if_pos htriggered, ite_self]
  case kept => exact (sound_partyAfter acts).next_eq entry.2
  case receivers =>
    rintro before since name rfl hbefore hsince
    refine ⟨fun hfired => ?late, fun hquiet hnot => ?waits, ?delivered⟩
    case late => exact found_of_standing (standing?_of_fired hbefore hsince hfired)
    case waits => exact found_of_standing (standing?_of_not_fired hbefore hsince hquiet hnot)
    case delivered =>
      rintro hquiet waiting following rfl hwaiting hfirst
      rw [found_of_standing (standing?_of_trigger hbefore hquiet hwaiting hfirst hsince)]
      by_cases hlooked : .receive name ∈ following <;> simp [hlooked]

/-- A receiver gets the event although the coordinator is gone, and then finds the channel closed;
one that came between two triggers finds nothing else. -/
theorem shutdown_delivered_once_dropped :
    let acts : List Act := [.subscribe "first", .receive "first", .trigger, .subscribe "late",
      .trigger, .drop]
    found acts "first" = some .event ∧
      found (acts ++ [.receive "first"]) "first" = some .closed ∧
      found acts "late" = some .closed := by
  intro acts
  obtain ⟨-, -, -, hreceivers⟩ := shutdown_delivered_once acts
  obtain ⟨-, -, -, hlooked⟩ := shutdown_delivered_once (acts ++ [.receive "first"])
  refine ⟨?_, ?_, ?_⟩
  · exact (hreceivers [] _ "first" rfl (by decide) (by decide)).2.2 (by decide)
      [.receive "first"] _ rfl (by decide) (by decide)
  · exact (hlooked [] _ "first" rfl (by decide) (by decide)).2.2 (by decide)
      [.receive "first"] _ rfl (by decide) (by decide)
  · exact (hreceivers [.subscribe "first", .receive "first", .trigger] _ "late" rfl (by decide)
      (by decide)).1 (by decide)

end GuardedGateway.Lifecycle
