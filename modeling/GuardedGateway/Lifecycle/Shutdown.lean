/-!
# Shutting down

One event ends a gateway, and everything that runs in it waits for that event on a receiver of its
own.  The event goes over a channel that keeps one message.  That is enough, because the coordinator
remembers that it has fired and never sends a second one.

A receiver sees what is sent after it subscribed.  It is a position in the sequence of messages: what
lies before it has been received, or was sent too early.  When the coordinator is gone, a receiver
still gets what was sent, and then finds the channel closed.
-/

namespace GuardedGateway.Lifecycle

/-! ## The channel -/

/-- How many messages the channel keeps. -/
def capacity : Nat := 1

/-- How many messages were sent, and whether nobody is left to send one. -/
structure Channel where
  sent : Nat
  closed : Bool
  deriving DecidableEq, Repr

/-- The number of messages that a receiver is past. -/
abbrev Receiver := Nat

/-- What a receiver finds. -/
inductive Received where
  | event
  | empty
  | closed
  deriving DecidableEq, Repr

namespace Channel

/-- A receiver for what is sent from now on. -/
def subscribe (channel : Channel) : Receiver := channel.sent

/-- Sends a message. -/
def send (channel : Channel) : Channel := { channel with sent := channel.sent + 1 }

/-- The next message that a receiver can get: the first one it is not past, or the oldest one that is
still kept. -/
def next (channel : Channel) (receiver : Receiver) : Nat :=
  max receiver (channel.sent - capacity)

/-- What a receiver finds without waiting, and where it is afterwards. -/
def receive (channel : Channel) (receiver : Receiver) : Received × Receiver :=
  if receiver < channel.sent then (.event, channel.next receiver + 1)
  else (if channel.closed then .closed else .empty, receiver)

end Channel

/-! ## The coordinator -/

/-- The coordinator of a shutdown: its channel, and whether it has fired. -/
structure Shutdown where
  channel : Channel
  triggered : Bool
  deriving DecidableEq, Repr

namespace Shutdown

/-- A coordinator that has not fired. -/
def new : Shutdown := ⟨⟨0, false⟩, false⟩

/-- Sends the event, unless it has been sent. -/
def trigger (shutdown : Shutdown) : Shutdown :=
  if shutdown.triggered then shutdown else ⟨shutdown.channel.send, true⟩

/-- The end of the coordinator. -/
def drop (shutdown : Shutdown) : Shutdown :=
  { shutdown with channel := { shutdown.channel with closed := true } }

@[simp] theorem triggered_trigger (shutdown : Shutdown) : shutdown.trigger.triggered = true := by
  unfold trigger
  split <;> simp_all

/-- Firing again changes nothing. -/
@[simp] theorem trigger_trigger (shutdown : Shutdown) :
    shutdown.trigger.trigger = shutdown.trigger :=
  if_pos (triggered_trigger shutdown)

end Shutdown

/-! ## Who waits for it -/

/-- A coordinator, whether it is gone, and the receivers by name. -/
structure Party where
  shutdown : Shutdown
  dropped : Bool
  receivers : List (String × Receiver)
  deriving DecidableEq, Repr

/-- What can be done about a shutdown. -/
inductive Act where
  | subscribe (name : String)
  | receive (name : String)
  | trigger
  | drop
  deriving DecidableEq, Repr

namespace Party

/-- A coordinator that has not fired and for which nobody waits. -/
def start : Party := ⟨.new, false, []⟩

/-- Puts a receiver under its name, in place of an older one. -/
def put (party : Party) (name : String) (receiver : Receiver) : Party :=
  { party with receivers := (name, receiver) :: party.receivers.filter fun r => r.1 != name }

/-- Whether the event has been sent; there is no telling once the coordinator is gone. -/
def triggered? (party : Party) : Option Bool :=
  if party.dropped then none else some party.shutdown.triggered

/-- Does one thing.  A receiver tells what it found.  Nothing can be asked of a coordinator that is
gone, nor of a receiver that never was. -/
def act (party : Party) : Act → Party × Option Received
  | .subscribe name =>
    if party.dropped then (party, none)
    else (party.put name party.shutdown.channel.subscribe, none)
  | .receive name =>
    match party.receivers.lookup name with
    | none => (party, none)
    | some receiver =>
      let (found, after) := party.shutdown.channel.receive receiver
      (party.put name after, some found)
  | .trigger =>
    if party.dropped then (party, none)
    else ({ party with shutdown := party.shutdown.trigger }, none)
  | .drop => ({ party with shutdown := party.shutdown.drop, dropped := true }, none)

end Party

end GuardedGateway.Lifecycle
