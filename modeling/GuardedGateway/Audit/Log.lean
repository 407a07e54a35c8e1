import GuardedGateway.Audit.Record
import GuardedGateway.Storage.Fault

/-!
# The audit log

A log takes one record after another.  Each attempt to write may fail, and a failure is reported to
whoever wrote and to nobody else: the log goes on with the next record.  A log that is switched off
takes every record and keeps none.

What the attempts meet is a function of their number, so that a run of the gateway can be looked at
under every behaviour of the disk.
-/

namespace GuardedGateway.Audit

/-- A record could not be written. -/
structure WriteFault where
  cause : Storage.Fault
  deriving DecidableEq, Repr

def WriteFault.message (fault : WriteFault) : String :=
  "failed to write audit record: " ++ fault.cause.message

/-- An audit log: whether it is on, what each attempt meets, how many there were, and the records
that were written, in order. -/
structure Log where
  enabled : Bool
  disk : Nat → Option Storage.Fault
  attempts : Nat
  records : List Record

namespace Log

/-- A log on a disk that never fails. -/
def working : Log := ⟨true, fun _ => none, 0, []⟩

/-- A log that keeps nothing. -/
def disabled : Log := ⟨false, fun _ => none, 0, []⟩

/-- A log of which every write fails. -/
def broken (fault : Storage.Fault) : Log := ⟨true, fun _ => some fault, 0, []⟩

/-- Writes a record. -/
def write (log : Log) (record : Record) : Log × Except WriteFault Unit :=
  if log.enabled then
    match log.disk log.attempts with
    | none =>
      ({ log with attempts := log.attempts + 1, records := log.records ++ [record] }, .ok ())
    | some fault => ({ log with attempts := log.attempts + 1 }, .error ⟨fault⟩)
  else (log, .ok ())

@[simp] theorem enabled_write (log : Log) (record : Record) :
    (log.write record).1.enabled = log.enabled := by
  unfold write
  split
  · split <;> rfl
  · rfl

@[simp] theorem disk_write (log : Log) (record : Record) :
    (log.write record).1.disk = log.disk := by
  unfold write
  split
  · split <;> rfl
  · rfl

/-- On a disk that does not fail, the record is the last one afterwards. -/
theorem records_write {log : Log} {record : Record} (hon : log.enabled = true)
    (hdisk : log.disk log.attempts = none) :
    (log.write record).1.records = log.records ++ [record] := by
  rw [write, if_pos hon, hdisk]

end Log

end GuardedGateway.Audit
