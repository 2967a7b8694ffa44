import SshKnock.Config

/-!
# The audit log

Events are appended to the log file one line each.  The host decides what the
wall clock shows at each write and which writes fail.
-/

namespace SshKnock

/-- Why an event is not written. -/
inductive LogFailure where
  | poisoned (error : String)
  | unwritten

def LogFailure.message : LogFailure → Error
  | .poisoned error => s!"failed to lock audit log: {error}"
  | .unwritten => "failed to write audit log event"

/-- What happens at the first, second, … write: the seconds since the epoch,
zero before it, and the failure, if any. -/
structure LogDevice where
  unixSeconds : ℕ → ℕ
  failure : ℕ → Option LogFailure

/-- A device on which every write succeeds. -/
def LogDevice.writable : LogDevice :=
  { unixSeconds := fun _ => 0, failure := fun _ => none }

structure AuditLogger where
  device : LogDevice
  writes : ℕ
  lines : List String

namespace AuditLogger

/-- A freshly opened log file. -/
def opened (device : LogDevice) : AuditLogger :=
  { device, writes := 0, lines := [] }

def log (logger : AuditLogger) (event message : String) :
    Except Error Unit × AuditLogger :=
  let timestamp := logger.device.unixSeconds logger.writes
  match logger.device.failure logger.writes with
  | some failure =>
      (.error failure.message, { logger with writes := logger.writes + 1 })
  | none =>
      (.ok (), { logger with
        writes := logger.writes + 1
        lines := logger.lines ++ [s!"ts={timestamp} event={event} {message}"] })

theorem device_log (logger : AuditLogger) (event message : String) :
    (logger.log event message).2.device = logger.device := by
  simp only [log]
  split <;> rfl

theorem log_eq_ok {logger : AuditLogger}
    (hwritable : ∀ write, logger.device.failure write = none)
    (event message : String) : (logger.log event message).1 = .ok () := by
  rw [log]
  rw [hwritable logger.writes]

end AuditLogger

end SshKnock
