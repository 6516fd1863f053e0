import Stylesheet.Diagnostic.Severity

/-! # Loggers

The library never prints. It hands messages for the user to a **logger**, which drops those below
its threshold and keeps the others. -/

namespace Stylesheet.Diagnostic

/-- A sink for messages: its threshold and what it has emitted so far, oldest first. -/
structure Logger where
  /-- Messages below this severity are dropped. -/
  threshold : Severity
  /-- The emitted messages, oldest first. -/
  messages : List (Severity × String)

namespace Logger

/-- What a logger does with its messages, which decides its threshold when none is given. -/
inductive Kind where
  /-- Keeps messages for later display. -/
  | recording
  /-- Forwards messages as tracing events. -/
  | tracing
  deriving DecidableEq

/-- A recording logger keeps everything by default, a tracing one warnings and errors. -/
def Kind.defaultThreshold : Kind → Severity
  | recording => .trace
  | tracing => .warn

/-- A logger of the given kind that has emitted nothing yet. -/
def new (kind : Kind) (threshold : Option Severity) : Logger :=
  ⟨threshold.getD kind.defaultThreshold, []⟩

/-- Emits a message whatever its severity. -/
def emit (logger : Logger) (severity : Severity) (message : String) : Logger :=
  { logger with messages := logger.messages ++ [(severity, message)] }

/-- Emits a message if its severity passes the threshold. -/
def log (logger : Logger) (severity : Severity) (message : String) : Logger :=
  if severity.passes logger.threshold then logger.emit severity message else logger

/-- Logs a warning. -/
def warn (logger : Logger) (message : String) : Logger :=
  logger.log .warn message

/-- Logging never changes the threshold. -/
@[simp] theorem threshold_log (logger : Logger) (severity : Severity) (message : String) :
    (logger.log severity message).threshold = logger.threshold := by
  unfold log
  split <;> rfl

/-- A warning reaches the messages exactly if the threshold lets warnings pass. -/
theorem messages_warn (logger : Logger) (message : String) :
    (logger.warn message).messages =
      if Severity.passes .warn logger.threshold then logger.messages ++ [(.warn, message)]
      else logger.messages := by
  unfold warn log
  split <;> rfl

end Logger

end Stylesheet.Diagnostic
