/-!
Contract: log records.

Owns the severities, the thresholds that let records through, and the line a record is shown as.
-/

set_option autoImplicit false

namespace ChartParsing

/-- How serious a record is. -/
inductive Severity where
  | error
  | warn
  | info
  | debug
  | trace
deriving DecidableEq, Repr

namespace Severity

/-- The place among the severities, the most serious first. -/
def rank : Severity → Nat
  | .error => 1
  | .warn => 2
  | .info => 3
  | .debug => 4
  | .trace => 5

def name : Severity → String
  | .error => "ERROR"
  | .warn => "WARN"
  | .info => "INFO"
  | .debug => "DEBUG"
  | .trace => "TRACE"

end Severity

/-- The least serious severity that is let through, or `off` for none at all. -/
inductive Threshold where
  | off
  | atMost (severity : Severity)
deriving DecidableEq, Repr

namespace Threshold

def admits : Threshold → Severity → Bool
  | .off, _ => false
  | .atMost limit, severity => severity.rank ≤ limit.rank

def name : Threshold → String
  | .off => "OFF"
  | .atMost severity => severity.name

end Threshold

/-- A log record. -/
structure LogRecord where
  severity : Severity
  message : String
deriving DecidableEq, Repr

def LogRecord.line (record : LogRecord) : String :=
  s!"{record.severity.name} {record.message}"

def Threshold.select (threshold : Threshold) (records : List LogRecord) : List LogRecord :=
  records.filter fun record => threshold.admits record.severity

end ChartParsing
