/-!
# Log records

What the stand-ins report about their work while they do it.
-/
namespace SnpTestbed

/-- How loud a record is. -/
inductive LogLevel
  | warn
  | debug
  | trace
  deriving DecidableEq, Repr

/-- One record. -/
structure LogRecord where
  level : LogLevel
  text : String
  deriving DecidableEq, Repr

namespace LogRecord

/-- A warning. -/
def warn (text : String) : LogRecord := ⟨.warn, text⟩

/-- A record for those who look for a mistake. -/
def debug (text : String) : LogRecord := ⟨.debug, text⟩

/-- A record of a detail. -/
def trace (text : String) : LogRecord := ⟨.trace, text⟩

/-- Level and text on one line. -/
def line (record : LogRecord) : String :=
  match record.level with
  | .warn => "WARN " ++ record.text
  | .debug => "DEBUG " ++ record.text
  | .trace => "TRACE " ++ record.text

end LogRecord

end SnpTestbed
