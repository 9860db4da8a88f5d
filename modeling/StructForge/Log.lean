/-! # Log records

What a run reports on the way is a list of records, kept in order. Who shows them, and from which
level on, is decided elsewhere. -/

namespace StructForge

/-- Levels of log records, in increasing order. -/
inductive Level where
  | debug
  | info
  | warning
  | error
  | critical
  deriving DecidableEq, Repr

namespace Level

def name : Level → String
  | .debug => "DEBUG"
  | .info => "INFO"
  | .warning => "WARNING"
  | .error => "ERROR"
  | .critical => "CRITICAL"

def ofName? (name : String) : Option Level :=
  [debug, info, warning, error, critical].find? fun l => l.name == name

def rank : Level → Nat
  | .debug => 10
  | .info => 20
  | .warning => 30
  | .error => 40
  | .critical => 50

end Level

structure LogRecord where
  level : Level
  logger : String
  message : String
  deriving DecidableEq, Repr

def loggerName (part : String) : String :=
  if part.isEmpty then "nativegen" else "nativegen." ++ part

end StructForge
