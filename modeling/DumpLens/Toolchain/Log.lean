import DumpLens.Text.Basic

/-! Log records. -/

namespace DumpLens

/-- How much a record matters. -/
inductive LogLevel
  | debug
  | info
  | warning
  deriving DecidableEq, Repr

def LogLevel.weight : LogLevel → Nat
  | .debug => 0
  | .info => 1
  | .warning => 2

def LogLevel.name : LogLevel → Text
  | .debug => "DEBUG".toList
  | .info => "INFO".toList
  | .warning => "WARNING".toList

/-- A log record: what a part of the program had to say. -/
structure LogRecord where
  level : LogLevel
  source : Text
  message : Text
  deriving DecidableEq, Repr

def LogRecord.line (record : LogRecord) : Text :=
  record.level.name ++ ' ' :: record.source ++ ": ".toList ++ record.message ++ ['\n']

/-- The lines of the records that weigh at least as much as a level. -/
def logText (level : LogLevel) (records : List LogRecord) : Text :=
  (records.filter fun record => level.weight ≤ record.level.weight).flatMap LogRecord.line

end DumpLens
