namespace Lanewise

inductive LogLevel where
  | error
  | warn
  | info
  deriving DecidableEq, Repr

def LogLevel.name : LogLevel → String
  | error => "ERROR"
  | warn => "WARN"
  | info => "INFO"

structure LogRecord where
  level : LogLevel
  text : String
  deriving DecidableEq, Repr

def LogRecord.line (entry : LogRecord) : String := entry.level.name ++ " " ++ entry.text

end Lanewise
