/-!
# Log records
-/

namespace HyperEvolve

inductive LogLevel where
  | debug
  | info
  | warning
deriving DecidableEq, Repr

def LogLevel.text : LogLevel → String
  | .debug => "DEBUG"
  | .info => "INFO"
  | .warning => "WARNING"

structure LogRecord where
  level : LogLevel
  logger : String
  message : String
deriving DecidableEq, Repr

/-- The record with its level and its logger. -/
def LogRecord.line (r : LogRecord) : String := s!"{r.level.text} {r.logger}: {r.message}"

def compilerLogger : String := "hyperlir.compiler.build"

def deliveryLogger : String := "hyperlir.transport.client"

def exchangeLogger : String := "httpx"

end HyperEvolve
