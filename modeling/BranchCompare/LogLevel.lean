/-!
# Levels of messages

A program says more or less, depending on the level of messages that it lets through.
-/

namespace BranchCompare

/-- The level of a message, from chatter to the gravest trouble. -/
inductive LogLevel where
  | trace
  | debug
  | info
  | success
  | warning
  | error
  | critical
  deriving DecidableEq, Repr

namespace LogLevel

def all : List LogLevel := [trace, debug, info, success, warning, error, critical]

/-- The name of a level. -/
def name : LogLevel → String
  | trace => "TRACE"
  | debug => "DEBUG"
  | info => "INFO"
  | success => "SUCCESS"
  | warning => "WARNING"
  | error => "ERROR"
  | critical => "CRITICAL"

structure Unknown where
  name : String
  deriving DecidableEq, Repr

def Unknown.message (error : Unknown) : String := s!"Level '{error.name}' does not exist"

/-- The level of a name. -/
def ofName (name : String) : Except Unknown LogLevel :=
  match all.find? fun level => level.name = name with
  | some level => .ok level
  | none => .error ⟨name⟩

/-- Whether messages of a level are let through where the least level is `least`. -/
def passes (least level : LogLevel) : Bool := least.ctorIdx ≤ level.ctorIdx

end LogLevel

end BranchCompare
