import SqlTriggers.Error

/-! Settings of a generation run. -/

namespace SqlTriggers

structure Config where
  engine : Engine
  silenceWarnings : Bool
  compatibility : UInt32
  deriving DecidableEq, Repr

namespace Config

def default : Config where
  engine := .functionBacked
  silenceWarnings := false
  compatibility := newestCompatibility

def check (c : Config) : Except Error Unit :=
  if newestCompatibility < c.compatibility then .error (.unknownCompatibility c.compatibility)
  else .ok ()

end Config

end SqlTriggers
