import FlowGate.Context
import FlowGate.Text.Case

-- Settings that a host gives in its environment: limits for configurations, the room in the cache, where
-- decisions are recorded and how alike two texts have to be.

namespace FlowGate

structure Limits where
  maxConditions      : Int := 100
  maxConditionDepth  : Int := 32
  maxFiltersPerGroup : Int := 50
  defaultTimeoutMs   : Int := 30000

inductive AuditBackend
  | memory
  | none
deriving DecidableEq, Repr

namespace AuditBackend

def name : AuditBackend → String
  | memory => "memory"
  | none => "none"

-- Whatever is no known name means the memory.
def ofName (name : String) : AuditBackend := if name == "none" then none else memory

end AuditBackend

structure Settings where
  limits         : Limits
  cacheCapacity  : Int
  auditBackend   : AuditBackend
  fuzzyThreshold : Double
  debug          : Bool
  logLevel       : String

namespace Settings

def readDouble (s : String) : Except Fault Double :=
  match Numeral.readDouble? s with
  | some x => .ok x
  | none => .error (.notADouble s)

def ofEnvironment (setting? : String → Option String) : Except Fault Settings := do
  let whole (name default : String) : Except Fault Int := (Value.text ((setting? name).getD default)).toWhole
  let maxConditions ← whole "MAX_CONDITIONS" "100"
  let maxConditionDepth ← whole "MAX_CONDITION_DEPTH" "32"
  let maxFiltersPerGroup ← whole "MAX_FILTERS_PER_GROUP" "50"
  let defaultTimeoutMs ← whole "DEFAULT_TIMEOUT_MS" "30000"
  let cacheCapacity ← whole "CACHE_MAX_ENTRIES" "1024"
  let auditBackend := AuditBackend.ofName (Text.lower ((setting? "AUDIT_BACKEND").getD "memory"))
  let fuzzyThreshold ← readDouble ((setting? "FUZZY_THRESHOLD").getD "0.8")
  let debug := ["true", "1", "yes"].contains (Text.lower ((setting? "DEBUG").getD "false"))
  let logLevel := Text.upper ((setting? "LOG_LEVEL").getD "INFO")
  return {
    limits := { maxConditions, maxConditionDepth, maxFiltersPerGroup, defaultTimeoutMs },
    cacheCapacity, auditBackend, fuzzyThreshold, debug, logLevel }

def levels : List (String × Nat) := [
  ("NOTSET", 0), ("DEBUG", 10), ("INFO", 20), ("WARN", 30), ("WARNING", 30), ("ERROR", 40), ("CRITICAL", 50),
  ("FATAL", 50)]

def rootLevel (s : Settings) : Nat := if s.debug then 10 else (levels.lookup s.logLevel).getD 20

end Settings

end FlowGate
