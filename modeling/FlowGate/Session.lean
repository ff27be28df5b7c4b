import FlowGate.Builtin.Validator
import FlowGate.Deadline

-- A session: a gate that lives on from step to step, with the functions that the host has registered and a
-- count of their calls.

namespace FlowGate

structure Session where
  gate     : Gate
  -- what the host has registered
  hosted   : List Call := []
  -- the names of the host's functions, once for every call
  counted  : List String := []
  -- whether the limiter that always passes has been called
  warned   : Bool := false

namespace Call

def name : Call → String
  | function name => name
  | transform name => name
  | validator name => name

end Call

namespace Session

def start (settings : Settings) (now : Moment) (registry : Registry) (audit : AuditStore) : Session where
  gate := {
    engine := { registry, comparer := { now, threshold := settings.fuzzyThreshold } },
    limits := settings.limits,
    cache  := .empty settings.cacheCapacity,
    audit }

-- Takes note of calls. Those of the host are counted, and of the others the first call of the limiter.
def noteCalls (s : Session) (calls : List Call) : Session :=
  let ofHost := calls.filter s.hosted.contains
  let limiter := Call.function "checkRateLimit"
  { s with
    counted := s.counted ++ ofHost.map Call.name,
    warned  := s.warned || (calls.contains limiter && !s.hosted.contains limiter) }

def setRegistry (s : Session) (registry : Registry) (call : Call) : Session :=
  { s with
    gate   := { s.gate with engine := { s.gate.engine with registry } },
    hosted := call :: s.hosted }

def registerFunction (s : Session) (name : String) (f : CustomFunction) : Session :=
  s.setRegistry (s.gate.engine.registry.registerFunction name f) (.function name)

def registerTransform (s : Session) (name : String) (f : TransformFunction) : Session :=
  s.setRegistry (s.gate.engine.registry.registerTransform name f) (.transform name)

def registerValidator (s : Session) (name : String) (f : ValidationFunction) : Session :=
  s.setRegistry (s.gate.engine.registry.registerValidator name f) (.validator name)

def setNow (s : Session) (now : Moment) : Session :=
  { s with gate := { s.gate with engine := { s.gate.engine with
      comparer := { s.gate.engine.comparer with now } } } }

def clearCache (s : Session) : Session := { s with gate := { s.gate with cache := s.gate.cache.clear } }

def callCounts (s : Session) : List (String × Nat) :=
  s.counted.eraseDups.map fun name => (name, s.counted.count name)

def limiterWarnings (s : Session) : Nat := if s.warned then 1 else 0

def evaluate (s : Session) (c : Context) (useCache : Bool) (condition : Condition) :
    Session × Option (Except Fault ConditionResult) :=
  let (gate, run) := s.gate.evaluate c useCache condition
  ({ s with gate }.noteCalls run.calls, run.value)

def runGroup (s : Session) (c : Context) (options : FilterOptions) (group : FilterGroup) :
    Session × FilterResult :=
  let run := group.run s.gate.engine c options
  (s.noteCalls run.calls, run.value)

def problems (s : Session) (rules : Rules) (v : Value) : Session × Except Fault (List Value) :=
  let run := rules.problems s.gate.engine.registry v
  (s.noteCalls run.calls, run.value)

def transform (s : Session) (t : Transformation) (v : Value) : Session × Except Fault Value :=
  let run := t.apply s.gate.engine.registry v
  (s.noteCalls run.calls, run.value)

def execute (s : Session) (c : Context) (offer : Offer) : Session × Option (Except Fault Decision) :=
  let (gate, run) := s.gate.executeUnder (some Numeral.digitLimit) c offer
  ({ s with gate }.noteCalls run.calls, run.value)

-- Decides a configuration as a step. A call that was cut off is not counted.
def step (s : Session) (c : Context) (offer : Offer) : Session × Except Fault StepResult :=
  let (gate, run) := s.gate.stepUnder (some Numeral.digitLimit) c offer
  ({ s with gate }.noteCalls (if run.cutOff then run.calls.dropLast else run.calls), run.result)

end Session

end FlowGate
