import FlowGate.Registry
import FlowGate.Text.Mail

-- The custom functions that every evaluator knows, and those about the progress of a workflow.

namespace FlowGate.Builtin

open Value

def paramsOf (params : Value) : Entries :=
  match params with
  | map entries => entries
  | _ => []

def reply (r : Except Fault Bool) : Reply :=
  match r with
  | .ok b => .value (.bool b)
  | .error f => .fault f

-- Whether a value is one of the members of another: an item of a list, a key of a mapping or a part of a text.
def memberOf (v container : Value) : Except Fault Bool :=
  match container with
  | list items => .ok (items.any fun item => item.same v)
  | map entries =>
    match v with
    | scalar s => .ok (Entries.find? entries s).isSome
    | v => .error (.unhashable v.kindName)
  | text s =>
    match v with
    | text part => .ok (Text.occurs part.toList s.toList)
    | v => .error (.searchedFor v.kindName)
  | v => .error (.notContainer v.kindName)

def wholeParam (v : Value) : Except Fault Int := do wholePart (← v.toNumber)

def isValidEmail : CustomFunction := fun _ context params =>
  let field := Entries.getD (paramsOf params) "field" (text "")
  .value (.bool (match context.resolveField field.plain with
    | text s => Text.isAddress s
    | _ => false))

-- From Monday to Friday, counted from Sunday as 0.
def weekdays : Value := list [int 1, int 2, int 3, int 4, int 5]

def isBusinessHours : CustomFunction := fun now _ params => reply do
  let p := paramsOf params
  let first ← wholeParam (Entries.getD p "startHour" (int 9))
  let last ← wholeParam (Entries.getD p "endHour" (int 17))
  let isWorkday ← memberOf (int now.date.weekdayFromSunday) (Entries.getD p "workDays" weekdays)
  return isWorkday && first ≤ now.time.hour && (now.time.hour : Int) < last

def checkRateLimit : CustomFunction := fun _ _ _ => .value (.bool true)

def isWorkflowStep : CustomFunction := fun _ context params => reply do
  match Entries.getD (paramsOf params) "stepIndex" null with
  | null => return false
  | v => return context.stepIndex == (← wholeParam v)

-- A variable, or a default where it counts as false.
def orDefault (context : Context) (name : String) (default : Value) : Value :=
  let v := Entries.getD context.vars name null
  if v.truthy then v else default

def hasExecutedAction : CustomFunction := fun _ context params =>
  reply (memberOf (Entries.getD (paramsOf params) "actionId" null)
    (orDefault context "_executedActions" (list [])))

def isRetryAttempt : CustomFunction := fun _ context _ => reply do
  let count ← (orDefault context "_retryCount" (int 0)).toNumber
  return Double.zero.lt count

def checkQuota : CustomFunction := fun _ context params => reply do
  let usage ← (orDefault context "_quotaUsage" (int 0)).toNumber
  let limit ← (Entries.getD (paramsOf params) "limit" (int 1000)).toNumber
  return usage.lt limit

def isOfficeTime (now : Moment) : Bool :=
  let day := now.date.weekdayFromSunday
  1 ≤ day && day ≤ 5 && 9 ≤ now.time.hour && now.time.hour < 17

def timeBasedCondition : CustomFunction := fun now _ params =>
  let p := paramsOf params
  .value (.bool (
    if (Entries.getD p "businessHours" null).truthy then isOfficeTime now
    else if (Entries.getD p "afterHours" null).truthy then !isOfficeTime now
    else true))

def engineFunctions : List (String × CustomFunction) := [
  ("isValidEmail", isValidEmail),
  ("isBusinessHours", isBusinessHours),
  ("checkRateLimit", checkRateLimit)
]

def workflowFunctions : List (String × CustomFunction) := [
  ("isWorkflowStep", isWorkflowStep),
  ("hasExecutedAction", hasExecutedAction),
  ("isRetryAttempt", isRetryAttempt),
  ("checkQuota", checkQuota),
  ("timeBasedCondition", timeBasedCondition)
]

end FlowGate.Builtin
