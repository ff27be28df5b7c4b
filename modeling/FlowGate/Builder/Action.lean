import FlowGate.Action.Basic
import FlowGate.Builder.Condition

-- Building conditional actions for common gates: access rights, the validity of data, and approvals.

namespace FlowGate.Builder

open Value Build
open Schema (newId nonEmptyText whole truth optional natural)

-- A condition with a name and nothing else that is said about it.
def named (name : String) (field : Value) (operator : Operator) (value : Value) : Build Condition :=
  comparing field operator value { name := some name }

def permissionCheck (role permissions : Value) : Build Action := do
  let roleCheck ← named "Role Check" (text "user.role") .equals role
  let permissionChecks ←
    if permissions.truthy then do
      let parts ← ofFault permissions.parts
      let check ← named "Permission Check" (text "user.permissions") .includesAll (list parts)
      pure [check]
    else pure []
  return {
    id          := text "permission_check_0",
    name        := text "User Permission Check",
    description := some s!"Check if user has role '{role.plain}' and required permissions",
    conditions  := roleCheck :: permissionChecks,
    onTrue      := .known { actionIds := ["continue_workflow"], continueWorkflow := true },
    onFalse     := some {
      actionIds    := ["access_denied"],
      setVariables := [
        (.text "error", text "Insufficient permissions"),
        (.text "errorCode", text "ACCESS_DENIED")] },
    options     := { stopOnFirstFailure := true, timeoutMs := some 5000, cacheResults := true } }

def ruleKey (rule : Value) (key : String) : Except Fault Value :=
  match rule with
  | map entries =>
    match Entries.get? entries key with
    | some v => .ok v
    | none => .error (.noKey (text key).literal)
  | text _ => .error (.textIndex "str")
  | list _ => .error .listIndex
  | v => .error (.notSubscriptable v.kindName)

-- The value under a key of a rule that may do without it.
def ruleOption (rule : Value) (key : String) : Value :=
  match rule with
  | map entries => Entries.getD entries key null
  | _ => null

def ruleCondition (rule : Value) : Build Condition := do
  let field ← ofFault (ruleKey rule "field")
  let operator ← ofFault (ruleKey rule "operator")
  let message := ruleOption rule "message"
  let description := if message.truthy then message else text s!"Validation for {field.plain}"
  simpleCondition field operator (ruleOption rule "value")
    (record [("name", text s!"Validate {field.plain}"), ("description", description)])

def ruleConditions : List Value → Build (List Condition)
  | [] => .ok []
  | rule :: rest => do
    let condition ← ruleCondition rule
    let conditions ← ruleConditions rest
    return condition :: conditions

def dataValidation (rules : Value) : Build Action := do
  let parts ← ofFault rules.parts
  let conditions ← ruleConditions parts
  return {
    id          := text "data_validation_0",
    name        := text "Data Validation",
    description := some "Validate input data according to business rules",
    conditions,
    onTrue      := .known {
      actionIds        := ["process_data"],
      continueWorkflow := true,
      setVariables     := [(.text "validationStatus", text "passed")] },
    onFalse     := some {
      actionIds    := ["validation_failed"],
      setVariables := [
        (.text "validationStatus", text "failed"),
        (.text "error", text "Data validation failed")] },
    options     := { timeoutMs := some 10000, detail := .detailed } }

def approvalWorkflow (field approvers timeoutHours now : Value) : Build Action := do
  let statusCheck ←
    named "Approval Status Check" (text (field.plain ++ ".status")) .equals (text "approved")
  let below ← ofFault approvers.pred
  let countCheck ←
    named "Minimum Approvers Check" (text (field.plain ++ ".approvers")) .arrayLengthGreaterThan below
  let span ← ofFault (Calendar.hours timeoutHours)
  let oldest ← ofFault (now.earlier span)
  let oldestText ← ofFault oldest.calendarText
  let timeCheck ←
    named "Timeout Check" (text (field.plain ++ ".submittedAt")) .dateAfter (text oldestText)
  let nowText ← ofFault now.calendarText
  return {
    id          := text "approval_workflow_0",
    name        := text "Approval Workflow",
    description := some s!"Check approval status with {approvers.plain} required approvers",
    conditions  := [statusCheck, countCheck, timeCheck],
    onTrue      := .known {
      actionIds        := ["execute_approved_action"],
      continueWorkflow := true,
      setVariables     := [
        (.text "approvalResult", text "approved"),
        (.text "approvedAt", text nowText)] },
    onFalse     := some {
      actionIds    := ["handle_pending_approval"],
      setVariables := [
        (.text "approvalResult", text "pending"),
        (.text "reason", text "Insufficient approvals or timeout")] },
    options     := { timeoutMs := some 15000, cacheResults := true, detail := .detailed } }

end FlowGate.Builder
