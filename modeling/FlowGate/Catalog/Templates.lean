import FlowGate.Action.Basic
import FlowGate.Calendar.Span

-- Ready-made conditional actions for common gates. Dates in them are relative to the moment at which they are
-- asked for.

namespace FlowGate.Catalog

open Value

namespace Template

def header (id : String) (name : Option String := none) (tags : List String := []) : Header :=
  ⟨text id, { name, tags }⟩

def compare (header : Header) (field : String) (operator : Operator) (value : Value) : Condition :=
  .simple header (text field) (.known operator) value

def combine (header : Header) (operator : Connective) (children : List Condition) : Condition :=
  .complex header (.known operator) children none

def proceed (actionIds : List String) (setVariables : Entries := []) : Branch :=
  { actionIds, continueWorkflow := true, setVariables }

def halt (actionIds : List String) (setVariables : Entries := []) : Branch := { actionIds, setVariables }

end Template

open Template

def emailValidation : Action where
  id          := text "email_validation"
  name        := text "Email Validation"
  description := some "Validate email format and domain"
  conditions  := [
    compare (header "email_format" (some "Email Format Check")) "user.email" .matchesRegex
      (text "^[^\\s@]+@[^\\s@]+\\.[^\\s@]+$")]
  onTrue      := .known (proceed ["continue"])
  onFalse     := some (halt ["validation_error"] [(.text "error", text "Invalid email format")])
  options     := { stopOnFirstFailure := true, timeoutMs := some 5000, cacheResults := true }

def businessHours : Action where
  id          := text "business_hours"
  name        := text "Business Hours Check"
  description := some "Check if current time is within business hours"
  conditions  := [
    .custom (header "business_hours" (some "Business Hours Check")) (text "timeBasedCondition")
      (record [("businessHours", bool true)])]
  onTrue      := .known (proceed ["process_immediately"])
  onFalse     := some (halt ["queue_for_business_hours"] [(.text "queuedForLater", bool true)])
  options     := { timeoutMs := some 3000 }

def approval : Action where
  id          := text "approval_workflow"
  name        := text "Approval Workflow"
  description := some "Check if item has required approvals"
  conditions  := [
    compare (header "approval_status" (some "Approval Status")) "approval.status" .equals (text "approved"),
    compare (header "approver_count" (some "Minimum Approvers")) "approval.approvers" .arrayLengthGreaterThan
      (int 1)]
  onTrue      := .known (proceed ["execute_approved_action"] [(.text "approved", bool true)])
  onFalse     := some (halt ["request_additional_approval"] [(.text "needsApproval", bool true)])
  options     := { timeoutMs := some 10000, cacheResults := true, detail := .detailed }

-- The share of fields that data of high quality fills in at least.
def completeness : Double := .ofRatio false 8 10

def dataQualityAfter (oldest : String) : Action where
  id          := text "data_quality_check"
  name        := text "Data Quality Check"
  description := some "Validate data completeness and quality"
  conditions  := [
    combine (header "required_fields" (some "Required Fields Check")) .and [
      compare (header "name_exists") "data.name" .isNotEmpty null,
      compare (header "email_exists") "data.email" .isNotEmpty null],
    compare (header "data_freshness" (some "Data Freshness Check")) "data.lastUpdated" .dateAfter (text oldest)]
  filters     := [{
    id      := text "quality_filter",
    name    := text "Data Quality Filter",
    filters := [{
      id       := text "completeness",
      name     := text "Completeness Check",
      field    := text "data.completeness",
      operator := .known .greaterThan,
      value    := double completeness,
      priority := int 1 }] }]
  onTrue      := .known (proceed ["process_high_quality_data"] [(.text "dataQuality", text "high")])
  onFalse     := some (halt ["data_cleaning_required"] [
    (.text "dataQuality", text "low"),
    (.text "requiresCleaning", bool true)])
  options     := { timeoutMs := some 15000, cacheResults := true, detail := .detailed }

def dataQuality (now : Moment) : Except Fault Action :=
  (now.earlier Calendar.dayLength).map fun oldest => dataQualityAfter oldest.text

def highValueOrder : Action where
  id          := text "high_value_order"
  name        := text "High Value Order"
  description := some "Route paid orders above 1000 to manual review"
  conditions  := [
    compare (header "order_total" (some "Order Total Check")) "order.total" .greaterThan (int 1000),
    compare (header "order_paid" (some "Order Status Check")) "order.status" .isIn (texts ["paid", "confirmed"])]
  onTrue      := .known (proceed ["manual_review", "notify_sales"] [(.text "highValue", bool true)])
  onFalse     := some (proceed ["standard_fulfillment"] [(.text "highValue", bool false)])
  options     := { timeoutMs := some 5000 }

def vipCustomer : Action where
  id          := text "vip_customer"
  name        := text "VIP Customer"
  description := some "Detect VIP customers by tier or lifetime value"
  conditions  := [
    combine (header "vip_check" (some "VIP Check") ["customer", "vip"]) .or [
      compare (header "vip_tier") "customer.tier" .equals (text "vip"),
      compare (header "vip_value") "customer.lifetimeValue" .greaterThanOrEqual (int 10000)]]
  filters     := [{
    id      := text "active_customer",
    name    := text "Active Customer",
    filters := [{
      id             := text "customer_active",
      name           := text "Account Active",
      field          := text "customer.status",
      operator       := .known .equals,
      value          := text "active",
      transformation := some { kind := .normalize } }] }]
  onTrue      := .known (proceed ["assign_priority_support"] [(.text "vip", bool true)])
  onFalse     := some (proceed ["assign_standard_support"] [(.text "vip", bool false)])
  options     := { cacheResults := true }

def templates (now : Moment) : List (String × Except Fault Action) := [
  ("email_validation", .ok emailValidation),
  ("business_hours", .ok businessHours),
  ("approval_workflow", .ok approval),
  ("data_quality_check", dataQuality now),
  ("high_value_order", .ok highValueOrder),
  ("vip_customer", .ok vipCustomer)
]

-- The template with an id, if there is one.
def template? (id : String) (now : Moment) : Option (Except Fault Action) := (templates now).lookup id

def inOrder : List (String × Except Fault Action) → Except Fault (List Action)
  | [] => .ok []
  | (_, template) :: rest => do
    let action ← template
    let actions ← inOrder rest
    return action :: actions

def allTemplates (now : Moment) : Except Fault (List Action) := inOrder (templates now)

end FlowGate.Catalog
