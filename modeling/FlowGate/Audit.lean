import FlowGate.Action.Basic

-- Records of decisions, and the stores that keep them.

namespace FlowGate

open Value

structure AuditRecord where
  actionId         : Value
  actionName       : Value
  executionId      : Value
  workflowId       : Value
  userId           : Value
  branch           : Way
  conditionsPassed : Bool
  filtersPassed    : Bool
  detail           : Detail
  errors           : List String
  details          : Option Value

namespace AuditRecord

def document (r : AuditRecord) : Value := record (
  [("actionId", r.actionId),
   ("actionName", r.actionName),
   ("executionId", r.executionId),
   ("workflowId", r.workflowId),
   ("userId", r.userId),
   ("branch", text r.branch.name),
   ("conditionsPassed", bool r.conditionsPassed),
   ("filtersPassed", bool r.filtersPassed),
   ("logLevel", text r.detail.name),
   ("errors", texts r.errors)] ++
  (r.details.map fun d => ("details", d)).toList)

end AuditRecord

inductive AuditStore
  -- keeps all records, the oldest first
  | memory (records : List AuditRecord)
  -- takes records and keeps none
  | discarding
  -- leaves everything to the host
  | unfinished

namespace AuditStore

def size? : AuditStore → Option Nat
  | memory records => some records.length
  | _ => none

def save (s : AuditStore) (r : AuditRecord) : Except Fault AuditStore :=
  match s with
  | memory records => .ok (.memory (records ++ [r]))
  | discarding => .ok .discarding
  | unfinished => .error .notImplemented

def ofExecution (s : AuditStore) (id : Value) : Except Fault (List AuditRecord) :=
  match s with
  | memory records => .ok (records.filter fun r => r.executionId.same id)
  | discarding => .ok []
  | unfinished => .error .notImplemented

-- The last so many members of a list. Zero stands for all of them, and a negative number leaves out as many at
-- the front.
def newest {α : Type} (limit : Int) (xs : List α) : List α :=
  if 0 < limit then xs.drop (xs.length - limit.toNat) else xs.drop (-limit).toNat

def ofWorkflow (s : AuditStore) (id : Value) (limit : Int) : Except Fault (List AuditRecord) :=
  match s with
  | memory records => .ok (newest limit (records.filter fun r => r.workflowId.same id)).reverse
  | discarding => .ok []
  | unfinished => .error .notImplemented

end AuditStore

end FlowGate
