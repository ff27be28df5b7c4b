import FlowGate.Number.Double

-- A bounded store that forgets the entry that was touched least recently. Looking an entry up and putting it
-- both touch it. The counters outlive the entries.

namespace FlowGate

structure Cache (α : Type) where
  capacity  : Nat
  -- the entry touched least recently comes first
  entries   : List (String × α)
  hits      : Nat
  misses    : Nat
  evictions : Nat
  capacity_pos : 0 < capacity

namespace Cache

variable {α : Type}

-- An empty cache. It has room for one entry at least.
def empty (capacity : Int) : Cache α where
  capacity  := (max 1 capacity).toNat
  entries   := []
  hits      := 0
  misses    := 0
  evictions := 0
  capacity_pos := by omega

def size (c : Cache α) : Nat := c.entries.length

-- The value under a key, without touching it.
def find? (c : Cache α) (key : String) : Option α := c.entries.lookup key

def without (entries : List (String × α)) (key : String) : List (String × α) :=
  entries.filter fun entry => entry.1 != key

def get (c : Cache α) (key : String) : Option α × Cache α :=
  match c.find? key with
  | some a =>
    (some a, { c with entries := without c.entries key ++ [(key, a)], hits := c.hits + 1 })
  | none => (none, { c with misses := c.misses + 1 })

-- Puts a value under a key. If there is no room left, the first entry goes.
def set (c : Cache α) (key : String) (a : α) : Cache α :=
  let entries := without c.entries key ++ [(key, a)]
  let excess := entries.length - c.capacity
  { c with entries := entries.drop excess, evictions := c.evictions + excess }

def clear (c : Cache α) : Cache α := { c with entries := [] }

def hitRate (c : Cache α) : Double :=
  if c.hits + c.misses = 0 then .zero else .ofRatio false c.hits (c.hits + c.misses)

end Cache

end FlowGate
