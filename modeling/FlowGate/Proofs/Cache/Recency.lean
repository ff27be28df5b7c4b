import FlowGate.Proofs.Cache
import Mathlib.Data.Finset.Card
import Mathlib.Data.List.Nodup
import Mathlib.Data.List.TakeWhile

-- Which entries a cache has after any uses. What is kept can be told from the uses alone: the value that was
-- put last under a key is there as long as fewer other keys have been touched since than there is room for.

namespace FlowGate.Cache

inductive Use (α : Type)
  | get (key : String)
  | set (key : String) (a : α)
  | clear

variable {α : Type} {cache : Cache α} {es : List (String × α)} {key k : String} {a b : α} {room : Nat}

def Use.isGet : Use α → Bool
  | get _ => true
  | _     => false

def serve (cache : Cache α) : Use α → Cache α
  | .get key   => (cache.get key).2
  | .set key a => cache.set key a
  | .clear     => cache.clear

-- The past of a cache lists its uses, the latest one first.
def after (capacity : Int) : List (Use α) → Cache α
  | []          => .empty capacity
  | use :: past => (after capacity past).serve use

variable {past past' : List (Use α)} {ts : List String} {capacity : Int}

-- The value that was put last under a key since the entries were forgotten.
def lastPut? (key : String) : List (Use α) → Option α
  | []               => none
  | .clear :: _      => none
  | .get _ :: past   => lastPut? key past
  | .set k a :: past => if k = key then some a else lastPut? key past

-- The other keys among those that were touched since a key was, the latest first.
def others (key : String) (touched : List String) : Finset String :=
  (touched.takeWhile (· != key)).toFinset

-- The keys that were touched since the entries were forgotten, the latest first. Putting an entry touches
-- its key, and looking a key up touches it if that finds something.
def touched (room : Nat) : List (Use α) → List String
  | []                 => []
  | .clear :: _        => []
  | .set key _ :: past => key :: touched room past
  | .get key :: past   =>
    if (lastPut? key past).isSome ∧ (others key (touched room past)).card < room
    then key :: touched room past
    else touched room past

-- How often an entry was put under a key that had none.
def inserted (capacity : Int) : List (Use α) → Nat
  | []                 => 0
  | .set key _ :: past =>
    inserted capacity past + if ((after capacity past).find? key).isNone then 1 else 0
  | .get _ :: past     => inserted capacity past
  | .clear :: past     => inserted capacity past

-- How many entries were there when all were forgotten.
def forgotten (capacity : Int) : List (Use α) → Nat
  | []               => 0
  | .get _ :: past   => forgotten capacity past
  | .set _ _ :: past => forgotten capacity past
  | .clear :: past   => forgotten capacity past + (after capacity past).size

-- A cache that keeps what was touched last.
structure Recent (room : Nat) (past : List (Use α)) (cache : Cache α) : Prop where
  capacity : cache.capacity = room
  distinct : (cache.entries.map Prod.fst).Nodup
  bounded  : cache.size ≤ room
  answers  : ∀ key a, (cache.get key).1 = some a ↔
    lastPut? key past = some a ∧ (others key (touched room past)).card < room
  roomy    : ∀ key a, (cache.find? key).isSome ∨ cache.size < room →
    (cache.set key a).entries = without cache.entries key ++ [(key, a)] ∧
      (cache.set key a).evictions = cache.evictions
  full     : ∀ key a, cache.find? key = none → cache.size = room →
    ∃ oldest kept, cache.entries = oldest :: kept ∧
      (∀ entry ∈ kept, entry.1 ∈ others oldest.1 (touched room past)) ∧
      (cache.set key a).entries = kept ++ [(key, a)] ∧
      (cache.set key a).evictions = cache.evictions + 1
  spared   : ∀ key, (cache.get key).2.evictions = cache.evictions ∧
    cache.clear.evictions = cache.evictions
  asked    : cache.hits + cache.misses = past.countP Use.isGet

-- The entries with one of them put behind all others.
def moved (es : List (String × α)) (key : String) (a : α) : List (String × α) :=
  without es key ++ [(key, a)]

def keys (es : List (String × α)) : Finset String := (es.map Prod.fst).toFinset

theorem mem_keys : k ∈ keys es ↔ ∃ a, (k, a) ∈ es := by
  simp [keys]

theorem keys_cons {entry : String × α} : keys (entry :: es) = insert entry.1 (keys es) := by
  simp [keys]

theorem mem_keys_moved : k ∈ keys (moved es key a) ↔ k = key ∨ k ∈ keys es := by
  by_cases hk : k = key <;> simp [keys, moved, without, hk]

theorem moved_of_not_mem (h : key ∉ keys es) : moved es key a = es ++ [(key, a)] := by
  refine congrArg (· ++ [(key, a)]) (List.filter_eq_self.mpr fun entry hm => ?_)
  simpa using fun he : entry.1 = key => h (mem_keys.mpr ⟨entry.2, he ▸ hm⟩)

theorem find?_eq_none_iff : cache.find? key = none ↔ key ∉ keys cache.entries := by
  rw [find?, List.lookup_eq_none_iff, mem_keys]
  constructor
  case mp  => rintro h ⟨a, hm⟩; simpa using h _ hm
  case mpr =>
    rintro h ⟨k, a⟩ hm
    simpa using fun he : key = k => h ⟨a, he ▸ hm⟩

theorem mem_keys_iff_isSome : key ∈ keys cache.entries ↔ (cache.find? key).isSome := by
  rw [← not_iff_not, ← find?_eq_none_iff, Option.not_isSome_iff_eq_none]

theorem get_fst : (cache.get key).1 = cache.find? key := by
  unfold get
  cases cache.find? key <;> rfl

theorem others_self : others key (key :: ts) = ∅ := by
  simp [others]

theorem others_cons (h : k ≠ key) : others k (key :: ts) = insert key (others k ts) := by
  simp [others, h.symm]

theorem not_mem_others : key ∉ others key ts := by
  intro h
  simpa using List.mem_takeWhile_imp (List.mem_toFinset.mp h)

-- Entries in the order in which their keys were touched, each with the value that was put last. The keys
-- behind an entry are all that have been touched since its own was.
def Lined (room : Nat) (past : List (Use α)) : List (String × α) → Prop
  | []          => True
  | entry :: es =>
    lastPut? entry.1 past = some entry.2 ∧ others entry.1 (touched room past) = keys es ∧
      Lined room past es

namespace Lined

theorem drop (h : Lined room past es) (n : Nat) : Lined room past (es.drop n) := by
  induction es generalizing n
  case nil => simpa using h
  case cons entry es hi =>
    cases n
    case zero   => exact h
    case succ n => exact hi h.right.right n

theorem nodup (h : Lined room past es) : (es.map Prod.fst).Nodup := by
  induction es
  case nil => exact .nil
  case cons entry es hi =>
    have ⟨_, ho, h⟩ := h
    have hn : entry.1 ∉ keys es := ho ▸ not_mem_others
    exact List.nodup_cons.mpr ⟨fun hm => hn (List.mem_toFinset.mpr hm), hi h⟩

theorem card_keys (h : Lined room past es) : (keys es).card = es.length := by
  rw [keys, List.toFinset_card_of_nodup h.nodup, List.length_map]

theorem of_mem {entry : String × α} (h : Lined room past es) (hm : entry ∈ es) :
    lastPut? entry.1 past = some entry.2 ∧
      (others entry.1 (touched room past)).card < es.length := by
  induction es
  case nil => cases hm
  case cons first es hi =>
    have ⟨hl, ho, h⟩ := h
    rw [List.length_cons]
    cases List.mem_cons.mp hm
    case inl hm => exact hm ▸ ⟨hl, by rw [ho, h.card_keys]; exact Nat.lt_succ_self _⟩
    case inr hm => exact (hi h hm).imp_right Nat.lt_succ_of_lt

theorem length_moved (h : Lined room past es) (hm : key ∈ keys es) :
    (moved es key a).length = es.length := by
  induction es
  case nil => simp [keys] at hm
  case cons entry es hi =>
    have ⟨_, ho, h⟩ := h
    by_cases hk : entry.1 = key
    case pos =>
      have hn : key ∉ keys es := hk ▸ ho ▸ not_mem_others
      have hw : moved (entry :: es) key a = moved es key a := by simp [moved, without, hk]
      rw [hw, moved_of_not_mem hn, List.length_append, List.length_singleton, List.length_cons]
    case neg =>
      have hw : moved (entry :: es) key a = entry :: moved es key a := by
        simp [moved, without, hk]
      rw [keys_cons, Finset.mem_insert] at hm
      rw [hw, List.length_cons, List.length_cons, hi h (hm.resolve_left fun he => hk he.symm)]

-- Whatever stands behind a key has been touched since.
theorem keys_drop_subset (h : Lined room past es) {n : Nat} (hm : k ∈ keys (es.take n)) :
    keys (es.drop n) ⊆ others k (touched room past) := by
  induction es generalizing n
  case nil => simp [keys] at hm
  case cons entry es hi =>
    have ⟨_, ho, h⟩ := h
    cases n
    case zero => simp [keys] at hm
    case succ n =>
      rw [List.take_succ_cons, keys_cons] at hm
      cases Finset.mem_insert.mp hm
      case inr hm => exact hi h hm
      case inl hm =>
        rw [hm, ho, List.drop_succ_cons]
        intro k hk
        have ⟨a, hk⟩ := mem_keys.mp hk
        exact mem_keys.mpr ⟨a, List.mem_of_mem_drop hk⟩

end Lined

-- A use after which a key is the one that was touched last, with this value under it.
structure Refreshes (room : Nat) (key : String) (a : α) (past past' : List (Use α)) : Prop where
  touches : touched room past' = key :: touched room past
  own     : lastPut? key past' = some a
  apart   : ∀ k, k ≠ key → lastPut? k past' = lastPut? k past

namespace Refreshes

theorem set : Refreshes room key a past (.set key a :: past) where
  touches   := rfl
  own       := by simp [lastPut?]
  apart k h := by simp [lastPut?, h.symm]

theorem get (h : lastPut? key past = some a) (hr : (others key (touched room past)).card < room) :
    Refreshes room key a past (.get key :: past) where
  touches   := by simp [touched, h, hr]
  own       := h
  apart _ _ := rfl

theorem lined_moved (hr : Refreshes room key a past past') (h : Lined room past es) :
    Lined room past' (moved es key a) := by
  induction es
  case nil => exact ⟨hr.own, by rw [hr.touches, others_self]; rfl, trivial⟩
  case cons entry es hi =>
    have ⟨hl, ho, h⟩ := h
    by_cases hk : entry.1 = key
    case pos =>
      have hm : moved (entry :: es) key a = moved es key a := by simp [moved, without, hk]
      exact hm ▸ hi h
    case neg =>
      have hm : moved (entry :: es) key a = entry :: moved es key a := by
        simp [moved, without, hk]
      rw [hm]
      refine ⟨(hr.apart _ hk).trans hl, ?_, hi h⟩
      rw [hr.touches, others_cons hk, ho]
      ext k
      rw [Finset.mem_insert, mem_keys_moved]

end Refreshes

-- What is kept is lined up, and for what is not there has been no room.
structure Follows (room : Nat) (past : List (Use α)) (cache : Cache α) : Prop where
  capacity : cache.capacity = room
  bounded  : cache.size ≤ room
  lined    : Lined room past cache.entries
  gone     : ∀ key, key ∉ keys cache.entries → ∀ a, lastPut? key past = some a →
    room ≤ (others key (touched room past)).card

namespace Follows

theorem mem_iff (h : Follows room past cache) : (key, a) ∈ cache.entries ↔
    lastPut? key past = some a ∧ (others key (touched room past)).card < room := by
  constructor
  case mp => exact fun hm => (h.lined.of_mem hm).imp_right fun hc => hc.trans_le h.bounded
  case mpr =>
    intro ⟨hl, hc⟩
    by_cases hm : key ∈ keys cache.entries
    case neg => exact absurd (h.gone key hm a hl) (Nat.not_le.mpr hc)
    case pos =>
      have ⟨b, hm⟩ := mem_keys.mp hm
      have hb : lastPut? key past = some b := (h.lined.of_mem hm).left
      exact Option.some.inj (hl.symm.trans hb) ▸ hm

theorem find?_eq_some_iff (h : Follows room past cache) : cache.find? key = some a ↔
    lastPut? key past = some a ∧ (others key (touched room past)).card < room := by
  rw [← h.mem_iff]
  refine ⟨mem_of_find?, fun hm => ?_⟩
  cases hf : cache.find? key
  case none   => exact absurd (mem_keys.mpr ⟨a, hm⟩) (find?_eq_none_iff.mp hf)
  case some b =>
    have hb := (h.lined.of_mem (mem_of_find? hf)).left
    exact hb.symm.trans (h.lined.of_mem hm).left

-- With a key behind all others, the first entries are those that were touched least recently, and they
-- go if there is no room for them.
theorem refresh {cache' : Cache α} (h : Follows room past cache)
    (hr : Refreshes room key a past past') (hc : cache'.capacity = room)
    (he : cache'.entries =
      (moved cache.entries key a).drop ((moved cache.entries key a).length - room)) :
    Follows room past' cache' := by
  have hl := hr.lined_moved h.lined
  generalize hes : moved cache.entries key a = es at hl he
  generalize hn : es.length - room = n at he
  have hlen : cache'.entries.length = es.length - n := by rw [he, List.length_drop]
  refine ⟨hc, by rw [size]; omega, he ▸ hl.drop n, fun k hk b hb => ?_⟩
  by_cases hm : k ∈ keys es
  case neg =>
    have hm : k ∉ keys (moved cache.entries key a) := hes ▸ hm
    obtain ⟨hne, hm⟩ := not_or.mp (mem_keys_moved.not.mp hm)
    rw [hr.touches, others_cons hne]
    exact (h.gone k hm b (hr.apart k hne ▸ hb)).trans (Finset.card_le_card (Finset.subset_insert ..))
  case pos =>
    -- it was among the entries that had to go
    have hgone : k ∈ keys (es.take n) := by
      obtain ⟨c, hm⟩ := mem_keys.mp hm
      rw [← List.take_append_drop n es, ← he] at hm
      cases List.mem_append.mp hm
      case inl hm => exact mem_keys.mpr ⟨c, hm⟩
      case inr hm => exact absurd (mem_keys.mpr ⟨c, hm⟩) hk
    have hpos : n ≠ 0 := by
      rintro rfl
      simp [keys] at hgone
    calc room
      _ = cache'.entries.length := by omega
      _ = (keys cache'.entries).card := by rw [he, (hl.drop n).card_keys]
      _ ≤ (others k (touched room past')).card :=
        Finset.card_le_card (he ▸ hl.keys_drop_subset hgone)

theorem start (capacity : Int) :
    Follows (max 1 capacity).toNat [] (empty capacity : Cache α) where
  capacity := rfl
  bounded  := Nat.zero_le _
  lined    := trivial
  gone     := nofun

theorem set (h : Follows room past cache) (key : String) (a : α) :
    Follows room (.set key a :: past) (cache.set key a) :=
  h.refresh .set h.capacity (h.capacity ▸ rfl)

theorem clear (h : Follows room past cache) : Follows room (.clear :: past) cache.clear where
  capacity := h.capacity
  bounded  := Nat.zero_le _
  lined    := trivial
  gone     := nofun

theorem get (h : Follows room past cache) (key : String) :
    Follows room (.get key :: past) (cache.get key).2 := by
  cases hf : cache.find? key
  case none =>
    -- nothing is found, and nothing is touched
    have ht : touched room (.get key :: past) = touched room past := by
      refine if_neg fun ⟨hl, hc⟩ => ?_
      have ⟨a, hl⟩ := Option.isSome_iff_exists.mp hl
      exact nomatch hf.symm.trans (h.find?_eq_some_iff.mpr ⟨hl, hc⟩)
    have hl : ∀ {es}, Lined room past es → Lined room (.get key :: past) es := by
      intro es hl
      induction es
      case nil => trivial
      case cons entry es hi =>
        have ⟨hp, ho, hl⟩ := hl
        exact ⟨hp, ht ▸ ho, hi hl⟩
    simp only [Cache.get, hf]
    exact ⟨h.capacity, h.bounded, hl h.lined, ht ▸ h.gone⟩
  case some a =>
    have ⟨hl, hc⟩ := h.find?_eq_some_iff.mp hf
    have hm : key ∈ keys cache.entries := mem_keys.mpr ⟨a, mem_of_find? hf⟩
    have hn : (moved cache.entries key a).length - room = 0 := by
      rw [h.lined.length_moved hm]
      exact Nat.sub_eq_zero_of_le h.bounded
    refine h.refresh (.get hl hc) ?_ ?_ <;> simp only [Cache.get, hf]
    · exact h.capacity
    · rw [hn, List.drop_zero]
      rfl

theorem serve (h : Follows room past cache) : ∀ use, Follows room (use :: past) (cache.serve use)
  | .get key   => h.get key
  | .set key a => h.set key a
  | .clear     => h.clear

theorem after (capacity : Int) : ∀ past : List (Use α),
    Follows (max 1 capacity).toNat past (Cache.after capacity past)
  | []          => start capacity
  | use :: past => (after capacity past).serve use

-- Putting what is there already, or what there is room for, makes nothing go.
theorem roomy (h : Follows room past cache) (key : String) (a : α)
    (hf : key ∈ keys cache.entries ∨ cache.size < room) :
    (cache.set key a).entries = moved cache.entries key a ∧
      (cache.set key a).evictions = cache.evictions := by
  have hn : (moved cache.entries key a).length - cache.capacity = 0 := by
    rw [h.capacity]
    refine Nat.sub_eq_zero_of_le ?_
    by_cases hm : key ∈ keys cache.entries
    case pos => rw [h.lined.length_moved hm]; exact h.bounded
    case neg =>
      rw [moved_of_not_mem hm, List.length_append, List.length_singleton]
      exact hf.resolve_left hm
  refine ⟨?_, ?_⟩
  · exact (congrArg (moved cache.entries key a).drop hn).trans List.drop_zero
  · exact congrArg (cache.evictions + ·) hn

-- Otherwise the first entry goes, which is the one that was touched least recently.
theorem full (h : Follows room past cache) (key : String) (a : α) (hf : key ∉ keys cache.entries)
    (hs : cache.size = room) :
    ∃ oldest kept, cache.entries = oldest :: kept ∧
      (∀ entry ∈ kept, entry.1 ∈ others oldest.1 (touched room past)) ∧
      (cache.set key a).entries = kept ++ [(key, a)] ∧
      (cache.set key a).evictions = cache.evictions + 1 := by
  have hn : (moved cache.entries key a).length - cache.capacity = 1 := by
    rw [moved_of_not_mem hf, h.capacity, ← hs, List.length_append]
    exact Nat.add_sub_cancel_left ..
  have hentries : (cache.set key a).entries = (cache.entries ++ [(key, a)]).drop 1 :=
    (congrArg (moved cache.entries key a).drop hn).trans
      (congrArg (List.drop 1) (moved_of_not_mem hf))
  have hevictions : (cache.set key a).evictions = cache.evictions + 1 :=
    congrArg (cache.evictions + ·) hn
  have hl := h.lined
  have hpos := h.capacity ▸ cache.capacity_pos
  cases he : cache.entries
  case nil => exact absurd (hs ▸ hpos) (by simp [size, he])
  case cons oldest kept =>
    rw [he] at hl hentries
    have ⟨_, ho, _⟩ := hl
    refine ⟨oldest, kept, rfl, fun entry hm => ?_, hentries, hevictions⟩
    exact ho ▸ mem_keys.mpr ⟨entry.2, hm⟩

theorem size_get (h : Follows room past cache) (key : String) :
    (cache.get key).2.size = cache.size ∧ (cache.get key).2.evictions = cache.evictions := by
  unfold Cache.get
  cases hf : cache.find? key
  case none   => exact ⟨rfl, rfl⟩
  case some a => exact ⟨h.lined.length_moved (mem_keys.mpr ⟨a, mem_of_find? hf⟩), rfl⟩

-- An entry under a new key is one more, or takes the place of one that goes.
theorem size_set (h : Follows room past cache) (key : String) (a : α) :
    (cache.set key a).size + (cache.set key a).evictions =
      cache.size + cache.evictions + if (cache.find? key).isNone then 1 else 0 := by
  by_cases hm : key ∈ keys cache.entries
  case pos =>
    have ⟨he, hv⟩ := h.roomy key a (.inl hm)
    have hf : (cache.find? key).isNone = false := by
      simpa using mem_keys_iff_isSome.mp hm
    rw [size, he, hv, h.lined.length_moved hm, hf]
    rfl
  case neg =>
    have hf : (cache.find? key).isNone = true := Option.isNone_iff_eq_none.mpr (find?_eq_none_iff.mpr hm)
    rw [hf, if_pos rfl]
    cases Nat.lt_or_ge cache.size room
    case inl hs =>
      have ⟨he, hv⟩ := h.roomy key a (.inr hs)
      rw [size, he, hv, moved_of_not_mem hm, List.length_append, List.length_singleton, size]
      omega
    case inr hs =>
      have ⟨oldest, kept, hc, _, he, hv⟩ := h.full key a hm (Nat.le_antisymm h.bounded hs)
      rw [size, he, hv, size, hc, List.length_append, List.length_singleton, List.length_cons]
      omega

end Follows

theorem after_asked (capacity : Int) (past : List (Use α)) :
    (after capacity past).hits + (after capacity past).misses = past.countP Use.isGet := by
  induction past
  case nil => rfl
  case cons use past hi =>
    rw [after, List.countP_cons, ← hi]
    cases use
    case get key => exact get_touches.counted
    case set     => rfl
    case clear   => rfl

-- Whatever was put in is there, or had to go, or was forgotten.
theorem after_inserted (capacity : Int) (past : List (Use α)) :
    inserted capacity past = (after capacity past).size + (after capacity past).evictions +
      forgotten capacity past := by
  induction past
  case nil => rfl
  case cons use past hi =>
    have h := Follows.after capacity past
    cases use
    case get key =>
      have ⟨hs, he⟩ := h.size_get key
      rw [inserted, hi, after, serve, hs, he, forgotten]
    case set key a =>
      have hs := h.size_set key a
      rw [inserted, hi, after, serve, forgotten]
      omega
    case clear =>
      have hs : (after capacity past).clear.size = 0 := rfl
      have he : (after capacity past).clear.evictions = (after capacity past).evictions := rfl
      rw [inserted, hi, after, serve, forgotten, hs, he]
      omega

-- For every capacity and all uses.
theorem after_recent (capacity : Int) (past : List (Use α)) :
    Recent (max 1 capacity).toNat past (after capacity past) ∧
      inserted capacity past = (after capacity past).size + (after capacity past).evictions +
        forgotten capacity past := by
  have h := Follows.after capacity past
  refine ⟨?_, after_inserted capacity past⟩
  exact {
    capacity := h.capacity
    distinct := h.lined.nodup
    bounded  := h.bounded
    answers key a := by rw [get_fst, h.find?_eq_some_iff]
    roomy key a hf := h.roomy key a (hf.imp_left mem_keys_iff_isSome.mpr)
    full key a hf hs := h.full key a (find?_eq_none_iff.mp hf) hs
    spared key := ⟨(h.size_get key).right, rfl⟩
    asked := after_asked capacity past
  }

-- Looking "a" up before "c" is put makes "b" the one that goes.
example : ((after 2 [.set "c" 3, .get "a", .set "b" 2, .set "a" 1] : Cache Nat).get "b").1 = none := by
  decide

end FlowGate.Cache
