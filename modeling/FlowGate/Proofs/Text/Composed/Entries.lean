import FlowGate.Text.Composed
import FlowGate.Proofs.Text.CodeSet
import Mathlib.Data.List.Basic

-- What characters stand for: a syllable for its letters, some characters for a pair and some for another one, and
-- all others for themselves. Three steps are enough to take any character apart.

namespace FlowGate.Text

variable {d n m a b c : Nat} {ms ns : List Nat} {e : Nat × List Nat} {p : Nat → Prop}

namespace Syllable

variable {l v t : Nat}

structure Within (l v t : Nat) : Prop where
  lead  : l < 19
  vowel : v < 21
  trail : t < 28

-- The syllable with the given letters. Without a trailing consonant there are two of them.
def code (l v t : Nat) : Nat := 0xAC00 + (l * 21 + v) * 28 + t

def letters (l v t : Nat) : List Nat := [0x1100 + l, 0x1161 + v] ++ if t = 0 then [] else [0x11A7 + t]

theorem isSyllable_iff : isSyllable n = true ↔ 0xAC00 ≤ n ∧ n < 0xD7A4 := by
  rw [isSyllable, Bool.and_eq_true, decide_eq_true_iff, decide_eq_true_iff]
  exact Iff.rfl

theorem isSyllable_code (h : Within l v t) : isSyllable (code l v t) = true := by
  obtain ⟨hl, hv, ht⟩ := h
  rw [isSyllable_iff, code]
  omega

theorem exists_code (h : isSyllable n = true) : ∃ l v t, Within l v t ∧ n = code l v t := by
  have hn := isSyllable_iff.mp h
  refine ⟨(n - 0xAC00) / 588, (n - 0xAC00) % 588 / 28, (n - 0xAC00) % 28, ⟨?_, ?_, ?_⟩, ?_⟩
  · omega
  · omega
  · omega
  · rw [code]
    omega

theorem decompose_code (h : Within l v t) : decompose (code l v t) = letters l v t := by
  have hd (n : Nat) : decompose n = if (n - 0xAC00) % 28 = 0 then
      [0x1100 + (n - 0xAC00) / 588, 0x1161 + (n - 0xAC00) % 588 / 28]
      else [0x1100 + (n - 0xAC00) / 588, 0x1161 + (n - 0xAC00) % 588 / 28] ++ [0x11A7 + (n - 0xAC00) % 28] := rfl
  obtain ⟨hl, hv, ht⟩ := h
  have hi : code l v t - 0xAC00 = (l * 21 + v) * 28 + t := by rw [code]; omega
  have hlead : ((l * 21 + v) * 28 + t) / 588 = l := by omega
  have hvowel : ((l * 21 + v) * 28 + t) % 588 / 28 = v := by omega
  have htrail : ((l * 21 + v) * 28 + t) % 28 = t := by omega
  rw [hd, hi, hlead, hvowel, htrail, letters]
  split <;> rfl

theorem letters_ne_nil (l v t : Nat) : letters l v t ≠ [] :=
  List.cons_ne_nil _ _

theorem mem_letters (h : Within l v t) (hm : m ∈ letters l v t) : 0x1100 ≤ m ∧ m < 0x1200 := by
  obtain ⟨hl, hv, ht⟩ := h
  have hcases : m = 0x1100 + l ∨ m = 0x1161 + v ∨ m = 0x11A7 + t := by
    rw [letters] at hm
    split at hm
    all_goals grind
  omega

end Syllable

-- The rows of all tables.
def entries : List (Nat × List Nat) :=
  (compositions ++ looseCompositions).map (fun row => (row.1, [row.2.1, row.2.2])) ++
    canonicalSingles.map fun row => (row.1, [row.2])

theorem entries_distinct : distinct (entries.map (·.1)) = true := by
  decide +kernel

theorem entries_apart : (entries.all fun e => Nat.ble 0xC0 e.1 && (Nat.blt e.1 0x1100 || Nat.ble 0x1200 e.1) &&
    (e.1 :: e.2).all fun m => Nat.blt m 0xAC00 || Nat.ble 0xD7A4 m) = true := by
  decide +kernel

-- A row is not about letters, and it is not about syllables either.
structure Apart (e : Nat × List Nat) : Prop where
  low      : 0xC0 ≤ e.1
  letter   : e.1 < 0x1100 ∨ 0x1200 ≤ e.1
  syllable : ∀ m ∈ e.1 :: e.2, m < 0xAC00 ∨ 0xD7A4 ≤ m

theorem apart_of_mem (h : e ∈ entries) : Apart e := by
  have hrow := List.all_eq_true.mp entries_apart e h
  simp only [Bool.and_eq_true, Bool.or_eq_true, List.all_eq_true, Nat.blt_eq, Nat.ble_eq] at hrow
  exact ⟨hrow.left.left, hrow.left.right, hrow.right⟩

theorem Apart.not_isSyllable (h : Apart e) (hm : m ∈ e.1 :: e.2) : Syllable.isSyllable m = false := by
  have hb := h.syllable m hm
  rw [← Bool.not_eq_true, Syllable.isSyllable_iff]
  omega

theorem ne_nil_of_mem (h : e ∈ entries) : e.2 ≠ [] := by
  rw [entries, List.mem_append, List.mem_map, List.mem_map] at h
  obtain ⟨_, -, rfl⟩ | ⟨_, -, rfl⟩ := h
  all_goals exact List.cons_ne_nil _ _

-- What a character stands for, if it does not stand for itself.
def parts? (n : Nat) : Option (List Nat) :=
  if n < 0xC0 then none
  else if Syllable.isSyllable n then some (Syllable.decompose n)
  else entries.lookup n

theorem lookup_of_mem {α : Type} {x : α} {rows : List (Nat × α)} (hd : (rows.map (·.1)).Nodup) (h : (n, x) ∈ rows) :
    rows.lookup n = some x := by
  induction rows
  case nil => cases h
  case cons row rest hi =>
    rw [List.map_cons, List.nodup_cons] at hd
    rw [List.lookup_cons]
    cases h
    case head => rw [beq_self_eq_true]
    case tail hm =>
      have hne : n ≠ row.1 := fun he => hd.left (he ▸ List.mem_map_of_mem (f := (·.1)) hm)
      rw [beq_eq_false_iff_ne.mpr hne]
      exact hi hd.right hm

theorem lookup_mapped {α β : Type} {f : α → β} {rows : List (Nat × α)} :
    (rows.map fun row => (row.1, f row.2)).lookup n = (rows.lookup n).map f := by
  induction rows
  case nil => rfl
  case cons row rest hi =>
    rw [List.map_cons, List.lookup_cons, List.lookup_cons, hi]
    cases n == row.1 <;> rfl

theorem lookup_entries : entries.lookup n =
    ((canonicalPair? n).map fun p => [p.1, p.2]).or ((canonicalSingles.lookup n).map fun m => [m]) := by
  rw [entries, List.lookup_append, lookup_mapped (f := fun p : Nat × Nat => [p.1, p.2]),
    lookup_mapped (f := fun m : Nat => [m]), List.lookup_append, canonicalPair?]

theorem parts?_of_mem (h : (n, ms) ∈ entries) : parts? n = some ms := by
  have hn := apart_of_mem h
  have hs := hn.not_isSyllable (.head _)
  rw [parts?, if_neg (Nat.not_lt.mpr hn.low), if_neg (by rw [hs]; exact Bool.false_ne_true)]
  exact lookup_of_mem (nodup_of_distinct entries_distinct) h

theorem parts?_code {l v t : Nat} (h : Syllable.Within l v t) :
    parts? (Syllable.code l v t) = some (Syllable.letters l v t) := by
  have hs := Syllable.isSyllable_code h
  have hb := Syllable.isSyllable_iff.mp hs
  rw [parts?, if_neg (by omega), if_pos hs, Syllable.decompose_code h]

-- What has parts has them from a row, or it is a syllable.
inductive HasParts : Nat → List Nat → Prop
  | row {n : Nat} {ms : List Nat} (h : (n, ms) ∈ entries) : HasParts n ms
  | syllable {l v t : Nat} (h : Syllable.Within l v t) : HasParts (Syllable.code l v t) (Syllable.letters l v t)

theorem hasParts_of_parts? (h : parts? n = some ms) : HasParts n ms := by
  unfold parts? at h
  split at h
  case isTrue => cases h
  case isFalse =>
    split at h
    case isFalse =>
      obtain ⟨front, back, hs, -⟩ := List.lookup_eq_some_iff.mp h
      exact .row (hs ▸ List.mem_append_right _ (.head _))
    case isTrue hs =>
      obtain ⟨l, v, t, hw, rfl⟩ := Syllable.exists_code hs
      rw [Syllable.decompose_code hw] at h
      exact Option.some.inj h ▸ .syllable hw

theorem parts?_ne_nil (h : parts? n = some ms) : ms ≠ [] := by
  cases hasParts_of_parts? h
  case row h      => exact ne_nil_of_mem h
  case syllable   => exact Syllable.letters_ne_nil _ _ _

theorem parts?_letter (hl : 0x1100 ≤ n) (hh : n < 0x1200) : parts? n = none := by
  by_contra h
  obtain ⟨ms, hms⟩ := Option.ne_none_iff_exists'.mp h
  cases hasParts_of_parts? hms
  case row h =>
    have := (apart_of_mem h).letter
    omega
  case syllable hw =>
    have := Syllable.isSyllable_iff.mp (Syllable.isSyllable_code hw)
    omega

theorem parts?_of_mem_letters {l v t : Nat} (h : Syllable.Within l v t) (hm : m ∈ Syllable.letters l v t) :
    parts? m = none :=
  have hb := Syllable.mem_letters h hm
  parts?_letter hb.left hb.right

theorem decomposeCode_of_none (h : parts? n = none) : decomposeCode d n = [n] := by
  cases d
  case zero => rfl
  case succ d =>
    rw [parts?, lookup_entries] at h
    rw [decomposeCode]
    split
    case isTrue => rfl
    case isFalse hn =>
      rw [if_neg hn] at h
      split
      case isTrue hs => rw [if_pos hs] at h; cases h
      case isFalse hs =>
        rw [if_neg hs, Option.or_eq_none_iff, Option.map_eq_none_iff, Option.map_eq_none_iff] at h
        rw [h.left, h.right]

theorem flatMap_letters {l v t : Nat} (h : Syllable.Within l v t) :
    (Syllable.letters l v t).flatMap (decomposeCode d) = Syllable.letters l v t := by
  rw [List.flatMap_congr fun m hm => decomposeCode_of_none (parts?_of_mem_letters h hm), List.flatMap_singleton']

theorem decomposeCode_of_some (h : parts? n = some ms) : decomposeCode (d + 1) n = ms.flatMap (decomposeCode d) := by
  rw [decomposeCode]
  rw [parts?, lookup_entries] at h
  split
  case isTrue hn => rw [if_pos hn] at h; cases h
  case isFalse hn =>
    rw [if_neg hn] at h
    split
    case isTrue hs =>
      obtain ⟨l, v, t, hw, rfl⟩ := Syllable.exists_code hs
      rw [if_pos hs, Syllable.decompose_code hw] at h
      rw [Syllable.decompose_code hw, ← Option.some.inj h, flatMap_letters hw]
    case isFalse hs =>
      rw [if_neg hs] at h
      cases hp : canonicalPair? n <;> rw [hp] at h
      case some p =>
        obtain rfl := Option.some.inj h
        simp
      case none =>
        cases hq : canonicalSingles.lookup n <;> rw [hq] at h
        case none => cases h
        case some m =>
          obtain rfl := Option.some.inj h
          simp

-- The characters that are not taken apart completely by so many steps.
def unsettled : Nat → List Nat
  | 0     => entries.map (·.1)
  | d + 1 => (entries.filter fun e => e.2.any (bits (unsettled d)).testBit).map (·.1)

theorem unsettled_three : unsettled 3 = [] := by
  decide +kernel

-- What is left of a character after as many steps as it needs stands for itself.
theorem settles (h : n ∉ unsettled d) (hs : Syllable.isSyllable n = false) :
    ∀ m ∈ decomposeCode d n, parts? m = none := by
  induction d generalizing n
  case zero =>
    refine List.forall_mem_singleton.mpr (by_contra fun hne => ?_)
    obtain ⟨ms, hms⟩ := Option.ne_none_iff_exists'.mp hne
    cases hasParts_of_parts? hms
    case row he      => exact h (List.mem_map_of_mem (f := (·.1)) he)
    case syllable hw => rw [Syllable.isSyllable_code hw] at hs; cases hs
  case succ d hi =>
    cases hp : parts? n
    case none =>
      rw [decomposeCode_of_none hp]
      exact List.forall_mem_singleton.mpr hp
    case some ms =>
      rw [decomposeCode_of_some hp, List.forall_mem_flatMap]
      cases hasParts_of_parts? hp
      case syllable hw => rw [Syllable.isSyllable_code hw] at hs; cases hs
      case row he =>
        refine fun m hm => hi (fun hu => h ?_) ((apart_of_mem he).not_isSyllable (.tail _ hm))
        refine List.mem_map.mpr ⟨_, List.mem_filter.mpr ⟨he, List.any_eq_true.mpr ⟨m, hm, ?_⟩⟩, rfl⟩
        exact testBit_of_mem hu

theorem settles_three (n : Nat) : ∀ m ∈ decomposeCode 3 n, parts? m = none := by
  cases hs : Syllable.isSyllable n
  case false => exact settles (unsettled_three ▸ List.not_mem_nil) hs
  case true =>
    obtain ⟨l, v, t, hw, rfl⟩ := Syllable.exists_code hs
    rw [decomposeCode_of_some (parts?_code hw), flatMap_letters hw]
    exact fun m hm => parts?_of_mem_letters hw hm

theorem decomposeCode_settled (h : ∀ m ∈ decomposeCode d n, parts? m = none) :
    decomposeCode (d + 1) n = decomposeCode d n := by
  induction d generalizing n
  case zero => exact decomposeCode_of_none (h n (List.mem_singleton_self n))
  case succ d hi =>
    cases hp : parts? n
    case none => rw [decomposeCode_of_none hp, decomposeCode_of_none hp]
    case some ms =>
      rw [decomposeCode_of_some hp] at h
      rw [decomposeCode_of_some hp, decomposeCode_of_some hp]
      exact List.flatMap_congr fun m hm => hi fun x hx => h x (List.mem_flatMap.mpr ⟨m, hm, hx⟩)

-- What a character stands for when it is taken apart completely.
def full (n : Nat) : List Nat := decomposeCode 4 n

theorem full_of_none (h : parts? n = none) : full n = [n] :=
  decomposeCode_of_none h

theorem full_of_some (h : parts? n = some ms) : full n = ms.flatMap full := by
  rw [full, decomposeCode_of_some h]
  exact List.flatMap_congr fun m _ => (decomposeCode_settled (settles_three m)).symm

theorem full_code {l v t : Nat} (h : Syllable.Within l v t) : full (Syllable.code l v t) = Syllable.letters l v t := by
  rw [full_of_some (parts?_code h)]
  exact flatMap_letters h

theorem parts?_of_mem_full (h : m ∈ full n) : parts? m = none := by
  rw [full, decomposeCode_settled (settles_three n)] at h
  exact settles_three n m h

theorem decompose_append {xs ys : List Nat} : decompose (xs ++ ys) = decompose xs ++ decompose ys :=
  List.flatMap_append

theorem decompose_cons : decompose (n :: ns) = full n ++ decompose ns :=
  List.flatMap_cons

theorem decompose_eq (h : ∀ n ∈ ns, parts? n = none) : decompose ns = ns := by
  rw [decompose, List.flatMap_congr fun n hn => decomposeCode_of_none (h n hn), List.flatMap_singleton']

theorem parts?_of_mem_decompose (h : n ∈ decompose ns) : parts? n = none := by
  obtain ⟨m, -, hn⟩ := List.mem_flatMap.mp h
  exact parts?_of_mem_full hn

-- What holds of a character if and only if it holds of its parts. It holds of all that the character stands for then.
def Hereditary (p : Nat → Prop) : Prop :=
  ∀ n ms, parts? n = some ms → ((∀ m ∈ ms, p m) ↔ p n)

theorem Hereditary.decomposeCode (h : Hereditary p) : (∀ m ∈ Text.decomposeCode d n, p m) ↔ p n := by
  induction d generalizing n
  case zero => exact List.forall_mem_singleton
  case succ d hi =>
    cases hp : parts? n
    case none =>
      rw [decomposeCode_of_none hp]
      exact List.forall_mem_singleton
    case some ms =>
      rw [decomposeCode_of_some hp, List.forall_mem_flatMap, ← h n ms hp]
      exact forall₂_congr fun m _ => hi

theorem Hereditary.full (h : Hereditary p) (n : Nat) : (∀ m ∈ full n, p m) ↔ p n :=
  h.decomposeCode

theorem Hereditary.decompose (h : Hereditary p) : (∀ m ∈ Text.decompose ns, p m) ↔ ∀ n ∈ ns, p n := by
  rw [Text.decompose, List.forall_mem_flatMap]
  exact forall₂_congr fun n _ => h.full n

-- For what holds of all syllables and their letters the tables decide.
theorem hereditary_of_entries (hs : ∀ n, 0xAC00 ≤ n → n < 0xD7A4 → p n) (hl : ∀ n, 0x1100 ≤ n → n < 0x1200 → p n)
    (he : ∀ e ∈ entries, (∀ m ∈ e.2, p m) ↔ p e.1) : Hereditary p := by
  intro n ms h
  cases hasParts_of_parts? h
  case row h => exact he _ h
  case syllable hw =>
    have hb := Syllable.isSyllable_iff.mp (Syllable.isSyllable_code hw)
    refine iff_of_true (fun m hm => ?_) (hs _ hb.left hb.right)
    have hb := Syllable.mem_letters hw hm
    exact hl m hb.left hb.right

theorem decomposeCode_ne_nil (d n : Nat) : decomposeCode d n ≠ [] := by
  intro h
  have hf : Hereditary fun _ => False := fun n ms hp => by
    simpa [List.eq_nil_iff_forall_not_mem] using parts?_ne_nil hp
  exact hf.decomposeCode.mp (fun m hm => List.not_mem_nil (h ▸ hm))

theorem full_ne_nil (n : Nat) : full n ≠ [] :=
  decomposeCode_ne_nil 4 n

-- What a pair is composed to.
inductive Composes : Nat → Nat → Nat → Prop
  | row {a b c : Nat} (h : (c, a, b) ∈ compositions) : Composes a b c
  | open {l v : Nat} (h : Syllable.Within l v 0) : Composes (0x1100 + l) (0x1161 + v) (Syllable.code l v 0)
  | closed {l v t : Nat} (h : Syllable.Within l v t) (ht : t ≠ 0) :
      Composes (Syllable.code l v 0) (0x11A7 + t) (Syllable.code l v t)

theorem composes_of_compose? (h : Syllable.compose? a b = some c) : Composes a b c := by
  have hc : Syllable.compose? a b =
      if 0x1100 ≤ a && a < 0x1113 && 0x1161 ≤ b && b < 0x1176 then
        some (0xAC00 + ((a - 0x1100) * 21 + (b - 0x1161)) * 28)
      else if Syllable.isSyllable a && (a - 0xAC00) % 28 == 0 && 0x11A7 < b && b < 0x11C3 then
        some (a + (b - 0x11A7))
      else none := rfl
  rw [hc] at h
  split at h
  case isTrue hl =>
    simp only [Bool.and_eq_true, decide_eq_true_eq] at hl
    obtain ⟨⟨⟨hl, hl'⟩, hv⟩, hv'⟩ := hl
    obtain ⟨l, rfl⟩ := Nat.exists_eq_add_of_le hl
    obtain ⟨v, rfl⟩ := Nat.exists_eq_add_of_le hv
    rw [Nat.add_sub_cancel_left, Nat.add_sub_cancel_left] at h
    exact Option.some.inj h ▸ .open ⟨by omega, by omega, by omega⟩
  case isFalse =>
    split at h
    case isFalse => cases h
    case isTrue ht =>
      simp only [Bool.and_eq_true, decide_eq_true_eq, beq_iff_eq] at ht
      obtain ⟨⟨⟨hs, hz⟩, ht⟩, ht'⟩ := ht
      obtain ⟨l, v, z, ⟨hl, hv, hz'⟩, rfl⟩ := Syllable.exists_code hs
      obtain ⟨t, rfl⟩ := Nat.exists_eq_add_of_lt ht
      rw [Syllable.code] at hz
      obtain rfl : z = 0 := by omega
      have he : Syllable.code l v 0 + (0x11A7 + t + 1 - 0x11A7) = Syllable.code l v (t + 1) := by
        rw [Syllable.code, Syllable.code]
        omega
      have ht'' : t + 1 < 28 := by omega
      rw [he] at h
      exact Option.some.inj h ▸ .closed ⟨hl, hv, ht''⟩ (Nat.succ_ne_zero t)

theorem composes_of_composePair? (h : composePair? a b = some c) : Composes a b c := by
  unfold composePair? at h
  cases hs : Syllable.compose? a b
  case none =>
    rw [hs, Option.none_or, Option.map_eq_some_iff] at h
    obtain ⟨⟨_, _, _⟩, hf, rfl⟩ := h
    have hp := List.find?_some hf
    simp only [Bool.and_eq_true, beq_iff_eq] at hp
    obtain ⟨rfl, rfl⟩ := hp
    exact .row (List.mem_of_find?_eq_some hf)
  case some x =>
    rw [hs, Option.some_or, Option.some_inj] at h
    exact composes_of_compose? (h ▸ hs)

theorem mem_entries_of_composition (h : (c, a, b) ∈ compositions) : (c, [a, b]) ∈ entries :=
  List.mem_append_left _ (List.mem_map_of_mem (List.mem_append_left _ h))

-- What a pair is composed to stands for the pair.
theorem full_composes (h : Composes a b c) (hb : parts? b = none) : full c = full a ++ [b] := by
  cases h
  case row h =>
    rw [full_of_some (parts?_of_mem (mem_entries_of_composition h)), List.flatMap_cons, List.flatMap_singleton,
      full_of_none hb]
  case «open» l v h =>
    have hl : parts? (0x1100 + l) = none := parts?_letter (by omega) (by have := h.lead; omega)
    rw [full_code h, full_of_none hl, Syllable.letters, if_pos rfl]
    rfl
  case closed l v t h ht =>
    rw [full_code h, full_code ⟨h.lead, h.vowel, by omega⟩, Syllable.letters, Syllable.letters, if_pos rfl, if_neg ht,
      List.append_nil]

theorem compositions_marks : (compositions.all fun row => Nat.ble 0x300 row.2.2) = true := by
  decide +kernel

-- Nothing below the marks is the second part of a pair.
theorem le_of_composes (h : Composes a b c) : 0x300 ≤ b := by
  cases h
  case row h    => exact Nat.le_of_ble_eq_true (List.all_eq_true.mp compositions_marks _ h)
  case «open»   => omega
  case closed   => omega

end FlowGate.Text
