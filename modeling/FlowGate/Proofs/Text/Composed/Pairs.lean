import FlowGate.Proofs.Text.Composed.Texts

-- Characters that are composed from a pair: they are composed from no other pair, and taking them apart and joining
-- their parts again gives them back.

namespace FlowGate.Text

variable {a a' b b' c k n x : Nat}

-- No two pairs have the same number here.
theorem pairs_distinct : distinct (compositions.map fun row => (row.2.1 * 521 + row.2.2) % 20066) = true := by
  decide +kernel

theorem row_unique (h : (c, a, b) ∈ compositions) (h' : (x, a, b) ∈ compositions) : x = c := by
  have hinj := List.inj_on_of_nodup_map (nodup_of_distinct pairs_distinct)
  exact congrArg Prod.fst (hinj h' h rfl)

-- The characters that are not composed although they have parts.
def uncomposed : List Nat := looseCompositions.map (·.1) ++ canonicalSingles.map (·.1)

-- The first part of a pair starts anew and may be composed itself, and the second part stands for itself.
theorem firsts_start : Nat.land (Ranges.bits ((0x1100, 0x1112) :: classRanges fun _ => true))
    (bits (compositions.map (·.2.1))) = 0 := by
  decide +kernel

theorem firsts_composed : Nat.land (bits uncomposed) (bits (compositions.map (·.2.1))) = 0 := by
  decide +kernel

theorem seconds_whole : Nat.land (bits (entries.map (·.1))) (bits (compositions.map (·.2.2))) = 0 := by
  decide +kernel

theorem testBit_firsts (h : (c, a, b) ∈ compositions) : (bits (compositions.map (·.2.1))).testBit a = true :=
  testBit_of_mem (List.mem_map_of_mem (f := fun row => row.2.1) h)

theorem testBit_seconds (h : (c, a, b) ∈ compositions) : (bits (compositions.map (·.2.2))).testBit b = true :=
  testBit_of_mem (List.mem_map_of_mem (f := fun row => row.2.2) h)

theorem not_isSyllable_of_composition (h : (c, a, b) ∈ compositions) :
    Syllable.isSyllable a = false ∧ Syllable.isSyllable b = false :=
  have hc := apart_of_mem (mem_entries_of_composition h)
  ⟨hc.not_isSyllable (by simp), hc.not_isSyllable (by simp)⟩

theorem class_first (h : (c, a, b) ∈ compositions) : combiningClass a = 0 := by
  by_contra hk
  have hbit := not_testBit_of_land firsts_start (testBit_firsts h)
  obtain ⟨r, hr, hb⟩ := has_classRanges (p := fun _ => true) hk rfl
  rw [Ranges.testBit_bits.mpr ⟨r, .tail _ hr, hb⟩] at hbit
  cases hbit

theorem parts?_second (h : (c, a, b) ∈ compositions) : parts? b = none := by
  by_contra hne
  obtain ⟨ms, hms⟩ := Option.ne_none_iff_exists'.mp hne
  have hs := (not_isSyllable_of_composition h).right
  have hbit := not_testBit_of_land seconds_whole (testBit_seconds h)
  cases hasParts_of_parts? hms
  case row hm      => exact testBit_bits_eq_false.mp hbit (List.mem_map_of_mem (f := (·.1)) hm)
  case syllable hw => rw [Syllable.isSyllable_code hw] at hs; cases hs

theorem parts?_of_not_uncomposed (h : n ∉ uncomposed) (hs : Syllable.isSyllable n = false) :
    parts? n = none ∨ ∃ a b, (n, a, b) ∈ compositions := by
  cases hp : parts? n
  case none => exact .inl rfl
  case some ms =>
    right
    rw [uncomposed, List.mem_append, not_or] at h
    cases hasParts_of_parts? hp
    case syllable hw => rw [Syllable.isSyllable_code hw] at hs; cases hs
    case row hm =>
      rw [entries, List.mem_append, List.mem_map, List.mem_map] at hm
      obtain ⟨⟨_, a, b⟩, hrow, he⟩ | ⟨_, hrow, he⟩ := hm
      · cases he
        obtain hrow | hrow := List.mem_append.mp hrow
        · exact ⟨a, b, hrow⟩
        · exact absurd (List.mem_map_of_mem (f := (·.1)) hrow) h.left
      · cases he
        exact absurd (List.mem_map_of_mem (f := (·.1)) hrow) h.right

theorem full_composition (h : (c, a, b) ∈ compositions) : full c = full a ++ [b] :=
  full_composes (.row h) (parts?_second h)

theorem composePair?_composition (h : (c, a, b) ∈ compositions) : composePair? a b = some c := by
  cases hc : composePair? a b
  case none =>
    rw [composePair?, Option.or_eq_none_iff, Option.map_eq_none_iff, List.find?_eq_none] at hc
    exact absurd (by simp) (hc.right _ h)
  case some x =>
    cases composes_of_composePair? hc
    case row hx => exact congrArg some (row_unique h hx)
    case «open» l v hw =>
      have hbit := not_testBit_of_land firsts_start (testBit_firsts h)
      rw [Ranges.testBit_bits.mpr ⟨_, .head _, by omega, by have := hw.lead; omega⟩] at hbit
      cases hbit
    case closed l v t hw ht =>
      have hs := (not_isSyllable_of_composition h).left
      rw [Syllable.isSyllable_code ⟨hw.lead, hw.vowel, by omega⟩] at hs
      cases hs

-- What is composed step by step from characters that stand for themselves.
inductive Built : Nat → Prop
  | whole {a : Nat} (h : parts? a = none) (hz : combiningClass a = 0) : Built a
  | pair {a b c : Nat} (h : (c, a, b) ∈ compositions) (ha : Built a) : Built c

theorem built (h : (c, a, b) ∈ compositions) : Built c := by
  have hl (k : Nat) : ∀ c a b, (c, a, b) ∈ compositions → (full c).length = k → Built c := by
    induction k using Nat.strong_induction_on
    case h k hi =>
      intro c a b h hk
      refine .pair h ?_
      have hfirst := testBit_bits_eq_false.mp (not_testBit_of_land firsts_composed (testBit_firsts h))
      obtain ha | ⟨a', b', ha⟩ := parts?_of_not_uncomposed hfirst (not_isSyllable_of_composition h).left
      · exact .whole ha (class_first h)
      · refine hi _ ?_ a a' b' ha rfl
        rw [← hk, full_composition h, List.length_append]
        exact Nat.lt_succ_self _
  exact hl _ c a b h rfl

theorem joinMarks_built (h : Built c) (ns : List Nat) :
    joinMarks none (full c ++ ns) = joinMarks (some (.start c)) ns := by
  induction h generalizing ns
  case whole ha hz => rw [full_of_none ha, List.singleton_append, joinMarks_none_cons hz]
  case pair a b c h ha hi =>
    have hj : joinMarks (some (.start a)) (b :: ns) = joinMarks (some (.start c)) ns := by
      rw [joinMarks]
      simp [OpenBase.start, composePair?_composition h]
    rw [full_composition h, List.append_assoc, hi, List.singleton_append, hj]

-- The rows whose first part is composed itself, and the rows of such first parts.
def upperRows : List (Nat × Nat × Nat) :=
  compositions.filter fun row => (bits (compositions.map (·.1))).testBit row.2.1

def lowerRows : List (Nat × Nat × Nat) :=
  compositions.filter fun row => (bits (compositions.map (·.2.1))).testBit row.1

def upperClasses : List Nat := [9, 220, 230, 240]

theorem upperRows_classes : (upperRows.all fun row =>
    !(Ranges.bits (classRanges fun k => !upperClasses.contains k)).testBit row.2.2) = true := by
  decide +kernel

theorem upperRows_ordered : (upperClasses.all fun k => Nat.beq (Nat.land
    (bits ((upperRows.filter fun row => (Ranges.bits (classRanges (Nat.beq k))).testBit row.2.2).map (·.2.1)))
    (bits ((lowerRows.filter fun row => (Ranges.bits (classRanges (Nat.blt k))).testBit row.2.2).map (·.1)))) 0)
    = true := by
  decide +kernel

-- The marks that a character is composed with one after the other come in the order of their classes.
theorem class_le_of_compositions (h : (c, a, b) ∈ compositions) (h' : (a, a', b') ∈ compositions) :
    combiningClass b = 0 ∨ combiningClass b' ≤ combiningClass b := by
  by_contra hn
  rw [not_or, Nat.not_le] at hn
  obtain ⟨hb, hlt⟩ := hn
  have hupper : (c, a, b) ∈ upperRows :=
    List.mem_filter.mpr ⟨h, testBit_of_mem (List.mem_map_of_mem (f := (·.1)) h')⟩
  have hlower : (a, a', b') ∈ lowerRows := List.mem_filter.mpr ⟨h', testBit_firsts h⟩
  have hk : upperClasses.contains (combiningClass b) = true := by
    by_contra hk
    have hrow := List.all_eq_true.mp upperRows_classes _ hupper
    rw [Ranges.testBit_bits.mpr (has_classRanges hb (by simpa using hk))] at hrow
    cases hrow
  have hand := List.all_eq_true.mp upperRows_ordered _ (List.contains_iff_mem.mp hk)
  have hbit := not_testBit_of_land (n := a) (Nat.eq_of_beq_eq_true hand) (testBit_of_mem ?_)
  · rw [testBit_bits_eq_false] at hbit
    refine hbit (List.mem_map.mpr ⟨_, List.mem_filter.mpr ⟨hupper, ?_⟩, rfl⟩)
    exact Ranges.testBit_bits.mpr (has_classRanges hb (Nat.beq_refl _))
  · refine List.mem_map.mpr ⟨_, List.mem_filter.mpr ⟨hlower, ?_⟩, rfl⟩
    exact Ranges.testBit_bits.mpr (has_classRanges (Nat.ne_zero_of_lt hlt) (Nat.blt_eq.mpr hlt))

theorem ordered_built (h : Built c) : Ordered (full c) := by
  induction h
  case whole ha hz =>
    rw [full_of_none ha]
    exact .singleton _
  case pair a b c h ha hi =>
    rw [full_composition h]
    refine List.isChain_append.mpr ⟨hi, .singleton _, fun x hx y hy => ?_⟩
    cases hy
    cases ha
    case whole hp hz =>
      rw [full_of_none hp, List.getLast?_singleton] at hx
      cases hx
      rw [hz]
      exact .inr (Nat.zero_le _)
    case pair a' b' ha' h' =>
      rw [full_composition h', List.getLast?_concat] at hx
      cases hx
      exact class_le_of_compositions h h'

-- What is composed is in composed form.
theorem composeCodes_built (h : Built c) : composeCodes [c] = [c] := by
  have hf : decompose [c] = full c := List.flatMap_singleton ..
  have ho : inOrder [c] = full c :=
    (ordered_inOrder [c]).eq_of_rearranged (ordered_built h) (hf ▸ rearranged_inOrder [c])
  have hj := joinMarks_built h []
  rw [List.append_nil] at hj
  rw [composeCodes_eq, ho, hj]
  rfl

theorem composeCodes_pair (h : (c, a, b) ∈ compositions) : composeCodes [a, b] = [c] := by
  have hf : decompose [a, b] = decompose [c] := by
    rw [decompose_cons, decompose_cons, decompose_cons, full_composition h, full_of_none (parts?_second h),
      List.append_assoc]
  have hr : Rearranged (decompose [a, b]) (decompose [c]) := by
    rw [hf]
    exact .refl _
  exact (composeCodes_congr hr).trans (composeCodes_built (built h))

theorem keys_eq : entries.map (·.1) = compositions.map (·.1) ++ uncomposed := by
  simp [entries, uncomposed, Function.comp_def]

-- What comes from a pair or stands for itself is left as it is, and nothing else that is no syllable.
theorem composeCodes_of_not_uncomposed (h : n ∉ uncomposed) (hs : Syllable.isSyllable n = false) :
    composeCodes [n] = [n] := by
  obtain hp | ⟨a, b, hrow⟩ := parts?_of_not_uncomposed h hs
  · exact composeCodes_singleton hp
  · exact composeCodes_built (built hrow)

theorem not_uncomposed_of_formed (h : Formed n) : n ∉ uncomposed := by
  intro hn
  have hkey : n ∈ entries.map (·.1) := keys_eq ▸ List.mem_append_right _ hn
  obtain ⟨⟨_, ms⟩, he, rfl⟩ := List.mem_map.mp hkey
  obtain hp | ⟨a, b, hc⟩ := h
  · rw [parts?_of_mem he] at hp
    cases hp
  · have hs := (apart_of_mem he).not_isSyllable (.head _)
    cases hc
    case row hrow =>
      have hd := nodup_of_distinct entries_distinct
      rw [keys_eq] at hd
      exact List.disjoint_of_nodup_append hd (List.mem_map_of_mem (f := (·.1)) hrow) hn
    case «open» hw   => cases (Syllable.isSyllable_code hw).symm.trans hs
    case closed hw _ => cases (Syllable.isSyllable_code hw).symm.trans hs

end FlowGate.Text
