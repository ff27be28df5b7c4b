import FlowGate.Builtin.Validator
import FlowGate.Filter.Transformation
import FlowGate.Operator.Comparison
import FlowGate.Proofs.Engine
import FlowGate.Proofs.Text.Composed.Lowered

-- Transforming a value twice. Case and trimming are the same the second time. Normalizing composes a text before it
-- lowers it, so a small letter may be left beside a mark that it is composed with, and then the second time composes
-- the two. The third time changes nothing any more.

namespace FlowGate

open Value Text

variable {registry : Registry} {t : Transformation} {v : Value} {s u : String} {change : String → String}

namespace Text

def normal (s : String) : String := lower (strip (composed s))

theorem normal_of_small (hs : strip s = s) (hl : lower s = s) : normal s = composed s := by
  rw [normal, strip_composed hs, lower_composed hl]

theorem strip_normal (s : String) : strip (normal s) = normal s :=
  strip_lower (strip_idem _)

theorem lower_normal (s : String) : lower (normal s) = normal s :=
  lower_idem _

theorem normal_normal (s : String) : normal (normal s) = composed (normal s) :=
  normal_of_small (strip_normal s) (lower_normal s)

theorem normal_composed (s : String) : normal (composed (normal s)) = composed (normal s) := by
  rw [normal_of_small (strip_composed (strip_normal s)) (lower_composed (lower_normal s)), composed_idem]

theorem composed_normal (h : Unjoined (codes (composed s))) : composed (normal s) = normal s := by
  obtain ⟨front, back, hs, -, -⟩ := codes_strip (composed s)
  rw [hs] at h
  exact composed_lower h.left_of_append.right_of_append (composed_strip (composed_idem s))

end Text

namespace Transformation

theorem apply_change (h : v.isNothing = false) (hc : ofText? t.kind = some change) :
    (t.apply registry v).value = v.display.map fun s => text (change s) := by
  rw [apply, if_neg (by rw [h]; exact Bool.false_ne_true), hc]
  rfl

theorem apply_text (hc : ofText? t.kind = some change) : (t.apply registry (text s)).value = .ok (text (change s)) :=
  apply_change rfl hc

theorem exists_change (h : t.kind ≠ .custom) : ∃ change, ofText? t.kind = some change := by
  cases hk : t.kind
  case custom => exact absurd hk h
  all_goals exact ⟨_, rfl⟩

theorem change_idem (hn : t.kind ≠ .normalize) (hc : ofText? t.kind = some change) (s : String) :
    change (change s) = change s := by
  cases hk : t.kind <;> rw [hk] at hc
  case lowercase => exact Option.some.inj hc ▸ lower_idem s
  case uppercase => exact Option.some.inj hc ▸ upper_idem s
  case trim      => exact Option.some.inj hc ▸ strip_idem s
  case normalize => exact absurd hk hn
  case custom    => cases hc

-- What normalizing a value that displays as a text gives, and what it gives when it is repeated.
structure Normal (registry : Registry) (t : Transformation) (v : Value) (s u : String) : Prop where
  value    : (t.apply registry v).value = .ok (text u)
  stripped : strip u = u
  small    : lower u = u
  again    : (t.apply registry (text u)).value = .ok (text (composed u))
  settled  : (t.apply registry (text (composed u))).value = .ok (text (composed u))
  equal    : ∀ comparer : Comparer, comparer.applyFilter (.known .equals) (text (composed u)) (text u) =
    .ok (composed u == u)
  composed : Unjoined (codes (Text.composed s)) → Text.composed u = u

structure Repeats (registry : Registry) (t : Transformation) (v : Value) : Prop where
  absent : v.isNothing = true → (t.apply registry v).value = .ok v
  fault  : ∀ f, (t.apply registry v).value = .error f ↔ v.isNothing = false ∧ v.display = .error f
  same   : t.kind ≠ .normalize → ∀ w, (t.apply registry v).value = .ok w → (t.apply registry w).value = .ok w
  normal : t.kind = .normalize → v.isNothing = false → ∀ s, v.display = .ok s → ∃ u, Normal registry t v s u

theorem normal_of_display (hk : t.kind = .normalize) (hv : v.isNothing = false) (hd : v.display = .ok s) :
    Normal registry t v s (Text.normal s) := by
  have hc : ofText? t.kind = some Text.normal := by rw [hk]; rfl
  refine ⟨?_, strip_normal s, lower_normal s, ?_, ?_, fun _ => rfl, composed_normal⟩
  · rw [apply_change hv hc, hd]
    rfl
  · rw [apply_text hc, normal_normal]
  · rw [apply_text hc, normal_composed]

theorem builtin_repeats (registry : Registry) (v : Value) (h : t.kind ≠ .custom) : Repeats registry t v := by
  have habsent (hv : v.isNothing = true) : (t.apply registry v).value = .ok v := by
    rw [apply, if_pos hv]
    rfl
  obtain ⟨change, hc⟩ := exists_change h
  refine ⟨habsent, fun f => ?_, fun hn w hw => ?_, fun hk hv s hd => ⟨_, normal_of_display hk hv hd⟩⟩
  all_goals cases hv : v.isNothing
  case refine_1.true => simp [habsent hv]
  case refine_1.false =>
    rw [apply_change hv hc]
    cases v.display <;> simp [Except.map]
  case refine_2.true =>
    rw [habsent hv] at hw
    cases hw
    exact habsent hv
  case refine_2.false =>
    rw [apply_change hv hc] at hw
    obtain ⟨s, -, rfl⟩ := ok_of_map hw
    rw [apply_text hc, change_idem hn hc]

def normalizing : Transformation := { kind := .normalize }

theorem unjoined_of_lt (h : ∀ n ∈ codes s, n < 0xC0) : Unjoined (codes s) := by
  have hp : (codes s).Pairwise fun _ m => ¬Joins m :=
    List.pairwise_of_forall_mem_list fun _ _ m hm => not_joins_of_lt (h m hm)
  exact hp.isChain.imp fun _ _ hm _ => hm

-- A macron goes below the small letter h, but not below the capital letter.
theorem macron_repeats : normalizing.kind ≠ .custom ∧
    (normalizing.apply Builtin.registry (text " Ada")).value = .ok (text "ada") ∧
    (normalizing.apply Builtin.registry (text "ada")).value = .ok (text "ada") ∧
    (normalizing.apply Builtin.registry (text "H\u0331")).value = .ok (text "h\u0331") ∧
    (normalizing.apply Builtin.registry (text "h\u0331")).value = .ok (text "\u1E96") := by
  have hk : normalizing.kind ≠ .custom := by decide
  have repeats (s : String) : ∃ u, Normal Builtin.registry normalizing (text s) s u :=
    (builtin_repeats Builtin.registry (text s) hk).normal rfl rfl s rfl
  have value {s u : String} (h : Normal Builtin.registry normalizing (text s) s u) : Text.normal s = u := by
    have hc : ofText? normalizing.kind = some Text.normal := rfl
    exact Scalar.text.inj (scalar.inj (Except.ok.inj ((apply_text hc).symm.trans h.value)))
  have hlow : ∀ n ∈ codes " Ada", n < 0xC0 := by decide +kernel
  have hplain : composed "H\u0331" = "H\u0331" :=
    composed_eq_self_iff.mpr (composeCodes_beside rfl (by decide +kernel) rfl (by decide +kernel) (by decide +kernel))
  have hrow : (0x1E96, 0x68, 0x331) ∈ compositions := by decide +kernel
  have hpair : composed "h\u0331" = "\u1E96" :=
    codes_inj.mp ((codes_composed _).trans (composeCodes_pair hrow))
  obtain ⟨u, hu⟩ := repeats " Ada"
  obtain ⟨w, hw⟩ := repeats "H\u0331"
  obtain rfl : u = "ada" := by
    rw [← value hu, Text.normal, composed_of_lt hlow]
    decide +kernel
  obtain rfl : w = "h\u0331" := by
    rw [← value hw, Text.normal, hplain]
    decide +kernel
  have hada : composed "ada" = "ada" := hu.composed (by rw [composed_of_lt hlow]; exact unjoined_of_lt hlow)
  refine ⟨hk, hu.value, hu.again.trans (by rw [hada]), hw.value, hw.again.trans (by rw [hpair])⟩

end Transformation

end FlowGate
