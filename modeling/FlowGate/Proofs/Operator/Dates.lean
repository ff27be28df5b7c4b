import FlowGate.Proofs.Operator.Coercion
import FlowGate.Proofs.Value.Moment

-- Which operands the operators on dates and times fault on, and what comes of operands that denote no date or time.
-- The bounds of a pair are only read when the value before them denotes something, and then both are.

namespace FlowGate

open Value

namespace ClockTime

variable {a b : ClockTime}

-- Times of day have an order if both or neither of the clocks tell their offset.
theorem order?_eq_none_iff : a.order? b = none ↔ a.offset.isSome ≠ b.offset.isSome := by
  unfold order?
  split
  case h_1 ha hb => simp [ha, hb]
  case h_2 ha hb => simp only [ha, hb]; split <;> simp
  case h_3 hnone hsome =>
    refine iff_of_true rfl ?_
    cases ha : a.offset <;> cases hb : b.offset
    case none.none => exact absurd hb (hnone ha)
    case some.some => exact absurd hb (hsome _ _ ha)
    all_goals simp

end ClockTime

namespace Comparison

-- The clocks of a window, all with or all without an offset.
def SameClocks (first last t : ClockTime) : Prop :=
  first.offset.isSome = t.offset.isSome ∧ last.offset.isSome = t.offset.isSome

variable {first last t t' : ClockTime}

theorem noLater_ok (h : t.offset.isSome = t'.offset.isSome) : ∃ answer, noLater t t' = .ok answer := by
  unfold noLater
  split
  case h_1 o ho => exact ⟨_, rfl⟩
  case h_2 hn   => exact absurd h (ClockTime.order?_eq_none_iff.mp hn)

theorem noLater_mixed (h : t.offset.isSome ≠ t'.offset.isSome) : noLater t t' = .error .mixedClocks := by
  rw [noLater, ClockTime.order?_eq_none_iff.mpr h]

theorem inWindow_ok (h : SameClocks first last t) : ∃ answer, inWindow first last t = .ok answer := by
  obtain ⟨ordered, ho⟩ := noLater_ok (h.left.trans h.right.symm)
  obtain ⟨started, hs⟩ := noLater_ok h.left
  obtain ⟨ended, he⟩ := noLater_ok h.right.symm
  rw [inWindow, ho, hs, he]
  cases ordered <;> cases started <;> exact ⟨_, rfl⟩

theorem inWindow_mixed (h : ¬SameClocks first last t) : inWindow first last t = .error .mixedClocks := by
  by_cases ho : first.offset.isSome = last.offset.isSome
  case neg => rw [inWindow, noLater_mixed ho]; rfl
  case pos =>
    obtain ⟨ordered, ho'⟩ := noLater_ok ho
    have hs : first.offset.isSome ≠ t.offset.isSome := fun hs => h ⟨hs, ho ▸ hs⟩
    rw [inWindow, ho', noLater_mixed hs]
    cases ordered <;> rfl

variable {α : Type} {read : Value → Except Fault (Option α)} {faulty : Value → Fault → Prop}
  {tells : Value → α → Prop} {holds : α → α → α → Except Fault Bool} {shared : α → α → α → Prop}
  {vs : List Value} {v a b actual expected low high : Value} {x y l h : α} {r : Except Fault Bool} {f : Fault}

-- Reads two values, the first one first, and tries what they tell.
def onBoth (read : Value → Except Fault (Option α)) (holds : α → α → Except Fault Bool) (a b : Value) :
    Except Fault Bool := do
  let x ← read a
  let y ← read b
  match x, y with
  | some x, some y => holds x y
  | _, _ => return false

-- Reads a value, and the two bounds if it tells something.
def within (read : Value → Except Fault (Option α)) (holds : α → α → α → Except Fault Bool)
    (actual expected : Value) : Except Fault Bool := do
  match ← read actual, expected.pair? with
  | some x, some (low, high) => onBoth read (fun l h => holds l h x) low high
  | _, _ => return false

theorem dates_eq {holds : Int → Int → Bool} : dates holds actual expected =
    onBoth toMoment (fun a e => .ok (holds a.localMicros e.localMicros)) actual expected := by
  unfold dates onBoth
  congr 1; funext a
  congr 1; funext e
  cases a <;> cases e <;> rfl

theorem dateBetween_eq : dateBetween actual expected =
    within toMoment (fun s e m => .ok (s.localMicros ≤ m.localMicros && m.localMicros ≤ e.localMicros))
      actual expected := by
  unfold dateBetween within onBoth
  congr 1; funext m
  cases m <;> cases expected.pair?
  case some.some m pair =>
    dsimp only
    congr 1; funext s
    congr 1; funext e
    cases s <;> cases e <;> rfl
  all_goals rfl

theorem timeBetween_eq : timeBetween actual expected = within toTimeOfDay inWindow actual expected := by
  unfold timeBetween within onBoth
  congr 1; funext t
  cases t <;> cases expected.pair?
  case some.some t pair =>
    dsimp only
    congr 1; funext s
    congr 1; funext e
    cases s <;> cases e <;> rfl
  all_goals rfl

theorem onBoth_of_reads {holds : α → α → Except Fault Bool} (hx : read a = .ok (some x)) (hy : read b = .ok (some y)) :
    onBoth read holds a b = holds x y := by
  rw [onBoth, hx, hy]
  rfl

theorem within_of_reads (hx : read actual = .ok (some x)) (hl : read low = .ok (some l))
    (hh : read high = .ok (some h)) : within read holds actual (.list [low, high]) = holds l h x := by
  rw [within, hx]
  exact onBoth_of_reads hl hh

-- How values are read: which of them fault, and what others tell.
structure Reader (read : Value → Except Fault (Option α)) (faulty : Value → Fault → Prop)
    (tells : Value → α → Prop) : Prop where
  error_iff : ∀ v f, read v = .error f ↔ faulty v f
  some_iff  : ∀ v x, read v = .ok (some x) ↔ tells v x

theorem moments_reader : Reader toMoment Untimely Marks :=
  ⟨fun _ _ => toMoment_eq_error_iff, fun _ _ => toMoment_eq_some_iff⟩

theorem clocks_reader : Reader toTimeOfDay Unclocked Tells :=
  ⟨fun _ _ => toTimeOfDay_eq_error_iff, fun _ _ => toTimeOfDay_eq_some_iff⟩

-- There is an answer exactly if none of these values faults, and it is no if one of them tells nothing.
structure Rests (faulty : Value → Fault → Prop) (tells : Value → α → Prop) (vs : List Value)
    (r : Except Fault Bool) : Prop where
  answers : (∃ b, r = .ok b) ↔ ∀ v ∈ vs, ∀ f, ¬faulty v f
  faults  : ∀ f, r = .error f → ∃ v ∈ vs, faulty v f
  denies  : ∀ v ∈ vs, (∀ x, ¬tells v x) → r ≠ .ok true

namespace Rests

theorem of_answer {b : Bool} (hr : r = .ok b) (h : ∀ v ∈ vs, ∀ f, ¬faulty v f)
    (hb : b = true → ∀ v ∈ vs, ∃ x, tells v x) : Rests faulty tells vs r where
  answers          := iff_of_true ⟨b, hr⟩ h
  faults f h       := by cases hr.symm.trans h
  denies v hv hn h := by
    obtain ⟨x, hx⟩ := hb (Except.ok.inj (hr.symm.trans h)) v hv
    exact hn x hx

theorem of_fault (hv : v ∈ vs) (hf : faulty v f) (hr : r = .error f) : Rests faulty tells vs r where
  answers        := iff_of_false (fun ⟨b, h⟩ => by cases hr.symm.trans h) fun h => h v hv f hf
  faults f' h    := ⟨v, hv, Except.error.inj (hr.symm.trans h) ▸ hf⟩
  denies _ _ _ h := by cases hr.symm.trans h

end Rests

namespace Reader

variable (hr : Reader read faulty tells)

include hr

theorem not_faulty {y : Option α} (h : read v = .ok y) : ∀ f, ¬faulty v f := by
  intro f hf
  cases h.symm.trans ((hr.error_iff v f).mpr hf)

theorem onBoth_rests {holds : α → α → Except Fault Bool}
    (hb : ∀ x y, tells a x → tells b y → ∃ answer, holds x y = .ok answer) :
    Rests faulty tells [a, b] (onBoth read holds a b) := by
  unfold onBoth
  cases hx : read a
  case error f => exact .of_fault (.head _) ((hr.error_iff a f).mp hx) rfl
  case ok x =>
    cases hy : read b
    case error f => exact .of_fault (.tail _ (.head _)) ((hr.error_iff b f).mp hy) rfl
    case ok y =>
      have hclean : ∀ v ∈ [a, b], ∀ f, ¬faulty v f :=
        List.forall_mem_cons.mpr ⟨hr.not_faulty hx, List.forall_mem_singleton.mpr (hr.not_faulty hy)⟩
      cases x <;> cases y
      case some.some x y =>
        have htells : ∀ v ∈ [a, b], ∃ x, tells v x := List.forall_mem_cons.mpr
          ⟨⟨x, (hr.some_iff a x).mp hx⟩, List.forall_mem_singleton.mpr ⟨y, (hr.some_iff b y).mp hy⟩⟩
        obtain ⟨answer, h⟩ := hb x y ((hr.some_iff a x).mp hx) ((hr.some_iff b y).mp hy)
        exact .of_answer h hclean fun _ => htells
      all_goals exact .of_answer rfl hclean nofun

end Reader

-- An operator on a pair of bounds. Whether it answers may also depend on what is shared by the value and the bounds.
structure Within (faulty : Value → Fault → Prop) (tells : Value → α → Prop) (shared : α → α → α → Prop)
    (actual expected : Value) (r : Except Fault Bool) : Prop where
  alone  : (∀ low high, expected ≠ .list [low, high]) ∨ (∀ x, ¬tells actual x) →
    Rests faulty tells [actual] r ∧ r ≠ .ok true
  paired : ∀ low high x, expected = .list [low, high] → tells actual x →
    (∀ l h, tells low l → tells high h → shared l h x) → Rests faulty tells [low, high] r

theorem within_denies {x : Option α} (hx : read actual = .ok x) (h : expected.pair? = none ∨ x = none) :
    within read holds actual expected = .ok false := by
  rw [within, hx]
  cases x
  case none   => rfl
  case some x =>
    rw [h.resolve_right nofun]
    rfl

theorem Reader.within_rests (hr : Reader read faulty tells)
    (hb : ∀ l h x, shared l h x → ∃ answer, holds l h x = .ok answer) :
    Within faulty tells shared actual expected (within read holds actual expected) where
  alone h := by
    cases hx : read actual
    case error f =>
      have hfault : within read holds actual expected = .error f := by rw [within, hx]; rfl
      exact ⟨.of_fault (.head _) ((hr.error_iff actual f).mp hx) hfault, fun hf => nomatch hfault.symm.trans hf⟩
    case ok x =>
      have hnone : expected.pair? = none ∨ x = none := h.imp pair?_eq_none fun hn => by
        cases x
        case none   => rfl
        case some x => exact absurd ((hr.some_iff actual x).mp hx) (hn x)
      have hfalse : within read holds actual expected = .ok false := within_denies hx hnone
      exact ⟨.of_answer hfalse (List.forall_mem_singleton.mpr (hr.not_faulty hx)) nofun,
        fun ht => nomatch hfalse.symm.trans ht⟩
  paired := by
    rintro low high x rfl hx hs
    rw [within, (hr.some_iff actual x).mpr hx]
    exact hr.onBoth_rests fun l h hl hh => hb l h x (hs l h hl hh)

theorem ofMoment_of_marks {holds : Moment → Except Fault Bool} {m : Moment} (h : v.Marks m) :
    ofMoment v holds = holds m := by
  rw [ofMoment, toMoment_eq_some_iff.mpr h]
  rfl

theorem marks_of_ofMoment {holds : Moment → Except Fault Bool} (h : ofMoment v holds = .ok true) :
    ∃ m, v.Marks m ∧ holds m = .ok true := by
  unfold ofMoment at h
  cases hm : v.toMoment
  case error f => rw [hm] at h; cases h
  case ok m =>
    rw [hm] at h
    cases m
    case none   => cases h
    case some m => exact ⟨m, toMoment_eq_some_iff.mp hm, h⟩

theorem ofMoment_rests {holds : Moment → Bool} : Rests Untimely Marks [v] (ofMoment v fun m => .ok (holds m)) := by
  unfold ofMoment
  cases hm : v.toMoment
  case error f => exact .of_fault (.head _) (toMoment_eq_error_iff.mp hm) rfl
  case ok m =>
    have hclean : ∀ v' ∈ [v], ∀ f, ¬v'.Untimely f := List.forall_mem_singleton.mpr (moments_reader.not_faulty hm)
    cases m
    case none   => exact .of_answer rfl hclean nofun
    case some m => exact .of_answer rfl hclean fun _ => List.forall_mem_singleton.mpr ⟨m, toMoment_eq_some_iff.mp hm⟩

end Comparison

namespace Comparer

open Comparison

-- What the operators on dates and times make of any values. Only clocks with and without offset in one window, whole
-- numbers that are too large and moments beyond the calendar are faults.
structure Dating (t : Comparer) (a e : Value) : Prop where
  compared : ∀ o ∈ [Operator.dateEquals, .dateAfter, .dateBefore], Rests Untimely Marks [a, e] (t.applyKnown o a e)
  present  : ∀ o ∈ [Operator.dateIsToday, .dateIsThisMonth, .dateIsThisYear],
    Rests Untimely Marks [a] (t.applyKnown o a e)
  ranged   : Within Untimely Marks (fun _ _ _ => True) a e (t.applyKnown .dateBetween a e)
  windowed : Within Unclocked Tells SameClocks a e (t.applyKnown .timeBetween a e)
  mixed    : ∀ low high first last now, e = .list [low, high] → a.Tells now → low.Tells first → high.Tells last →
    ¬SameClocks first last now → t.applyKnown .timeBetween a e = .error .mixedClocks

theorem dating_exact (t : Comparer) (a e : Value) : t.Dating a e where
  compared o ho := by
    simp only [List.mem_cons, List.not_mem_nil, or_false] at ho
    rcases ho with rfl | rfl | rfl
    all_goals
      rw [applyKnown, dates_eq]
      exact moments_reader.onBoth_rests fun _ _ _ _ => ⟨_, rfl⟩
  present o ho := by
    simp only [List.mem_cons, List.not_mem_nil, or_false] at ho
    rcases ho with rfl | rfl | rfl <;> exact ofMoment_rests
  ranged := by
    rw [applyKnown, dateBetween_eq]
    exact moments_reader.within_rests fun _ _ _ _ => ⟨_, rfl⟩
  windowed := by
    rw [applyKnown, timeBetween_eq]
    exact clocks_reader.within_rests fun _ _ _ => inWindow_ok
  mixed := by
    rintro low high first last now rfl ha hl hh hmixed
    rw [applyKnown, timeBetween_eq, within_of_reads (toTimeOfDay_eq_some_iff.mpr ha) (toTimeOfDay_eq_some_iff.mpr hl)
      (toTimeOfDay_eq_some_iff.mpr hh), inWindow_mixed hmixed]

end Comparer

end FlowGate
