import FlowGate.Proofs.Json.Plain
import FlowGate.Value.Coercion

-- The numbers that values are read as, and what is shown of a value that is no number.

namespace FlowGate.Value

variable {v : Value} {x y : Double}

inductive Denotes : Value → Double → Prop
  | bool (b : Bool) : Denotes (bool b) (.ofBool b)
  | int {n : Int} {x : Double} (h : Double.ofInt? n = some x) : Denotes (int n) x
  | double (x : Double) : Denotes (double x) x
  | text {s : String} {x : Double} (h : Numeral.readDouble? s = some x) : Denotes (text s) x

theorem Denotes.unique (h : v.Denotes x) (h' : v.Denotes y) : x = y := by
  cases h <;> cases h'
  case int.int h h'     => exact Option.some.inj (h.symm.trans h')
  case text.text h h'   => exact Option.some.inj (h.symm.trans h')
  all_goals rfl

theorem Denotes.ok_eq_iff (h : v.Denotes y) : Except.ok y = (.ok x : Except Fault Double) ↔ v.Denotes x := by
  rw [Except.ok.injEq]
  exact ⟨fun he => he ▸ h, h.unique⟩

theorem notNumeric_ne_ok : toNumber.notNumeric v ≠ .ok x := by
  intro h
  obtain ⟨_, _, h⟩ := ok_of_bind h
  cases h

theorem toNumber_eq_ok_iff : v.toNumber = .ok x ↔ v.Denotes x := by
  fun_cases toNumber v
  case case1 b      => exact (Denotes.bool b).ok_eq_iff
  case case2 hn     => exact (Denotes.int hn).ok_eq_iff
  case case4 y      => exact (Denotes.double y).ok_eq_iff
  case case5 hs     => exact (Denotes.text hs).ok_eq_iff
  case case3 n hn =>
    refine iff_of_false nofun fun h => ?_
    cases h
    case int h => cases hn.symm.trans h
  case case6 s hs =>
    refine iff_of_false notNumeric_ne_ok fun h => ?_
    cases h
    case text h => cases hs.symm.trans h
  case case7 hbool hint hdouble htext =>
    refine iff_of_false notNumeric_ne_ok fun h => ?_
    cases h
    case bool   => exact hbool _ rfl
    case int    => exact hint _ rfl
    case double => exact hdouble _ rfl
    case text   => exact htext _ rfl

-- What is no number is shown in the fault, unless it is a whole number that is too large.
theorem toNumber_eq_error {shown : String} (hd : v.display = .ok shown)
    (hint : ∀ n, v = int n → Double.ofInt? n ≠ none) (h : ∀ x, ¬v.Denotes x) :
    v.toNumber = .error (.notNumeric shown) := by
  have hfault : toNumber.notNumeric v = .error (.notNumeric shown) := by
    rw [toNumber.notNumeric, hd]
    rfl
  fun_cases toNumber v
  case case1 b  => exact absurd (.bool b) (h _)
  case case2 hn => exact absurd (.int hn) (h _)
  case case3 hn => exact absurd hn (hint _ rfl)
  case case4 y  => exact absurd (.double y) (h _)
  case case5 hs => exact absurd (.text hs) (h _)
  case case6    => exact hfault
  case case7    => exact hfault

theorem displayItems_ok {xs : List Value} (h : ∀ x ∈ xs, ∃ shown, x.display = .ok shown) :
    ∃ shown, displayItems xs = .ok shown := by
  induction xs
  case nil => exact ⟨[], rfl⟩
  case cons x rest hi =>
    have ⟨⟨shown, hx⟩, hr⟩ := List.forall_mem_cons.mp h
    have ⟨texts, hr⟩ := hi hr
    rw [displayItems, hx, hr]
    split <;> exact ⟨_, rfl⟩

theorem hereditary_displays {p : Scalar → Prop} :
    Hereditary fun v => v.BuiltOf p → ∃ shown, v.display = .ok shown where
  scalar s _ := by
    cases s
    case double x _ => cases h : x.toInt? <;> simp [display, h]
    all_goals simp [display]
  list xs hi h := by
    cases h
    case list h =>
      have ⟨shown, hx⟩ := displayItems_ok fun x hx => hi x hx (h x hx)
      exact ⟨_, by rw [display, hx]; rfl⟩
  map es _ h := by
    obtain ⟨shown, hp⟩ : ∃ shown, Json.print (.map es) = .ok shown := (Json.hereditary_writes _).holds _ h
    exact ⟨shown, by rw [display, hp]⟩

end FlowGate.Value
