import FlowGate.Json.Printer
import FlowGate.Proofs.Number.Text

-- Scalars that stand in documents without quotes: words, whole numbers and doubles. Each of them has a
-- text of its own.

namespace FlowGate

open Decimal

namespace Scalar

-- Whether a scalar is written as it is. All other scalars are written as texts.
def isToken : Scalar → Bool
  | null     => true
  | bool _   => true
  | int _    => true
  | double _ => true
  | _        => false

-- The word that stands for a scalar without digits.
def word? : Scalar → Option String
  | null                     => some "null"
  | bool b                   => some (if b then "true" else "false")
  | double .nan              => some "NaN"
  | double (.infinite false) => some "Infinity"
  | double (.infinite true)  => some "-Infinity"
  | _                        => none

variable {s t : Scalar} {w : String}

theorem word?_inj (hs : s.word? = some w) (ht : t.word? = some w) : s = t := by
  revert hs ht
  fun_cases word? s <;> fun_cases word? t <;> grind

end Scalar

namespace Json

open Scalar

variable {s t : Scalar} {w : String} {cs ds : List Char} {c d : Char} {a b : Bool}

-- Characters that need no quotes.
def isBare (c : Char) : Bool :=
  c.isAlphanum || c == '+' || c == '-' || c == '.'

theorem isBare_of_isDigit (h : c.isDigit = true) : isBare c = true := by
  simp [isBare, Char.isAlphanum, h]

def sign (negative : Bool) : List Char :=
  if negative then ['-'] else []

def isNumeral : List Char → Bool
  | '-' :: c :: _ => c.isDigit
  | c :: _        => c.isDigit
  | []            => false

theorem isNumeral_sign (h : c.isDigit = true) : isNumeral (sign a ++ c :: cs) = true := by
  cases a
  case true => exact h
  case false =>
    have hc : c ≠ '-' := by rintro rfl; cases h
    rw [sign, if_neg Bool.false_ne_true, List.nil_append, isNumeral]
    · exact h
    · intro _ _ hm
      exact absurd hm hc

theorem sign_inj (hc : c.isDigit = true) (hd : d.isDigit = true)
    (h : sign a ++ c :: cs = sign b ++ d :: ds) : a = b ∧ c :: cs = d :: ds := by
  cases a <;> cases b <;> simp only [sign, if_true, Bool.false_eq_true, if_false] at h
  case false.false => exact ⟨rfl, h⟩
  case true.true   => exact ⟨rfl, (List.cons.inj h).right⟩
  case false.true  => exact absurd ((List.cons.inj h).left ▸ hc) (by decide)
  case true.false  => exact absurd ((List.cons.inj h).left ▸ hd) (by decide)

theorem word_chars (h : s.word? = some w) :
    w.toList ≠ [] ∧ isNumeral w.toList = false ∧ ∀ c ∈ w.toList, isBare c = true := by
  revert h
  fun_cases word? s <;> rintro ⟨⟩
  case case2 b => cases b <;> exact ⟨List.cons_ne_nil _ _, rfl, List.all_eq_true.mp rfl⟩
  all_goals exact ⟨List.cons_ne_nil _ _, rfl, List.all_eq_true.mp rfl⟩

-- The texts without quotes.
inductive Token : Scalar → List Char → Prop
  | word {s : Scalar} {w : String} (h : s.word? = some w) : Token s w.toList
  | whole (n : Int) : Token (.int n) (sign (n < 0) ++ Nat.toDigits 10 n.natAbs)
  | broken (negative : Bool) (units : Nat) (fits : Grid.Representable units) :
    Token (.double (.finite negative units fits)) (sign negative ++ magnitudeText units)

theorem toList_int (n : Int) :
    (toString n).toList = sign (n < 0) ++ Nat.toDigits 10 n.natAbs := by
  cases n
  case ofNat m   => simp [sign, toString, Int.repr, Nat.repr]
  case negSucc m => simp [sign, toString, Int.repr, Nat.repr]

theorem token_scalarText (h : s.isToken = true) : Token s (scalarText s).toList := by
  cases s
  case null   => exact .word rfl
  case bool   => exact .word rfl
  case int n  => exact toList_int n ▸ .whole n
  case double x =>
    rcases x with _ | a | ⟨a, u, hu⟩
    case nan      => exact .word rfl
    case infinite => cases a <;> exact .word rfl
    case finite =>
      have h := Token.broken a u hu
      rwa [← String.toList_ofList (l := sign a ++ magnitudeText u)] at h
  all_goals cases h

theorem scalarText_of_not_token (h : s.isToken = false) : scalarText s = Text.quoted s.plain := by
  cases s <;> first | rfl | cases h

theorem toDigits_cons (n : Nat) : ∃ c cs, Nat.toDigits 10 n = c :: cs ∧ c.isDigit = true := by
  have ⟨c, cs, hc⟩ := List.exists_cons_of_ne_nil (Nat.toDigits_ne_nil (n := n) (b := 10))
  exact ⟨c, cs, hc, toDigits_allDigits n c (hc ▸ List.mem_cons_self)⟩

theorem Token.bare (h : Token s cs) : ∀ c ∈ cs, isBare c = true := by
  have hs (a : Bool) : ∀ c ∈ sign a, isBare c = true := by cases a <;> simp [sign, isBare]
  cases h
  case word h => exact (word_chars h).right.right
  case whole n =>
    intro c hc
    rcases List.mem_append.mp hc with hc | hc
    · exact hs _ c hc
    · exact isBare_of_isDigit (toDigits_allDigits _ c hc)
  case broken a u _ =>
    intro c hc
    rcases List.mem_append.mp hc with hc | hc
    · exact hs _ c hc
    · rcases (marked_magnitudeText u).chars c hc with hd | hm
      · exact isBare_of_isDigit hd
      · revert hm
        simp only [List.mem_cons, List.not_mem_nil, or_false]
        rintro (rfl | rfl | rfl | rfl) <;> rfl

theorem Token.ne_nil (h : Token s cs) : cs ≠ [] := by
  cases h
  case word h       => exact (word_chars h).left
  case whole n      => simp [Nat.toDigits_ne_nil]
  case broken a u _ =>
    have ⟨c, rest, hc, _⟩ := (marked_magnitudeText u).head
    simp [hc]

theorem isNumeral_whole (n : Int) : isNumeral (sign (n < 0) ++ Nat.toDigits 10 n.natAbs) = true := by
  have ⟨c, cs, hc, hd⟩ := toDigits_cons n.natAbs
  rw [hc]
  exact isNumeral_sign hd

theorem isNumeral_broken (a : Bool) (u : Nat) : isNumeral (sign a ++ magnitudeText u) = true := by
  have ⟨c, cs, hc, hd⟩ := (marked_magnitudeText u).head
  rw [hc]
  exact isNumeral_sign hd

-- The text of a double has a point or an exponent.
theorem whole_ne_broken {n : Int} {u : Nat} :
    sign (n < 0) ++ Nat.toDigits 10 n.natAbs ≠ sign a ++ magnitudeText u := by
  intro h
  have ⟨c, cs, hc, hcd⟩ := toDigits_cons n.natAbs
  have ⟨d, ds, hd, hdd⟩ := (marked_magnitudeText u).head
  rw [hc, hd] at h
  have h := (sign_inj hcd hdd h).right
  rw [← hc, ← hd] at h
  have ⟨x, hx, hm⟩ := (marked_magnitudeText u).mark
  have hx := ne_of_isDigit (toDigits_allDigits n.natAbs x (h ▸ hx))
  simp only [bne_iff_ne] at hx
  rcases List.mem_cons.mp hm with rfl | hm
  · exact hx.right rfl
  · exact hx.left (List.mem_singleton.mp hm)

theorem whole_inj {m n : Int}
    (h : sign (m < 0) ++ Nat.toDigits 10 m.natAbs = sign (n < 0) ++ Nat.toDigits 10 n.natAbs) :
    m = n := by
  have ⟨c, cs, hc, hcd⟩ := toDigits_cons m.natAbs
  have ⟨d, ds, hd, hdd⟩ := toDigits_cons n.natAbs
  rw [hc, hd] at h
  have ⟨hs, h⟩ := sign_inj hcd hdd h
  have ha : m.natAbs = n.natAbs := by
    rw [← numeral_toDigits m.natAbs, ← numeral_toDigits n.natAbs, hc, hd, h]
  have hs : m < 0 ↔ n < 0 := decide_eq_decide.mp hs
  omega

theorem broken_inj {u v : Nat} (hu : Grid.Representable u) (hv : Grid.Representable v)
    (h : sign a ++ magnitudeText u = sign b ++ magnitudeText v) : a = b ∧ u = v := by
  have ⟨c, cs, hc, hcd⟩ := (marked_magnitudeText u).head
  have ⟨d, ds, hd, hdd⟩ := (marked_magnitudeText v).head
  rw [hc, hd] at h
  have ⟨hs, h⟩ := sign_inj hcd hdd h
  exact ⟨hs, magnitudeText_inj hu hv (by rw [hc, hd, h])⟩

theorem Token.inj (hs : Token s cs) (ht : Token t ds) (h : cs = ds) : s = t := by
  have hw {s w cs} (hs : word? s = some w) (hc : isNumeral cs = true) : w.toList ≠ cs := by
    rintro rfl
    exact Bool.false_ne_true ((word_chars hs).right.left.symm.trans hc)
  cases hs <;> cases ht
  case word.word _ hs _ ht       => exact word?_inj hs (String.toList_inj.mp h ▸ ht)
  case word.whole _ hs n         => exact absurd h (hw hs (isNumeral_whole n))
  case word.broken _ hs a u _    => exact absurd h (hw hs (isNumeral_broken a u))
  case whole.word n _ ht         => exact absurd h.symm (hw ht (isNumeral_whole n))
  case whole.whole               => exact congrArg Scalar.int (whole_inj h)
  case whole.broken              => exact absurd h whole_ne_broken
  case broken.word a u _ _ ht    => exact absurd h.symm (hw ht (isNumeral_broken a u))
  case broken.whole              => exact absurd h.symm whole_ne_broken
  case broken.broken hu _ _ hv   =>
    obtain ⟨rfl, rfl⟩ := broken_inj hu hv h
    rfl

end Json

end FlowGate
