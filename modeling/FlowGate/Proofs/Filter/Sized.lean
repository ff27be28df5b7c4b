import FlowGate.Proofs.Filter.Built
import FlowGate.Proofs.Number.Rounding
import FlowGate.Proofs.Value.Number

-- Groups for lists whose length lies within bounds. The bounds themselves are admitted, although the operators that
-- the group is built from leave theirs out.

namespace FlowGate

open Value

namespace Double

variable {n : Int}

-- Up to two to the power of 53 nothing is lost when a whole number becomes a double.
theorem orderInt?_ofInt (m : Int) (h : n.natAbs ≤ 2 ^ 53) : orderInt? m (ofInt n) = some (compare m n) := by
  have hreach : Reaches n := reaches_of_lt (by omega)
  have hunits : unitsOf n = n * Grid.one := unitsOf_eq h
  have hone : (0 : Int) < Grid.one := by exact_mod_cast Grid.one_pos
  have horder : orderInt? m (ofInt n) = some (compare (m * Grid.one) (unitsOf n)) := by
    rw [ofInt_eq hreach]
    rfl
  rw [horder, hunits, Option.some_inj]
  rcases lt_trichotomy m n with h | rfl | h
  · rw [compare_lt_iff_lt.mpr h, compare_lt_iff_lt.mpr (Int.mul_lt_mul_of_pos_right h hone)]
  · rw [compare_eq_iff_eq.mpr rfl, compare_eq_iff_eq.mpr rfl]
  · rw [compare_gt_iff_gt.mpr h, compare_gt_iff_gt.mpr (Int.mul_lt_mul_of_pos_right h hone)]

end Double

namespace Comparison

variable {wanted : Ordering} {v : Value} {items : List Value} {n : Int}

theorem length_list (h : n.natAbs ≤ 2 ^ 53) :
    length wanted (list items) (int n) = .ok (compare (items.length : Int) n == wanted) := by
  have hn : (int n).toNumber = .ok (Double.ofInt n) :=
    toNumber_eq_ok_iff.mpr (.int (Double.ofInt?_eq_some (Double.reaches_of_lt (by omega))))
  rw [length, hn]
  simp only [bind, Except.bind, pure, Except.pure, Double.orderInt?_ofInt _ h]
  rfl

theorem length_unlisted {e : Value} (h : ∀ items, v ≠ list items) : length wanted v e = .ok false := by
  unfold length
  split
  case h_1 => exact absurd rfl (h _)
  case h_2 => rfl

end Comparison

namespace Builder

variable {e : Engine} {c : Context} {path : String} {n least : Int} {greatest : Option Int}

-- The lists that are long enough and not too long.
def Fits (least : Int) (greatest : Option Int) (v : Value) : Prop :=
  ∃ items, v = list items ∧ least ≤ items.length ∧ ∀ n ∈ greatest, (items.length : Int) ≤ n

-- A length operator takes a list in or leaves it out, and leaves out whatever is no list.
theorem length_decides (wanted : Ordering) (h : n.natAbs ≤ 2 ^ 53) (v : Value) :
    ∃ b, Comparison.length wanted v (int n) = .ok b ∧
      (b = true ↔ ∃ items, v = list items ∧ compare (items.length : Int) n = wanted) := by
  by_cases hv : ∃ items, v = list items
  case pos =>
    obtain ⟨items, rfl⟩ := hv
    exact ⟨_, Comparison.length_list h, by simp⟩
  case neg => exact ⟨false, Comparison.length_unlisted (not_exists.mp hv), by grind⟩

-- What the two filters of a group for sizes come to: each of them asks for one side of the length.
theorem sizing_passes {o : Operator} {wanted : Ordering} (name path : String)
    (ho : e.comparer.applyFilter (.known o) = Comparison.length wanted) (h : n.natAbs ≤ 2 ^ 53) :
    ((plain name path o (int n) none none).passes e c = true ↔
        ∃ items, c.resolveField path = list items ∧ compare (items.length : Int) n = wanted) ∧
      (plain name path o (int n) none none).complaint? e c = none := by
  obtain ⟨b, hb, hiff⟩ := length_decides wanted h (c.resolveField path)
  have hanswer : e.comparer.applyFilter (.known o) (c.resolveField path) (c.resolveValue (int n)) = .ok b := by
    rw [ho]
    exact hb
  obtain ⟨hp, hc⟩ := Filter.complaint?_plain name hanswer
  exact ⟨by rw [hp, hiff], hc⟩

def atLeast (path : String) (n : Int) : Filter :=
  plain "Array Min Size" path .arrayLengthGreaterThan (int (n - 1)) none none

def atMost (path : String) (n : Int) : Filter :=
  plain "Array Max Size" path .arrayLengthLessThan (int (n + 1)) none none

theorem atLeast_passes (h : n.natAbs < 2 ^ 53) :
    ((atLeast path n).passes e c = true ↔ ∃ items, c.resolveField path = list items ∧ n ≤ items.length) ∧
      (atLeast path n).complaint? e c = none := by
  have hgreater : e.comparer.applyFilter (.known .arrayLengthGreaterThan) = Comparison.length .gt := rfl
  obtain ⟨hp, hc⟩ := sizing_passes (c := c) (n := n - 1) "Array Min Size" path hgreater (by omega)
  refine ⟨hp.trans (exists_congr fun items => and_congr_right fun _ => ?_), hc⟩
  rw [compare_gt_iff_gt]
  omega

theorem atMost_passes (h : n.natAbs < 2 ^ 53) :
    ((atMost path n).passes e c = true ↔ ∃ items, c.resolveField path = list items ∧ items.length ≤ n) ∧
      (atMost path n).complaint? e c = none := by
  have hless : e.comparer.applyFilter (.known .arrayLengthLessThan) = Comparison.length .lt := rfl
  obtain ⟨hp, hc⟩ := sizing_passes (c := c) (n := n + 1) "Array Max Size" path hless (by omega)
  refine ⟨hp.trans (exists_congr fun items => and_congr_right fun _ => ?_), hc⟩
  rw [compare_lt_iff_lt]
  omega

def sizeFilters (path : String) (least : Int) (greatest : Option Int) : List Filter :=
  atLeast path least :: greatest.toList.map (atMost path)

theorem arraySizeFilter_eq (hp : path ≠ "") :
    arraySizeFilter (text path) (int least) ((greatest.map int).getD null) =
      .ok (allOf "Array Size Filter" (sizeFilters path least greatest)) := by
  cases greatest <;> simp only [arraySizeFilter, pred, succ, Build.ofFault, Option.map, Option.getD] <;>
    simp only [plainFilter_eq hp, Except.mapError, bind, Except.bind, pure, Except.pure] <;> rfl

theorem forall_mem_sizeFilters {p : Filter → Prop} : (∀ f ∈ sizeFilters path least greatest, p f) ↔
    p (atLeast path least) ∧ ∀ n ∈ greatest, p (atMost path n) := by
  simp only [sizeFilters, List.forall_mem_cons, List.forall_mem_map, Option.mem_toList,
    Option.mem_def]

-- Any bounds make a group, also bounds that no length can meet.
theorem arraySize_admits (e : Engine) (c : Context) (hp : path ≠ "") (hl : least.natAbs < 2 ^ 53)
    (hg : ∀ n ∈ greatest, n.natAbs < 2 ^ 53) :
    ∃ g, arraySizeFilter (text path) (int least) ((greatest.map int).getD null) = .ok g ∧ ∀ options,
      ((g.run e c options).value.passed = true ↔ Fits least greatest (c.resolveField path)) ∧
      (g.run e c options).value.errors = [] := by
  have hready : ∀ f ∈ sizeFilters path least greatest, f.Valid ∧ f.isEnabled = true :=
    forall_mem_sizeFilters.mpr ⟨plain_ready hp, fun _ _ => plain_ready hp⟩
  refine ⟨_, arraySizeFilter_eq hp, fun options => ⟨?_, ?_⟩⟩
  · rw [allOf_passed _ hready, forall_mem_sizeFilters, (atLeast_passes hl).left,
      forall₂_congr fun n hn => (atMost_passes (hg n hn)).left]
    constructor
    · rintro ⟨⟨items, hv, hlow⟩, hhigh⟩
      refine ⟨items, hv, hlow, fun n hn => ?_⟩
      obtain ⟨_, hv', hle⟩ := hhigh n hn
      cases hv.symm.trans hv'
      exact hle
    · rintro ⟨items, hv, hlow, hhigh⟩
      exact ⟨⟨items, hv, hlow⟩, fun n hn => ⟨items, hv, hhigh n hn⟩⟩
  · refine FilterGroup.run_errors_eq_nil (allOf_valid fun f hf => (hready f hf).left) rfl ?_ options
    exact forall_mem_sizeFilters.mpr ⟨(atLeast_passes hl).right, fun n hn => (atMost_passes (hg n hn)).right⟩

def tagged (tags : List Value) : Context :=
  .ofVars [(.text "tags", list tags)]

-- One tag is within the bounds one and two, three tags are not, and neither is a field that is not there.
theorem tags_admitted : "tags" ≠ "" ∧ (1 : Int).natAbs < 2 ^ 53 ∧ (∀ n ∈ some (2 : Int), n.natAbs < 2 ^ 53) ∧
    ∃ g, arraySizeFilter (text "tags") (int 1) (int 2) = .ok g ∧
      (g.run (.ofFunctions []) (tagged [text "a"]) {}).value.passed = true ∧
      (g.run (.ofFunctions []) (tagged [text "a", null, text "c"]) {}).value.passed = false ∧
      (g.run (.ofFunctions []) (.ofVars []) {}).value.passed = false ∧
      (g.run (.ofFunctions []) (.ofVars []) {}).value.errors = [] := by
  have hp : "tags" ≠ "" := by decide
  have hl : (1 : Int).natAbs < 2 ^ 53 := by decide
  have hg : ∀ n ∈ some (2 : Int), n.natAbs < 2 ^ 53 := by simp
  have admits (c : Context) := arraySize_admits (.ofFunctions []) c hp hl hg
  obtain ⟨g, hb, hone⟩ := admits (tagged [text "a"])
  obtain ⟨_, hb', hthree⟩ := admits (tagged [text "a", null, text "c"])
  obtain ⟨_, hb'', hnone⟩ := admits (.ofVars [])
  cases hb.symm.trans hb'
  cases hb.symm.trans hb''
  refine ⟨hp, hl, hg, g, hb, (hone {}).left.mpr ⟨[text "a"], rfl, by decide, by simp⟩, ?_, ?_, (hnone {}).right⟩
  · rw [← Bool.not_eq_true, (hthree {}).left]
    rintro ⟨items, hv, _, hle⟩
    have hitems : [text "a", null, text "c"] = items := Value.list.inj hv
    have hle := hle 2 rfl
    subst hitems
    simp at hle
  · rw [← Bool.not_eq_true, (hnone {}).left]
    rintro ⟨items, hv, _⟩
    cases hv

end Builder

end FlowGate
