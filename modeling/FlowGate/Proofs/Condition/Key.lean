import FlowGate.Condition.Lookup
import FlowGate.Proofs.Engine
import FlowGate.Proofs.Json.Reordered
import FlowGate.Proofs.Json.Scan

-- Keys of results. The id, the variables and the index of the step can be told apart in a key, whatever
-- the id looks like: no document goes on behind a low line outside of its quotes.

namespace FlowGate

open Json Value

variable {c c' : Context} {cs ds front front' back back' : List Char}

-- Texts that do not go on with the end of the other behind a low line.
theorem append_low_inj (h : ∀ cs, back ≠ cs ++ '_' :: back') (h' : ∀ cs, back' ≠ cs ++ '_' :: back)
    (he : front ++ '_' :: back = front' ++ '_' :: back') : front = front' ∧ back = back' := by
  have hback {cs back back' : List Char} (h : ∀ cs, back ≠ cs ++ '_' :: back')
      (he : '_' :: back = cs ++ '_' :: back') : cs = [] ∧ back = back' := by
    cases cs
    case nil         => exact ⟨rfl, (List.cons.inj he).right⟩
    case cons c rest => exact absurd (List.cons.inj he).right (h rest)
  rcases List.append_eq_append_iff.mp he with ⟨cs, hf, hb⟩ | ⟨cs, hf, hb⟩
  · have ⟨hn, hb⟩ := hback h hb
    exact ⟨by rw [hf, hn, List.append_nil], hb⟩
  · have ⟨hn, hb⟩ := hback h' hb
    exact ⟨by rw [hf, hn, List.append_nil], hb.symm⟩

theorem low_not_mem_int (n : Int) : '_' ∉ (toString n).toList := by
  rw [toList_int]
  intro h
  cases (Token.whole n).bare '_' h

theorem toString_int_inj {m n : Int} (h : (toString m).toList = (toString n).toList) : m = n := by
  rw [toList_int, toList_int] at h
  exact whole_inj h

namespace Context

def joinedKey (id vars : String) (index : Int) : String := s!"{id}_{vars}_{index}"

theorem joinedKey_inj {id id' vars vars' : String} {m n : Int} (hv : Closed vars.toList)
    (hv' : Closed vars'.toList) (h : joinedKey id vars m = joinedKey id' vars' n) :
    id = id' ∧ vars = vars' ∧ m = n := by
  have hl (id vars : String) (n : Int) : (joinedKey id vars n).toList =
      (id.toList ++ '_' :: vars.toList) ++ '_' :: (toString n).toList := by
    simp [joinedKey, toString, String.append_assoc]
  have h := congrArg String.toList h
  rw [hl, hl] at h
  have hmn (m n : Int) (cs : List Char) : (toString m).toList ≠ cs ++ '_' :: (toString n).toList :=
    fun h => low_not_mem_int m (h ▸ List.mem_append_right _ List.mem_cons_self)
  have ⟨h, hi⟩ := append_low_inj (hmn m n) (hmn n m) h
  have ⟨hid, hvars⟩ := append_low_inj (fun cs h => not_closed_append hv' (h ▸ hv))
    (fun cs h => not_closed_append hv (h ▸ hv')) h
  exact ⟨String.toList_inj.mp hid, String.toList_inj.mp hvars, toString_int_inj hi⟩

theorem cacheKey?_of_printed {vars : String} (h : printSorted (.map c.vars) = .ok vars) (id : Value) :
    c.cacheKey? id = some (joinedKey id.plain vars c.stepIndex) := by
  rw [cacheKey?, h]
  rfl

-- Contexts of steps with one index whose variables have one document with sorted keys.
def WrittenAlike (c c' : Context) : Prop :=
  c.stepIndex = c'.stepIndex ∧
    ∃ vars, printSorted (.map c.vars) = .ok vars ∧ printSorted (.map c'.vars) = .ok vars

theorem writtenAlike_single (name : String) {v w : Value} {t : String} (hv : printSorted v = .ok t)
    (hw : printSorted w = .ok t) :
    (ofVars [(.text name, v)]).WrittenAlike (ofVars [(.text name, w)]) := by
  have hp {v : Value} (hv : printSorted v = .ok t) : printSorted (.map [(.text name, v)]) =
      object { sortKeys := true } [(.text name, name, t)] := by
    rw [printSorted] at hv
    simp [printSorted, write, writeMembers, keyText, hv, bind, Except.bind]
  obtain ⟨vars, ho⟩ : ∃ vars, object { sortKeys := true } [(.text name, name, t)] = .ok vars :=
    ⟨_, if_neg (by simp [sortable])⟩
  exact ⟨rfl, vars, (hp hv).trans ho, (hp hw).trans ho⟩

-- Results that have one key are those of conditions with one id, in contexts that are written alike.
theorem writtenAlike_of_cacheKey? {id id' : Value} {key : String} (h : c.cacheKey? id = some key)
    (h' : c'.cacheKey? id' = some key) : id.plain = id'.plain ∧ c.WrittenAlike c' := by
  cases hv : printSorted (.map c.vars)
  case error => simp [cacheKey?, hv] at h
  case ok vars =>
    cases hv' : printSorted (.map c'.vars)
    case error => simp [cacheKey?, hv'] at h'
    case ok vars' =>
      rw [cacheKey?_of_printed hv] at h
      rw [cacheKey?_of_printed hv', ← h, Option.some.injEq] at h'
      have ⟨hid, hvars, hi⟩ := joinedKey_inj (closed_of_write hv') (closed_of_write hv) h'
      subst hvars
      exact ⟨hid.symm, hi.symm, _, hv, hv'⟩

theorem writtenAlike_iff_of_plain (hv : IsPlain (.map c.vars)) (hv' : IsPlain (.map c'.vars)) :
    c.WrittenAlike c' ↔ c.stepIndex = c'.stepIndex ∧ Reordered (.map c.vars) (.map c'.vars) := by
  rw [← sortedChars_eq_iff hv hv', WrittenAlike, printSorted_eq hv, printSorted_eq hv']
  simp [String.ofList_inj, eq_comm]

-- Contexts with plain variables have a key for every id, and the key is made up of nothing but the id,
-- the index of the step and the variables in any order.
theorem cacheKey?_plain (hv : IsPlain (.map c.vars)) (hv' : IsPlain (.map c'.vars)) (id id' : String) :
    ∃ key key', c.cacheKey? (.text id) = some key ∧ c'.cacheKey? (.text id') = some key' ∧
      (key = key' ↔ id = id' ∧ c.stepIndex = c'.stepIndex ∧ Reordered (.map c.vars) (.map c'.vars)) := by
  have hk := cacheKey?_of_printed (printSorted_eq hv) (.text id)
  have hk' := cacheKey?_of_printed (printSorted_eq hv') (.text id')
  refine ⟨_, _, hk, hk', ?_⟩
  rw [← writtenAlike_iff_of_plain hv hv']
  constructor
  case mp =>
    intro h
    exact writtenAlike_of_cacheKey? hk (h ▸ hk')
  case mpr =>
    rintro ⟨rfl, hi, vars, hp, hp'⟩
    rw [printSorted_eq hv] at hp
    rw [printSorted_eq hv', ← hp, Except.ok.injEq] at hp'
    rw [hi, hp']

def twoVars : Entries :=
  [(.text "x", .list [.int 1, .null]), (.text "_y", .text "\"\x7b_0")]

theorem twoVars_plain : IsPlain (.map twoVars) := by
  refine .map (by simp [twoVars, Entries.keys]) (by decide) ?_
  simp only [twoVars, List.forall_mem_cons, List.not_mem_nil, false_implies, implies_true, and_true]
  refine ⟨.list ?_, .text _⟩
  simp only [List.forall_mem_cons, List.not_mem_nil, false_implies, implies_true, and_true]
  exact ⟨.token rfl, .token rfl⟩

-- Turning the variables round leaves a key as it is, also behind an id that looks like a key.
theorem cacheKey?_turned :
    ∃ key, (ofVars twoVars).cacheKey? (.text "a_\x7b\x7d_0") = some key ∧
      (ofVars twoVars.reverse).cacheKey? (.text "a_\x7b\x7d_0") = some key := by
  have hp := (List.reverse_perm twoVars).symm
  have hv : IsPlain (.map (ofVars twoVars).vars) := twoVars_plain
  have hv' : IsPlain (.map (ofVars twoVars.reverse).vars) := twoVars_plain.perm hp
  have ⟨key, key', hk, hk', h⟩ := cacheKey?_plain hv hv' "a_\x7b\x7d_0" "a_\x7b\x7d_0"
  rw [← h.mpr ⟨rfl, rfl, .of_perm hp⟩] at hk'
  exact ⟨key, hk, hk'⟩

end Context

end FlowGate
