import FlowGate.Proofs.Json.Scalar
import FlowGate.Proofs.Json.Written
import FlowGate.Proofs.Text.Quoted

-- Where the quoted parts of a document begin and end. A document can be found at the end of another
-- text only if what comes before it leaves no quoted part open.

namespace FlowGate.Json

open Value

-- Where a character of a document stands. A low line or a backslash outside of quotes is lost: no
-- document has one there.
inductive Place
  | outside
  | inside
  | escaped
  | lost

namespace Place

def next : Place → Char → Place
  | outside, c => if c = '"' then inside else if c = '\\' ∨ c = '_' then lost else outside
  | inside, c  => if c = '"' then outside else if c = '\\' then escaped else inside
  | escaped, _ => inside
  | lost, _    => lost

def after (p : Place) (cs : List Char) : Place :=
  cs.foldl next p

variable {p q : Place} {cs ds : List Char} {c : Char}

theorem after_append (p : Place) (cs ds : List Char) :
    p.after (cs ++ ds) = (p.after cs).after ds :=
  List.foldl_append

theorem after_cons (p : Place) (c : Char) (cs : List Char) :
    p.after (c :: cs) = (p.next c).after cs := rfl

-- Two readings of one text, one of which has lost its way or takes for quoted what the other does not.
inductive Crossed : Place → Place → Prop
  | left (p : Place)  : Crossed lost p
  | right (p : Place) : Crossed p lost
  | inOut             : Crossed inside outside
  | outIn             : Crossed outside inside

theorem Crossed.symm (h : Crossed p q) : Crossed q p := by
  cases h <;> constructor

theorem crossed_next (c : Char) : Crossed (outside.next c) (inside.next c) := by
  by_cases hq : c = '"'
  case pos => simpa only [next, hq, if_true] using .inOut
  by_cases hb : c = '\\' ∨ c = '_'
  case pos => simpa only [next, hq, hb, if_true, if_false] using .left _
  have hb' : c ≠ '\\' := fun h => hb (.inl h)
  simpa only [next, if_neg hq, if_neg hb, if_neg hb'] using .outIn

theorem Crossed.next (h : Crossed p q) (c : Char) : Crossed (p.next c) (q.next c) := by
  cases h
  case left  => exact .left _
  case right => exact .right _
  case inOut => exact (crossed_next c).symm
  case outIn => exact crossed_next c

theorem Crossed.after (h : Crossed p q) (cs : List Char) : Crossed (p.after cs) (q.after cs) := by
  induction cs generalizing p q
  case nil          => exact h
  case cons c _ hi  => exact hi (h.next c)

end Place

-- A text whose quoted parts are all closed, with nothing outside of them that documents do not have.
def Closed (cs : List Char) : Prop :=
  Place.outside.after cs = .outside

variable {cs ds : List Char} {c : Char} {style : Style} {s : String} {v : Value} {t : String}

theorem Closed.nil : Closed [] := rfl

theorem Closed.append (hc : Closed cs) (hd : Closed ds) : Closed (cs ++ ds) := by
  rw [Closed, Place.after_append, hc, hd]

theorem Closed.cons (hc : (Place.outside.next c) = .outside) (hd : Closed ds) : Closed (c :: ds) := by
  rw [Closed, Place.after_cons, hc, hd]

-- A closed text that ends another behind a low line is not the end of a closed text.
theorem not_closed_append (hd : Closed ds) : ¬Closed (cs ++ '_' :: ds) := by
  intro h
  rw [Closed, Place.after_append, Place.after_cons] at h
  have hp : Place.Crossed .outside ((Place.outside.after cs).next '_') := by
    cases Place.outside.after cs
    case outside => exact .right _
    case inside  => exact .outIn
    case escaped => exact .outIn
    case lost    => exact .right _
  have hx := hp.after ds
  rw [h, hd] at hx
  cases hx

theorem Closed.of_bare (h : ∀ c ∈ cs, isBare c = true) : Closed cs := by
  induction cs
  case nil => exact .nil
  case cons c rest hi =>
    have ⟨hc, hr⟩ := List.forall_mem_cons.mp h
    have hq : c ≠ '"' := by rintro rfl; cases hc
    have hb : ¬(c = '\\' ∨ c = '_') := by rintro (rfl | rfl) <;> cases hc
    exact .cons (by rw [Place.next, if_neg hq, if_neg hb]) (hi hr)

theorem inside_digitChar {n : Nat} (h : n < 16) :
    Place.inside.next (Nat.digitChar n) = .inside := by
  have hn : ∀ n < 16, Nat.digitChar n ≠ '"' ∧ Nat.digitChar n ≠ '\\' := by decide
  rw [Place.next, if_neg (hn n h).left, if_neg (hn n h).right]

theorem after_unitEscape {n : Nat} (h : n < 0x10000) :
    Place.inside.after (Text.unitEscape n) = .inside := by
  have hu : Place.inside.after ['\\', 'u'] = .inside := rfl
  change Place.inside.after (['\\', 'u'] ++ Text.hex 4 n) = .inside
  rw [Place.after_append, hu, Text.hex_four h]
  simp only [Place.after_cons]
  rw [inside_digitChar (by omega), inside_digitChar (by omega), inside_digitChar (by omega),
    inside_digitChar (by omega)]
  rfl

theorem after_escape (c : Char) : Place.inside.after (Text.escapeInDocument c) = .inside := by
  rcases Text.escape_cases c with ⟨d, _, _, he⟩ | ⟨hq, hb, he⟩ | he <;> rw [he]
  · rfl
  · simp [Place.after, Place.next, hq, hb]
  · have hv : c.toNat < 0xD800 ∨ 0xDFFF < c.toNat ∧ c.toNat < 0x110000 := c.valid
    unfold Text.codeEscape
    split
    case isTrue h => exact after_unitEscape h
    case isFalse =>
      dsimp only
      rw [Place.after_append, after_unitEscape (by omega), after_unitEscape (by omega)]

theorem closed_quoted (s : String) : Closed (Text.quoted s).toList := by
  have hs (cs : List Char) : Place.inside.after (cs.flatMap Text.escapeInDocument) = .inside := by
    induction cs
    case nil => rfl
    case cons c _ hi => rw [List.flatMap_cons, Place.after_append, after_escape, hi]
  rw [Closed, Text.quoted, String.toList_ofList, List.cons_append, Place.after_cons,
    Place.after_append]
  change Place.after (Place.inside.after (s.toList.flatMap Text.escapeInDocument)) ['"'] = .outside
  rw [hs]
  rfl

theorem Closed.joined {pieces : List (List Char)} (h : ∀ p ∈ pieces, Closed p) :
    Closed (joined pieces) := by
  induction pieces
  case nil => exact .nil
  case cons p rest hi =>
    have ⟨hp, hr⟩ := List.forall_mem_cons.mp h
    cases rest
    case nil => simpa [Json.joined] using hp
    case cons =>
      rw [Json.joined, List.intercalate_cons_cons]
      exact (hp.append (.cons rfl (.cons rfl .nil))).append (hi hr)

theorem closed_scalarText (s : Scalar) : Closed (scalarText s).toList := by
  cases h : s.isToken
  case true  => exact .of_bare (token_scalarText h).bare
  case false => exact scalarText_of_not_token h ▸ closed_quoted _

theorem Closed.member {m : Member} (h : Closed m.2.2.toList) : Closed m.chars :=
  (closed_quoted _).append (.cons rfl (.cons rfl h))

theorem hereditary_closed :
    Hereditary fun v => ∀ t, write style v = .ok t → Closed t.toList where
  scalar s t h := by
    cases h
    exact closed_scalarText s
  list xs hi t h := by
    have ⟨ts, hts, ht⟩ := write_list.mp h
    rw [ht]
    refine Closed.append (.cons rfl (.joined fun p hp => ?_)) (.cons rfl .nil)
    have ⟨t, hm, hp⟩ := List.mem_map.mp hp
    have ⟨x, hx, hw⟩ := exists_of_mem hts hm
    exact hp ▸ hi x hx t hw
  map es hi t h := by
    have ⟨ms, hms, _, ht⟩ := write_map.mp h
    rw [ht]
    refine Closed.append (.cons rfl (.joined fun p hp => ?_)) (.cons rfl .nil)
    have ⟨m, hm, hp⟩ := List.mem_map.mp hp
    have ⟨e, he, hw⟩ := exists_of_mem hms ((arranged_perm ms).subset hm)
    exact hp ▸ .member (hi e he m.2.2 hw.value)

theorem closed_of_write (h : write style v = .ok t) : Closed t.toList :=
  hereditary_closed.holds v t h

end FlowGate.Json
