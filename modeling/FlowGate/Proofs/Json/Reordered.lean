import FlowGate.Proofs.Json.Plain
import FlowGate.Proofs.Text.Quoted

-- Plain values have the same document with sorted keys exactly if they differ in nothing but the order
-- within their mappings. Every part of a document shows where it ends, so documents can be taken apart
-- from the left.

namespace FlowGate

namespace Value

-- The same value, with the entries of its mappings in any order.
inductive Reordered : Value → Value → Prop
  | scalar (s : Scalar) : Reordered (.scalar s) (.scalar s)
  | list {xs ys : List Value} (h : List.Forall₂ Reordered xs ys) : Reordered (.list xs) (.list ys)
  | map {es es' fs : Entries} (perm : es.Perm es') (keys : es'.keys = fs.keys)
    (values : List.Forall₂ Reordered (es'.map (·.2)) (fs.map (·.2))) : Reordered (.map es) (.map fs)

theorem hereditary_reordered : Hereditary fun v => Reordered v v where
  scalar s    := .scalar s
  list _ hi   := .list (List.forall₂_same.mpr hi)
  map es hi   := .map (.refl es) rfl (List.forall₂_same.mpr fun _ hv =>
    have ⟨e, he, hev⟩ := List.mem_map.mp hv
    hev ▸ hi e he)

theorem Reordered.of_perm {es fs : Entries} (h : es.Perm fs) : Reordered (.map es) (.map fs) :=
  .map h rfl (List.forall₂_same.mpr fun v _ => hereditary_reordered.holds v)

theorem IsPlain.perm {es fs : Entries} (hp : es.Perm fs) (h : IsPlain (.map es)) : IsPlain (.map fs) := by
  have hk : es.keys.Perm fs.keys := hp.map _
  cases h
  case map ht hd hv =>
    exact .map (fun k h => ht k (hk.symm.subset h)) (hk.nodup hd) fun e h => hv e (hp.symm.subset h)

end Value

namespace Json

open Value

variable {α : Type} {s t : Scalar} {v w : Value} {c close : Char} {cs ds rest rest' : List Char}
variable {as bs : List α} {f : α → List Char} {R : α → α → Prop}

-- What may follow a part of a document does not go on with its last word or number.
def Stops (rest : List Char) : Prop :=
  ∀ c ∈ rest.head?, isBare c = false

theorem stops_cons (h : isBare c = false) : Stops (c :: rest) := by
  rintro d ⟨⟩
  exact h

theorem Token.takeWhile (hs : Token s cs) (hr : Stops rest) :
    (cs ++ rest).takeWhile isBare = cs := by
  rw [List.takeWhile_append_of_pos hs.bare]
  cases rest
  case nil         => exact List.append_nil cs
  case cons c rest => simp [hr c rfl]

theorem Token.append_inj (hs : Token s cs) (ht : Token t ds) (hr : Stops rest) (hr' : Stops rest')
    (h : cs ++ rest = ds ++ rest') : s = t ∧ rest = rest' := by
  obtain rfl : cs = ds := by rw [← hs.takeWhile hr, h, ht.takeWhile hr']
  exact ⟨hs.inj ht rfl, List.append_cancel_left h⟩

-- The first character of a document tells the kinds of values apart.
def opens : Value → Char → Bool
  | .scalar s, c => if s.isToken then isBare c else c == '"'
  | .list _, c   => c == '['
  | .map _, c    => c == '\x7b'

theorem opens_sortedChars (h : IsPlain v) : ∃ c cs, sortedChars v = c :: cs ∧ opens v c = true := by
  cases h
  case token s h =>
    have ht := token_scalarText h
    have ⟨c, cs, hc⟩ := List.exists_cons_of_ne_nil ht.ne_nil
    exact ⟨c, cs, hc, by rw [opens, if_pos h, ht.bare c (hc ▸ List.mem_cons_self)]⟩
  case text s  => exact ⟨_, _, Text.toList_quoted s [] ▸ (List.append_nil _).symm, rfl⟩
  case list h  => exact ⟨_, _, sortedChars_list (.list h), rfl⟩
  case map hk hd hv => exact ⟨_, _, sortedChars_map (.map hk hd hv), rfl⟩

theorem opens_of_append_eq (hv : IsPlain v) (hw : IsPlain w)
    (h : sortedChars v ++ rest = sortedChars w ++ rest') : ∃ c, opens v c = true ∧ opens w c = true := by
  have ⟨c, cs, hc, hvc⟩ := opens_sortedChars hv
  have ⟨d, ds, hd, hwd⟩ := opens_sortedChars hw
  rw [hc, hd] at h
  exact ⟨c, hvc, (List.cons.inj h).left ▸ hwd⟩

-- Values with documents that begin alike are of one kind.
theorem same_kind (hv : opens v c = true) (hw : opens w c = true) :
    (∃ s t, v = .scalar s ∧ w = .scalar t) ∨ (∃ xs ys, v = .list xs ∧ w = .list ys) ∨
      ∃ es fs, v = .map es ∧ w = .map fs := by
  have hscalar {s : Scalar} {c : Char} (hs : opens (.scalar s) c = true) : c ≠ '[' ∧ c ≠ '\x7b' := by
    constructor <;> rintro rfl <;> rw [opens] at hs <;> split at hs <;> cases hs
  cases v <;> cases w
  case scalar.scalar s t => exact .inl ⟨s, t, rfl, rfl⟩
  case list.list xs ys   => exact .inr <| .inl ⟨xs, ys, rfl, rfl⟩
  case map.map es fs     => exact .inr <| .inr ⟨es, fs, rfl, rfl⟩
  case scalar.list       => exact absurd (eq_of_beq hw) (hscalar hv).left
  case scalar.map        => exact absurd (eq_of_beq hw) (hscalar hv).right
  case list.scalar       => exact absurd (eq_of_beq hv) (hscalar hw).left
  case map.scalar        => exact absurd (eq_of_beq hv) (hscalar hw).right
  case list.map          => exact absurd ((eq_of_beq hv).symm.trans (eq_of_beq hw)) (by decide)
  case map.list          => exact absurd ((eq_of_beq hv).symm.trans (eq_of_beq hw)) (by decide)

theorem not_opens (v : Value) : opens v ']' = false := by
  cases v
  case scalar =>
    rw [opens]
    split <;> rfl
  all_goals rfl

-- What follows the first of several parts between brackets.
def following (close : Char) (rest : List Char) : List (List Char) → List Char
  | [] => close :: rest
  | ps => ',' :: ' ' :: (joined ps ++ close :: rest)

theorem joined_cons_append (p : List Char) (ps : List (List Char)) :
    joined (p :: ps) ++ close :: rest = p ++ following close rest ps := by
  cases ps
  case nil       => simp [joined, following]
  case cons q ps => simp [joined, following]

theorem stops_following (h : isBare close = false) (ps : List (List Char)) :
    Stops (following close rest ps) := by
  cases ps
  case nil  => exact stops_cons h
  case cons => exact stops_cons rfl

-- Parts that show where they end can be told apart between brackets.
theorem joined_append_inj (hc : isBare close = false) (hs : close ≠ ',')
    (has : ∀ a ∈ as, ∃ c cs, f a = c :: cs ∧ c ≠ close)
    (hbs : ∀ b ∈ bs, ∃ c cs, f b = c :: cs ∧ c ≠ close)
    (hinj : ∀ a ∈ as, ∀ b ∈ bs, ∀ rest rest', Stops rest → Stops rest' →
      f a ++ rest = f b ++ rest' → R a b ∧ rest = rest')
    (h : joined (as.map f) ++ close :: rest = joined (bs.map f) ++ close :: rest') :
    List.Forall₂ R as bs ∧ rest = rest' := by
  induction as generalizing bs
  case nil =>
    cases bs
    case nil => exact ⟨.nil, (List.cons.inj h).right⟩
    case cons b bs =>
      have ⟨c, cs, hb, hne⟩ := hbs b List.mem_cons_self
      rw [List.map_cons, joined_cons_append, hb] at h
      exact absurd (List.cons.inj h).left.symm hne
  case cons a as hi =>
    have ⟨ha, has⟩ := List.forall_mem_cons.mp has
    cases bs
    case nil =>
      have ⟨c, cs, ha, hne⟩ := ha
      rw [List.map_cons, joined_cons_append, ha] at h
      exact absurd (List.cons.inj h).left hne
    case cons b bs =>
      rw [List.map_cons, List.map_cons, joined_cons_append, joined_cons_append] at h
      have ⟨hr, h⟩ := hinj a List.mem_cons_self b List.mem_cons_self _ _ (stops_following hc _)
        (stops_following hc _) h
      have hi := hi has (List.forall_mem_cons.mp hbs).right
        fun a ha b hb => hinj a (List.mem_cons_of_mem _ ha) b (List.mem_cons_of_mem _ hb)
      cases as <;> cases bs
      case nil.nil   => exact ⟨.cons hr .nil, (List.cons.inj h).right⟩
      case nil.cons  => exact absurd (List.cons.inj h).left hs
      case cons.nil  => exact absurd (List.cons.inj h).left.symm hs
      case cons.cons =>
        have ⟨hrs, hrest⟩ := hi (List.cons.inj (List.cons.inj h).right).right
        exact ⟨.cons hr hrs, hrest⟩

theorem scalar_append_inj (hs : IsPlain (.scalar s)) (ht : IsPlain (.scalar t)) (hr : Stops rest)
    (hr' : Stops rest') (h : sortedChars (.scalar s) ++ rest = sortedChars (.scalar t) ++ rest') :
    s = t ∧ rest = rest' := by
  have ⟨c, hc, hd⟩ := opens_of_append_eq hs ht h
  cases hs <;> cases ht
  case token.token hs ht => exact (token_scalarText hs).append_inj (token_scalarText ht) hr hr' h
  case text.text s t     =>
    have ⟨hst, hr⟩ := Text.quoted_append_inj h
    exact ⟨congrArg Scalar.text hst, hr⟩
  case token.text hs t   =>
    rw [opens, if_pos hs] at hc
    obtain rfl := eq_of_beq hd
    cases hc
  case text.token s ht   =>
    rw [opens, if_pos ht] at hd
    obtain rfl := eq_of_beq hc
    cases hd

-- A member of a mapping shows where it ends if its value does.
theorem member_append_inj {e e' : Scalar × Value} (he : ∃ name, e.1 = .text name)
    (he' : ∃ name, e'.1 = .text name)
    (hv : ∀ rest rest', Stops rest → Stops rest' →
      sortedChars e.2 ++ rest = sortedChars e'.2 ++ rest' → Reordered e.2 e'.2 ∧ rest = rest')
    (hr : Stops rest) (hr' : Stops rest')
    (h : memberChars (e.1, sortedChars e.2) ++ rest = memberChars (e'.1, sortedChars e'.2) ++ rest') :
    (e.1 = e'.1 ∧ Reordered e.2 e'.2) ∧ rest = rest' := by
  have ⟨name, hn⟩ := he
  have ⟨name', hn'⟩ := he'
  rw [memberChars, memberChars, List.append_assoc, List.append_assoc, hn, hn'] at h
  obtain ⟨hk, h⟩ := Text.quoted_append_inj h
  obtain ⟨hv, hrest⟩ := hv rest rest' hr hr' (List.cons.inj (List.cons.inj h).right).right
  have hk : name = name' := hk
  exact ⟨⟨by rw [hn, hn', hk], hv⟩, hrest⟩

theorem Reordered.of_byKey {es fs : Entries}
    (h : List.Forall₂ (fun e e' => e.1 = e'.1 ∧ Reordered e.2 e'.2) (byKey es) (byKey fs)) :
    Reordered (.map es) (.map fs) := by
  have ⟨es', hm, hp⟩ := List.perm_comp_forall₂ (byKey_perm fs).symm h.flip
  have hm := hm.flip
  refine .map ((byKey_perm es).symm.trans hp.symm) (map_eq_of_forall₂ (hm.imp fun _ _ h => h.left)) ?_
  exact List.forall₂_map_left_iff.mpr (List.forall₂_map_right_iff.mpr (hm.imp fun _ _ h => h.right))

-- The document of a value shows where it ends, and which value it is.
def Apart (v : Value) : Prop :=
  ∀ w, IsPlain v → IsPlain w → ∀ rest rest', Stops rest → Stops rest' →
    sortedChars v ++ rest = sortedChars w ++ rest' → Reordered v w ∧ rest = rest'

theorem items_append_inj {xs ys : List Value} (hv : IsPlain (.list xs)) (hw : IsPlain (.list ys))
    (hi : ∀ x ∈ xs, Apart x)
    (h : sortedChars (.list xs) ++ rest = sortedChars (.list ys) ++ rest') :
    List.Forall₂ Reordered xs ys ∧ rest = rest' := by
  have hs {x : Value} (hx : IsPlain x) : ∃ c cs, sortedChars x = c :: cs ∧ c ≠ ']' := by
    have ⟨c, cs, hc, ho⟩ := opens_sortedChars hx
    refine ⟨c, cs, hc, ?_⟩
    rintro rfl
    exact Bool.false_ne_true ((not_opens x).symm.trans ho)
  rw [sortedChars_list hv, sortedChars_list hw] at h
  simp only [List.cons_append, List.append_assoc, List.nil_append, List.cons_inj_right] at h
  cases hv
  case list hv =>
    cases hw
    case list hw =>
      exact joined_append_inj rfl (by decide) (fun x hx => hs (hv x hx)) (fun y hy => hs (hw y hy))
        (fun x hx y hy => hi x hx y (hv x hx) (hw y hy)) h

theorem entries_append_inj {es fs : Entries} (hv : IsPlain (.map es)) (hw : IsPlain (.map fs))
    (hi : ∀ e ∈ es, Apart e.2)
    (h : sortedChars (.map es) ++ rest = sortedChars (.map fs) ++ rest') :
    Reordered (.map es) (.map fs) ∧ rest = rest' := by
  have hs (e : Scalar × Value) :
      ∃ c cs, memberChars (e.1, sortedChars e.2) = c :: cs ∧ c ≠ '\x7d' :=
    ⟨_, _, Text.toList_quoted _ _, by decide⟩
  rw [sortedChars_map hv, sortedChars_map hw, written, written, ← byKey_map, ← byKey_map, List.map_map,
    List.map_map] at h
  simp only [List.cons_append, List.append_assoc, List.nil_append, List.cons_inj_right] at h
  cases hv
  case map hk _ hv =>
    cases hw
    case map hk' _ hw =>
      obtain ⟨hef, hrest⟩ := joined_append_inj (R := fun e e' => e.1 = e'.1 ∧ Reordered e.2 e'.2)
        rfl (by decide) (fun e _ => hs e) (fun e _ => hs e) (fun e he e' he' rest rest' =>
          have he := (byKey_perm es).subset he
          have he' := (byKey_perm fs).subset he'
          member_append_inj (hk e.1 (List.mem_map_of_mem he)) (hk' e'.1 (List.mem_map_of_mem he'))
            (hi e he e'.2 (hv e he) (hw e' he'))) h
      exact ⟨Reordered.of_byKey hef, hrest⟩

theorem hereditary_apart : Hereditary Apart where
  scalar s w hv hw rest rest' hr hr' h := by
    have ⟨c, hc, hd⟩ := opens_of_append_eq hv hw h
    rcases same_kind hc hd with ⟨_, t, ⟨⟩, rfl⟩ | ⟨_, _, ⟨⟩, _⟩ | ⟨_, _, ⟨⟩, _⟩
    have ⟨hst, hrest⟩ := scalar_append_inj hv hw hr hr' h
    exact ⟨hst ▸ .scalar s, hrest⟩
  list xs hi w hv hw rest rest' _ _ h := by
    have ⟨c, hc, hd⟩ := opens_of_append_eq hv hw h
    rcases same_kind hc hd with ⟨_, _, ⟨⟩, _⟩ | ⟨_, ys, ⟨⟩, rfl⟩ | ⟨_, _, ⟨⟩, _⟩
    have ⟨hxy, hrest⟩ := items_append_inj hv hw hi h
    exact ⟨.list hxy, hrest⟩
  map es hi w hv hw rest rest' _ _ h := by
    have ⟨c, hc, hd⟩ := opens_of_append_eq hv hw h
    rcases same_kind hc hd with ⟨_, _, ⟨⟩, _⟩ | ⟨_, _, ⟨⟩, _⟩ | ⟨_, fs, ⟨⟩, rfl⟩
    exact entries_append_inj hv hw hi h

-- A plain value can be read back from its document, but for the order within its mappings.
theorem reordered_of_sortedChars_eq (hv : IsPlain v) (hw : IsPlain w)
    (h : sortedChars v = sortedChars w) : Reordered v w :=
  (hereditary_apart.holds v w hv hw [] [] (by rintro _ ⟨⟩) (by rintro _ ⟨⟩) (by rw [h])).left

theorem hereditary_alike : Hereditary fun v => ∀ w, IsPlain v → IsPlain w → Reordered v w →
    sortedChars v = sortedChars w where
  scalar s w _ _ h := by
    cases h
    rfl
  list xs hi w hv hw h := by
    rw [sortedChars_list hv]
    cases h
    case list ys h =>
      rw [sortedChars_list hw]
      cases hv
      case list hv =>
        cases hw
        case list hw =>
          have hxy : xs.map sortedChars = ys.map sortedChars :=
            map_eq_of_forall₂ (forall₂_of_mem h fun x hx y hy => hi x hx y (hv x hx) (hw y hy))
          rw [hxy]
  map es hi w hv hw h := by
    rw [sortedChars_map hv]
    cases h
    case map es' fs hk hr hp =>
      rw [sortedChars_map hw]
      cases hv
      case map _ _ hv =>
        cases hw
        case map htexts hd hw =>
          have hvalues : (es'.map (·.2)).map sortedChars = (fs.map (·.2)).map sortedChars := by
            refine map_eq_of_forall₂ (forall₂_of_mem hr fun v hv' w hw' => ?_)
            have ⟨e, he, hev⟩ := List.mem_map.mp hv'
            have ⟨f, hf, hfw⟩ := List.mem_map.mp hw'
            have he := hp.symm.subset he
            subst hev hfw
            exact hi e he f.2 (hv e he) (hw f hf)
          have hwritten : (written es).Perm (written fs) := written_eq hk hvalues ▸ hp.map _
          rw [← keys_written] at htexts hd
          rw [byKey_eq_of_perm htexts hd hwritten]

theorem sortedChars_eq_iff (hv : IsPlain v) (hw : IsPlain w) :
    sortedChars v = sortedChars w ↔ Reordered v w :=
  ⟨reordered_of_sortedChars_eq hv hw, hereditary_alike.holds v w hv hw⟩

end Json

end FlowGate
