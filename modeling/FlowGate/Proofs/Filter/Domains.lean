import FlowGate.Proofs.Condition.Mail
import FlowGate.Proofs.Filter.Built
import FlowGate.Proofs.Filter.Transformation

-- Mail addresses at certain domains. The address is looked at twice, once as a whole and once for its domain. Both
-- times it is changed before, and neither change makes an address of what is none or takes the domain of another.

namespace FlowGate

open Value Text

variable {e : Engine} {c : Context} {path s : String} {domains : List String}
  {cs taken rest name domain : List Char}

namespace Text

abbrev IsAscii (cs : List Char) : Prop := ∀ c ∈ cs, c.toNat < 0x80

theorem toLower_part : ∀ n < 0x80, isAddressPart [Char.ofNat n] = true →
    isAddressPart [(Char.ofNat n).toLower] = true := by
  decide +kernel

theorem lowerAfter_ascii (before : List Char) (h : IsAscii cs) : lowerAfter before cs = cs.map Char.toLower := by
  induction cs generalizing before
  case nil => rfl
  case cons c cs hi =>
    obtain ⟨hc, hcs⟩ := List.forall_mem_cons.mp h
    have hsigma : c ≠ 'Σ' := by rintro rfl; revert hc; decide
    have hdotted : c ≠ 'İ' := by rintro rfl; revert hc; decide
    rw [lowerAfter, lowerAfter.lowered, if_neg hsigma, if_neg hdotted, lowerOne, if_pos hc, hi _ hcs]
    rfl

theorem IsPart.toLower (h : IsPart cs) (ha : IsAscii cs) : IsPart (cs.map Char.toLower) := by
  refine ⟨by simpa using h.left, ?_⟩
  have hpart := h.right
  have hone (x : Char) (hx : x ∈ cs) := toLower_part x.toNat (ha x hx)
  simp only [isAddressPart, List.all_map, List.all_eq_true] at hpart ⊢
  simp only [Char.ofNat_toNat, isAddressPart, List.all_cons, List.all_nil, Bool.and_true] at hone
  exact fun x hx => hone x hx (hpart x hx)

theorem IsAddress.toLower (h : IsAddress cs) (ha : IsAscii cs) : IsAddress (cs.map Char.toLower) := by
  obtain ⟨name, host, top, rfl, hname, hhost, htop⟩ := isAddress_iff_parts.mp h
  simp only [IsAscii, List.forall_mem_append, List.forall_mem_cons] at ha
  obtain ⟨hn, -, hh, -, ht⟩ := ha
  rw [List.map_append, List.map_cons, List.map_append, List.map_cons]
  exact isAddress_iff_parts.mpr ⟨_, _, _, rfl, hname.toLower hn, hhost.toLower hh, htop.toLower ht⟩

-- A line break behind an address is all that is stripped of a text with one.
theorem toList_strip_address (h : IsAddress taken) (hs : s.toList = taken ++ rest) (hr : rest = [] ∨ rest = ['\n']) :
    (strip s).toList = taken := by
  have hne : taken ≠ [] := by
    rintro rfl
    cases h.single
  obtain ⟨x, xs, rfl⟩ := List.exists_cons_of_ne_nil hne
  have hfront : (x :: xs ++ rest).dropWhile isBlank = x :: xs ++ rest :=
    List.dropWhile_cons_of_neg (by simp [h.blankless x (.head _)])
  have hback : (x :: xs).rdropWhile isBlank = x :: xs :=
    List.rdropWhile_eq_self_iff.mpr fun hl => by simp [h.blankless _ (List.getLast_mem hl)]
  rw [toList_strip, hs, hfront]
  rcases hr with rfl | rfl
  · rw [List.append_nil, hback]
  · rw [List.rdropWhile_concat_pos _ _ _ (by decide), hback]

theorem composed_ascii (h : IsAscii s.toList) : composed s = s :=
  composed_of_lt (List.forall_mem_map.mpr fun c hc => (h c hc).trans (by decide))

theorem normal_address (h : IsAddress (withoutFinalBreak s.toList)) (ha : IsAscii s.toList) :
    IsAddress (normal s).toList := by
  obtain ⟨taken, rest, hs, htaken, hrest⟩ := isAddress_withoutFinalBreak_iff.mp h
  have hascii : IsAscii taken := fun c hc => ha c (hs ▸ List.mem_append_left _ hc)
  rw [normal, composed_ascii ha, lower, String.toList_ofList, toList_strip_address htaken hs hrest,
    lowerAfter_ascii [] hascii]
  exact htaken.toLower hascii

theorem count_at_of_address (h : IsAddress (withoutFinalBreak cs)) : cs.count '@' = 1 := by
  obtain ⟨taken, rest, rfl, htaken, hrest⟩ := isAddress_withoutFinalBreak_iff.mp h
  rw [List.count_append, htaken.single]
  rcases hrest with rfl | rfl <;> rfl

-- What follows the at sign of an address is its domain.
theorem exists_domain (h : IsAddress (withoutFinalBreak cs)) : ∃ name domain, cs = name ++ '@' :: domain := by
  have hat : '@' ∈ cs := List.count_pos_iff.mp (by rw [count_at_of_address h]; exact Nat.one_pos)
  exact List.append_of_mem hat

theorem not_mem_domain (h : IsAddress (withoutFinalBreak cs)) (hs : cs = name ++ '@' :: domain) : '@' ∉ domain := by
  have hcount := count_at_of_address h
  rw [hs, List.count_append, List.count_cons_self] at hcount
  exact List.count_eq_zero.mp (by omega)

end Text

namespace Rules

-- What an address has to be before it is compared.
def mail : Rules := { required := true, dataType := some .string, customValidator := some "isValidEmail" }

theorem mail_typeProblems (v : Value) :
    ∃ types, mail.typeProblems v = .ok types ∧ ∀ s, v = text s → types = [] := by
  rw [typeProblems]
  cases h : v.isNothing
  case true  => exact ⟨[], rfl, fun _ _ => rfl⟩
  case false => exact ⟨_, rfl, by rintro s rfl; rfl⟩

theorem mail_ownProblems (v : Value) :
    ∃ own, mail.ownProblems v = .ok own ∧ ∀ s, v = text s → s ≠ "" → own = [] := by
  obtain ⟨types, ht, htext⟩ := mail_typeProblems v
  have hlength : mail.lengthProblems v = [] := by
    rw [lengthProblems]
    cases length? v <;> rfl
  have hpattern : mail.patternProblems v = .ok [] := rfl
  rw [ownProblems, ht, hlength, hpattern]
  refine ⟨_, rfl, ?_⟩
  rintro s rfl hs
  simp [lacksRequired, isNothing, htext s rfl, hs]

theorem mail_problems (hv : e.registry.validator? "isValidEmail" = some Builtin.validEmail) (v : Value) :
    (mail.problems e.registry v).value = .ok [] ↔ ∃ s, v = text s ∧ Text.isAddress s = true := by
  obtain ⟨own, ho, htext⟩ := mail_ownProblems v
  rw [problems, ho]
  simp only [Logged.map, customProblems_isValidEmail (r := mail) rfl hv, Except.map]
  constructor
  case mp =>
    intro h
    obtain ⟨-, hcustom⟩ := List.append_eq_nil_iff.mp (Except.ok.inj h)
    have htake : Builtin.ofText v Text.isAddress = true := by
      by_contra hno
      rw [if_neg hno] at hcustom
      cases hcustom
    unfold Builtin.ofText at htake
    split at htake
    case h_1 s => exact ⟨s, rfl, htake⟩
    case h_2   => cases htake
  case mpr =>
    rintro ⟨s, rfl, hs⟩
    have hne : s ≠ "" := by
      rintro rfl
      cases hs
    simp [htext s rfl hne, Builtin.ofText, hs]

end Rules

namespace Builder

-- A domain as it is listed, without the signs before it and in small letters.
def listed (domain : String) : String :=
  Text.lower (String.ofList (domain.toList.dropWhile (· == '@')))

theorem domainTexts_eq (domains : List String) :
    domainTexts (domains.map text) = .ok ((domains.map listed).map text) := by
  induction domains
  case nil => rfl
  case cons d rest hi =>
    rw [List.map_cons, domainTexts, hi]
    rfl

theorem extractDomain_eq (params : Entries) (hs : s.toList = name ++ '@' :: domain) (hd : '@' ∉ domain) :
    Builtin.extractDomain (text s) params = .ok (text (Text.lower (String.ofList domain))) := by
  have hlast : (s.toList.reverse.takeWhile (· != '@')).reverse = domain := by
    rw [hs, List.reverse_append, List.reverse_cons, List.append_assoc, List.takeWhile_append_of_pos]
    · simp
    · exact fun x hx => bne_iff_ne.mpr fun he => hd (he ▸ List.mem_reverse.mp hx)
  have hat : s.toList.contains '@' = true := by simp [hs]
  have htext : (text s).asText = .ok s := display_text s
  simp only [Builtin.extractDomain, htext, bind, Except.bind, hlast, hat, if_pos]
  rfl

theorem isIn_texts {x : String} {xs : List String} : Comparison.isIn (text x) (list (xs.map text)) = true ↔ x ∈ xs := by
  simp [Comparison.isIn, strictEquals, same, Scalar.same]

-- The values that are addresses at one of the domains.
def Whitelisted (domains : List String) (v : Value) : Prop :=
  ∃ s name domain, v = text s ∧ IsAddress (withoutFinalBreak s.toList) ∧ s.toList = name ++ '@' :: domain ∧
    lower (String.ofList domain) ∈ domains.map listed

-- The two filters of the group.
def mailFilter (path : String) : Filter :=
  plain "Email Validation" path .matchesRegex (text mailPattern) (some .mail) (some { kind := .normalize })

def domainFilter (path : String) (domains : List String) : Filter :=
  plain "Domain Whitelist" path .isIn (list ((domains.map listed).map text)) none
    (some { kind := .custom, customFunction := some "extractDomain" })

theorem mailFilter_passes (hv : e.registry.validator? "isValidEmail" = some Builtin.validEmail)
    (ha : ∀ s, c.resolveField path = text s → IsAscii s.toList) :
    (mailFilter path).passes e c = true ↔
      ∃ s, c.resolveField path = text s ∧ IsAddress (withoutFinalBreak s.toList) := by
  rw [mailFilter, Filter.passes_changing]
  simp only [Option.mem_some_iff, forall_eq', Rules.mail_problems hv, isAddress_eq]
  refine ⟨And.left, fun h => ⟨h, ?_⟩⟩
  obtain ⟨s, hs, h⟩ := h
  have hplain : Context.placeholder? mailPattern = none := by decide
  have hvalue : c.resolveValue (text mailPattern) = text mailPattern := by simp only [Context.resolveValue, hplain]
  rw [hs, hvalue]
  refine ⟨text (normal s), Transformation.apply_text rfl, ?_⟩
  have hfound : Pattern.Node.address.atStart.found (normal s).toList = true :=
    Pattern.Node.found_address.mpr ⟨_, [], (List.append_nil _).symm, normal_address h (ha s hs)⟩
  rw [← hfound]
  exact Comparison.matchesRegex_of_read (display_text _) (display_text _) Pattern.Node.read_address

theorem domainFilter_passes (ht : e.registry.transform? "extractDomain" = some Builtin.extractDomain)
    (hp : c.resolveField path = text s) (hs : s.toList = name ++ '@' :: domain) (hd : '@' ∉ domain) :
    (domainFilter path domains).passes e c = true ↔ lower (String.ofList domain) ∈ domains.map listed := by
  have hchange : (Transformation.apply e.registry { kind := .custom, customFunction := some "extractDomain" }
      (text s)).value = .ok (text (lower (String.ofList domain))) := by
    have h : Transformation.apply e.registry { kind := .custom, customFunction := some "extractDomain" } (text s) =
        ⟨[.transform "extractDomain"], Builtin.extractDomain (text s) []⟩ := by
      simp [Transformation.apply, Transformation.ofText?, isNothing, ht]
    rw [h, extractDomain_eq [] hs hd]
  have hcompare (x : String) : e.comparer.applyFilter (.known .isIn) (text x)
      (c.resolveValue (list ((domains.map listed).map text))) =
      .ok (Comparison.isIn (text x) (list ((domains.map listed).map text))) := rfl
  rw [domainFilter, Filter.passes_changing, hp, hchange]
  simp only [hcompare, Except.ok.injEq, exists_eq_left', isIn_texts, Option.not_mem_none, false_implies, implies_true,
    true_and]

theorem emailFilter_eq (hp : path ≠ "") (hd : domains ≠ []) :
    emailFilter (text path) (list (domains.map text)) =
      .ok (.inr (allOf "Email with Domain Check" [mailFilter path, domainFilter path domains])) := by
  have htruthy : (list (domains.map text)).truthy = true := by
    cases domains
    case nil  => exact absurd rfl hd
    case cons => rfl
  have hparts : (list (domains.map text)).parts = .ok (domains.map text) := rfl
  simp only [emailFilter, plainFilter_eq hp, htruthy, hparts, domainTexts_eq, Build.ofFault, Except.mapError, bind,
    Except.bind]
  rfl

-- A group of two filters passes if both of them do. What passes the first is an address, and an address has one at
-- sign, so the domain that the second one takes is the one that the address is at.
theorem emailFilter_admits (hv : e.registry.validator? "isValidEmail" = some Builtin.validEmail)
    (ht : e.registry.transform? "extractDomain" = some Builtin.extractDomain) (hp : path ≠ "") (hd : domains ≠ [])
    (ha : ∀ s, c.resolveField path = text s → IsAscii s.toList) :
    ∃ g, emailFilter (text path) (list (domains.map text)) = .ok (.inr g) ∧ ∀ options,
      ((g.run e c options).value.passed = true ↔ Whitelisted domains (c.resolveField path)) := by
  refine ⟨_, emailFilter_eq hp hd, fun options => ?_⟩
  have hready : ∀ f ∈ [mailFilter path, domainFilter path domains], f.Valid ∧ f.isEnabled = true :=
    List.forall_mem_cons.mpr ⟨plain_ready hp, List.forall_mem_singleton.mpr (plain_ready hp)⟩
  rw [allOf_passed _ hready, List.forall_mem_cons, List.forall_mem_singleton, mailFilter_passes hv ha]
  constructor
  case mp =>
    rintro ⟨⟨s, hs, haddress⟩, hpass⟩
    obtain ⟨name, domain, hparts⟩ := exists_domain haddress
    have hlisted := (domainFilter_passes ht hs hparts (not_mem_domain haddress hparts)).mp hpass
    exact ⟨s, name, domain, hs, haddress, hparts, hlisted⟩
  case mpr =>
    rintro ⟨s, name, domain, hs, haddress, hparts, hlisted⟩
    exact ⟨⟨s, hs, haddress⟩, (domainFilter_passes ht hs hparts (not_mem_domain haddress hparts)).mpr hlisted⟩

-- Capital letters make no difference, and an address at another domain does not pass.
theorem ada_admitted :
    Condition.checking.registry.validator? "isValidEmail" = some Builtin.validEmail ∧
    Condition.checking.registry.transform? "extractDomain" = some Builtin.extractDomain ∧
    ∃ g, emailFilter (text "user.email") (list [text "@Example.com"]) = .ok (.inr g) ∧
      (g.run Condition.checking (Condition.holding "Ada@EXAMPLE.com") {}).value.passed = true ∧
      (g.run Condition.checking (Condition.holding "ada@example.org") {}).value.passed = false := by
  have hv : Condition.checking.registry.validator? "isValidEmail" = some Builtin.validEmail := rfl
  have ht : Condition.checking.registry.transform? "extractDomain" = some Builtin.extractDomain := rfl
  have hp : "user.email" ≠ "" := by decide
  have hd : ["@Example.com"] ≠ [] := by decide
  have hheld (s : String) : (Condition.holding s).resolveField "user.email" = text s := rfl
  have admits (s : String) (ha : IsAscii s.toList) :=
    emailFilter_admits (c := Condition.holding s) hv ht hp hd fun t h => by cases (hheld s).symm.trans h; exact ha
  obtain ⟨g, hb, hada⟩ := admits "Ada@EXAMPLE.com" (by simp [IsAscii])
  obtain ⟨_, hb', horg⟩ := admits "ada@example.org" (by simp [IsAscii])
  cases hb.symm.trans hb'
  refine ⟨hv, ht, g, hb, (hada {}).mpr ?_, ?_⟩
  · exact ⟨_, "Ada".toList, "EXAMPLE.com".toList, hheld _, isAddress_eq.mp (by decide), by decide, by decide⟩
  · rw [← Bool.not_eq_true, horg {}, hheld]
    rintro ⟨s, name, domain, hs, haddress, hparts, hlisted⟩
    cases hs
    have htaken : Builtin.extractDomain (text "ada@example.org") [] = .ok (text "example.org") := rfl
    have hdomain := htaken.symm.trans (extractDomain_eq [] hparts (not_mem_domain haddress hparts))
    rw [← Scalar.text.inj (scalar.inj (Except.ok.inj hdomain))] at hlisted
    revert hlisted
    decide

end Builder

end FlowGate
