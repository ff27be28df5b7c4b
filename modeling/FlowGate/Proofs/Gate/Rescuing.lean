import FlowGate.Proofs.Gate.Table
import FlowGate.Proofs.Schema.Respelled

-- The error branch of a configuration that cannot be read as a whole. It is the branch that reading finds in any
-- configuration that can be read and says the same of its error branch.

namespace FlowGate.Action

open Value Schema

variable {m m' : Entries} {a : Action} {x : Option Branch}

-- What a mapping holds for the error branch: the first of its two names that is given counts, also with null.
def heldOnError (m : Entries) : Value := ((Entries.get? m "onError").or (Entries.get? m "on_error")).getD null

theorem held_onError : held m ["onError", "on_error"] null = heldOnError m := by
  rw [held_eq, found_cons, found_cons, found, List.findSome?_nil, Option.or_none, heldOnError]

theorem Reads.onError (h : Reads m a) : optional Branch.read (heldOnError m) = .done a.onError := by
  obtain ⟨_, _, _, _, _, _, _, onError, _⟩ := h
  rwa [held_onError] at onError

theorem rescueBranch_eq (h : optional Branch.read (heldOnError m) = .done x) : rescueBranch (.map m) = x := by
  rw [rescueBranch_map, held_onError, h]
  rfl

-- The error branch of an action, told from a mapping that may not be read as an action itself. Whatever keeps it from
-- being read, it goes the way that the action goes for an error.
structure Rescued (m : Entries) (a : Action) : Prop where
  agrees  : rescueBranch (.map m) = a.onError
  absent  : a.onError = none ↔ heldOnError m = null
  present : ∀ b, a.onError = some b ↔ heldOnError m ≠ null ∧ Branch.read (heldOnError m) = .done b
  routed  : ∀ (g : Gate) (c : Context) (issues : List Issue), read (.map m) = .failed issues →
    ∃ b d, a.branch .onError = .ok b ∧ g.execute c (.raw (.map m)) = (g, .pure (.ok d)) ∧
      Gate.Refused g.now c (fun _ => b) d

theorem read_rescued (h : read (.map m') = .done a) (hcamel : Entries.get? m "onError" = Entries.get? m' "onError")
    (hsnake : Entries.get? m "on_error" = Entries.get? m' "on_error") : Rescued m a := by
  have hheld : heldOnError m = heldOnError m' := by rw [heldOnError, hcamel, hsnake, heldOnError]
  have hread : optional Branch.read (heldOnError m) = .done a.onError := hheld ▸ (ofFields_iff.mp h).onError
  have hrescue : rescueBranch (.map m) = a.onError := rescueBranch_eq hread
  have hrouted (g : Gate) (c : Context) (issues : List Issue) (hfailed : read (.map m) = .failed issues) :
      ∃ b d, a.branch .onError = .ok b ∧ g.execute c (.raw (.map m)) = (g, .pure (.ok d)) ∧
        Gate.Refused g.now c (fun _ => b) d :=
    ⟨a.onError.getD {}, _, rfl, Gate.execute_failed hfailed, Gate.refuse_refused (by rw [hrescue])⟩
  rcases optional_iff.mp hread with ⟨hnull, hnone⟩ | ⟨hgiven, b, hb, hsome⟩
  case inl => exact ⟨hrescue, by simp [hnull, hnone], by simp [hnull, hnone], hrouted⟩
  case inr => exact ⟨hrescue, by simp [hgiven, hsome], by simp [hgiven, hb, hsome], hrouted⟩

-- Both names are given, and the configuration lacks the branch that it has to have.
def lacking : Entries := [
  (.text "onError", .record [("action_ids", .list [.text "alert"])]),
  (.text "on_error", .record [("actionIds", .list [.text "ignore"])])]

def supplied : Entries := (.text "on_true", .map []) :: lacking

theorem lacking_rescued :
    (∃ a, read (.map supplied) = .done a ∧ a.onError = some { actionIds := ["alert"] }) ∧
    Entries.get? lacking "onError" = Entries.get? supplied "onError" ∧
    Entries.get? lacking "on_error" = Entries.get? supplied "on_error" ∧
    rescueBranch (.map lacking) = some { actionIds := ["alert"] } ∧
    ∀ (g : Gate) (c : Context), ∃ d, (g.execute c (.raw (.map lacking))).2.value = some (.ok d) ∧
      d.way = .onError ∧ d.nextActionIds = ["alert"] := by
  obtain ⟨a, ha, ho⟩ : ∃ a, read (.map supplied) = .done a ∧ a.onError = some { actionIds := ["alert"] } :=
    ⟨_, rfl, rfl⟩
  have hcamel : Entries.get? lacking "onError" = Entries.get? supplied "onError" := rfl
  have hsnake : Entries.get? lacking "on_error" = Entries.get? supplied "on_error" := rfl
  obtain ⟨hagrees, _, _, hrouted⟩ := read_rescued ha hcamel hsnake
  refine ⟨⟨a, ha, ho⟩, hcamel, hsnake, hagrees.trans ho, fun g c => ?_⟩
  obtain ⟨b, d, hb, hd, hrefused⟩ := hrouted g c _ rfl
  have hbranch : b = { actionIds := ["alert"] } := by
    rw [branch, ho] at hb
    exact (Except.ok.inj hb).symm
  exact ⟨d, by rw [hd]; rfl, hrefused.way, by rw [hrefused.nextActionIds, hbranch]⟩

end FlowGate.Action
