import ReverseReplication.Proofs.Calls
import ReverseReplication.Proofs.Settlement.Effects

/-!
# Steps in calm

Where nothing is made to fail and nobody cancels (`Hazards.calm`), a call has one outcome, the one
that the managers give. So a step is followed through by saying at each call what the managers
answer: `Step.ensures_call_performed`, `Step.ensures_call_refused`, and the like for calls that have
to succeed and for local files.

`Step.Settles` says how such a step ends: it succeeds exactly where it finds what it needs.
-/

namespace ReverseReplication

open ReverseReplication.Text (Bytes)

/-- Nothing goes wrong. -/
def Hazards.calm : Hazards where
  fails _ _ := False
  cancels := False
  loses _ := False

variable {files : FileSystem} {inv inv' : Inventory} {σ α : Type} {s : σ} {ctx : Context}
  {c : Call} {doing path : String}

/-- A calm run is not cancelled. -/
theorem Hazards.not_givesUp_calm {scope : Scope} : ¬Hazards.calm.GivesUp scope := fun h => h.1

/-- In calm, a call that the managers perform is replied to as they do. -/
theorem Hazards.Replies.eq_of_performed {reply : Except ManagerError c.Reply} {r : c.Reply}
    {after : Inventory} (h : Hazards.calm.Replies inv c reply after)
    (hc : inv.perform c = .ok (r, inv')) : reply = .ok r ∧ after = inv' := by
  cases h with
  | failed hfails => exact hfails.elim
  | refused hrefused =>
    rw [hc] at hrefused
    cases hrefused
  | performed hperformed =>
    rw [hc] at hperformed
    cases hperformed
    exact ⟨rfl, rfl⟩

/-- In calm, a call that the managers refuse changes nothing. -/
theorem Hazards.Replies.eq_of_refused {reply : Except ManagerError c.Reply} {e : ManagerError}
    {after : Inventory} (h : Hazards.calm.Replies inv c reply after)
    (hc : inv.perform c = .error e) : reply = .error e ∧ after = inv := by
  cases h with
  | failed hfails => exact hfails.elim
  | refused hrefused =>
    rw [hc] at hrefused
    cases hrefused
    exact ⟨rfl, rfl⟩
  | performed hperformed =>
    rw [hc] at hperformed
    cases hperformed

namespace Step

/-! ## Calls -/

/-- In calm, a call is replied to. -/
theorem ensures_call_calm
    {post : Except ActivityError (Except ManagerError c.Reply) → σ → Inventory → Prop}
    (hpost : ∀ reply after, Hazards.calm.Replies inv c reply after → post (.ok reply) s after) :
    (Step.call ctx c).Ensures (Hazards.calm.rule files) s inv post := by
  unfold Step.call
  rw [ensures_bind, ensures_query]
  intro answer after hanswer
  cases answer with
  | some reply => exact hpost reply after hanswer
  | none => exact absurd hanswer.1 Hazards.not_givesUp_calm

/-- A call that the inventory performs is performed. -/
theorem ensures_call_performed {r : c.Reply}
    {post : Except ActivityError (Except ManagerError c.Reply) → σ → Inventory → Prop}
    (hc : inv.perform c = .ok (r, inv')) (hpost : post (.ok (.ok r)) s inv') :
    (Step.call ctx c).Ensures (Hazards.calm.rule files) s inv post := by
  apply ensures_call_calm
  intro reply after hreply
  obtain ⟨rfl, rfl⟩ := hreply.eq_of_performed hc
  exact hpost

/-- A call that the inventory refuses is refused for the same reason. -/
theorem ensures_call_refused {e : ManagerError}
    {post : Except ActivityError (Except ManagerError c.Reply) → σ → Inventory → Prop}
    (hc : inv.perform c = .error e) (hpost : post (.ok (.error e)) s inv) :
    (Step.call ctx c).Ensures (Hazards.calm.rule files) s inv post := by
  apply ensures_call_calm
  intro reply after hreply
  obtain ⟨rfl, rfl⟩ := hreply.eq_of_refused hc
  exact hpost

/-- A call that has to succeed does so if the inventory performs it. -/
theorem ensures_need_performed {r : c.Reply}
    {post : Except ActivityError c.Reply → σ → Inventory → Prop}
    (hc : inv.perform c = .ok (r, inv')) (hpost : post (.ok r) s inv') :
    (Step.need ctx doing c).Ensures (Hazards.calm.rule files) s inv post := by
  unfold Step.need
  rw [ensures_bind]
  exact ensures_call_performed hc hpost

/-- If the inventory refuses the call, the activity fails with the reason. -/
theorem ensures_need_refused {e : ManagerError}
    {post : Except ActivityError c.Reply → σ → Inventory → Prop}
    (hc : inv.perform c = .error e) (hpost : post (.error (.ofManager doing e)) s inv) :
    (Step.need ctx doing c).Ensures (Hazards.calm.rule files) s inv post := by
  unfold Step.need
  rw [ensures_bind]
  exact ensures_call_refused hc hpost

/-- In calm, a local file is read as it is. -/
theorem ensures_readFile_calm {post : Except ActivityError Bytes → σ → Inventory → Prop}
    (hpost : post ((files path).mapError fun e => .external doing (.file e)) s inv) :
    (Step.readFile ctx doing path).Ensures (Hazards.calm.rule files) s inv post := by
  unfold Step.readFile
  rw [ensures_bind, ensures_query]
  intro answer after hanswer
  cases answer with
  | some contents =>
    obtain ⟨rfl, rfl⟩ := hanswer
    cases hfile : files path with
    | ok bytes =>
      rw [hfile] at hpost
      exact hpost
    | error e =>
      rw [hfile] at hpost
      exact hpost
  | none => exact absurd hanswer.2 Hazards.not_givesUp_calm

/-! ## How steps end -/

/-- How a step ends in calm that needs something and then leads to an inventory `after`. Its output
is then as `reports` says. -/
def Settles (needs : Prop) (reports : σ → Prop) (after : Inventory) :
    Except ActivityError Unit → σ → Inventory → Prop
  | .ok _, x, inv => needs ∧ reports x ∧ inv = after
  | .error _, _, _ => ¬needs

/-- When a step has failed that needs something, what is undone then does not matter. -/
theorem undone_settles {R : Plan.Rule Inventory} {undo : Step σ Unit} {needs : Prop}
    {reports : σ → Prop} {after : Inventory} {e : ActivityError} (h : ¬needs) :
    Undone R undo (Settles needs reports after) (.error e) s inv :=
  ensures_of_forall fun _ _ _ => h

end Step

end ReverseReplication
