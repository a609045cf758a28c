import ReverseReplication.Proofs.Hazards
import ReverseReplication.Proofs.Reachable

/-!
# What the calls of activities ensure

Rules for the ways in which activities make calls, under hazards: a call whose reply is looked at
(`Step.ensures_call`), one that has to succeed (`Step.ensures_need`), one that removes something
(`Step.ensures_remove`), and the reading of local files (`Step.ensures_readFile`). Each lists the
cases in which such a call may end, with what the managers hold then.

A call is never given up under a detached context, so what undoes something is carried out to its
end.
-/

namespace ReverseReplication

open Inventory (Performed)
open ReverseReplication.Text (Bytes)

variable {hz : Hazards} {files : FileSystem} {inv : Inventory} {σ α : Type} {s : σ}

namespace Hazards

/-- A call may be answered with an error: it is made to fail, or refused. -/
def Denies (hz : Hazards) (inv : Inventory) (c : Call) (e : ManagerError) : Prop :=
  hz.fails c.operation e ∨ inv.perform c = .error e

/-- How a call may be replied to: with an error that changes nothing, or as it is performed. -/
theorem Replies.cases {c : Call} {reply : Except ManagerError c.Reply} {inv' : Inventory}
    (h : hz.Replies inv c reply inv') :
    (∃ e, hz.Denies inv c e ∧ reply = .error e ∧ inv' = inv) ∨
      ∃ r, Performed inv c r inv' ∧ reply = .ok r := by
  cases h with
  | failed hfails => exact .inl ⟨_, .inl hfails, rfl, rfl⟩
  | refused hrefused => exact .inl ⟨_, .inr hrefused, rfl, rfl⟩
  | performed hperform => exact .inr ⟨_, Inventory.performed_of_perform hperform, rfl⟩

/-- Under a detached context nothing is given up. -/
theorem not_givesUp_of_detached {scope : Scope} (h : scope = .detached) : ¬hz.GivesUp scope := by
  rintro ⟨-, hscope⟩
  rw [h] at hscope
  simp at hscope

end Hazards

namespace Step

/-- A call whose reply is looked at. -/
theorem ensures_call {ctx : Context} {c : Call}
    {post : Except ActivityError (Except ManagerError c.Reply) → σ → Inventory → Prop}
    (denied : ∀ e, hz.Denies inv c e → post (.ok (.error e)) s inv)
    (performed : ∀ r inv', Performed inv c r inv' → post (.ok (.ok r)) s inv')
    (stopped : hz.GivesUp ctx.scope → post (.error .cancelled) s inv)
    (lost : hz.GivesUp ctx.scope → hz.loses c.operation →
      ∀ r inv', Performed inv c r inv' → post (.error .cancelled) s inv') :
    (Step.call ctx c).Ensures (hz.rule files) s inv post := by
  unfold Step.call
  rw [ensures_bind, ensures_query]
  intro answer inv' hanswer
  cases answer with
  | some reply =>
    show post (.ok reply) s inv'
    obtain ⟨e, hdenies, rfl, rfl⟩ | ⟨r, hperformed, rfl⟩ := Hazards.Replies.cases hanswer
    · exact denied e hdenies
    · exact performed r inv' hperformed
  | none =>
    show post (.error .cancelled) s inv'
    obtain ⟨hgives, rfl | ⟨hloses, reply, hreply⟩⟩ := hanswer
    · exact stopped hgives
    · obtain ⟨e, -, -, rfl⟩ | ⟨r, hperformed, -⟩ := hreply.cases
      · exact stopped hgives
      · exact lost hgives hloses r inv' hperformed

/-- A call that has to succeed. -/
theorem ensures_need {ctx : Context} {doing : String} {c : Call}
    {post : Except ActivityError c.Reply → σ → Inventory → Prop}
    (performed : ∀ r inv', Performed inv c r inv' → post (.ok r) s inv')
    (failed : ∀ e, post (.error e) s inv)
    (lost : hz.loses c.operation → ∀ r inv', Performed inv c r inv' →
      post (.error .cancelled) s inv') :
    (Step.need ctx doing c).Ensures (hz.rule files) s inv post := by
  unfold Step.need
  rw [ensures_bind]
  apply ensures_call
  · intro e _
    exact failed _
  · intro r inv' hperformed
    exact performed r inv' hperformed
  · intro _
    exact failed _
  · intro _
    exact lost

/-- A call under a detached context that has to succeed. -/
theorem ensures_need_detached {ctx : Context} (hctx : ctx.scope = .detached) {doing : String}
    {c : Call} {post : Except ActivityError c.Reply → σ → Inventory → Prop}
    (performed : ∀ r inv', Performed inv c r inv' → post (.ok r) s inv')
    (failed : ∀ e err, hz.Denies inv c e → post (.error err) s inv) :
    (Step.need ctx doing c).Ensures (hz.rule files) s inv post := by
  have hkept := hz.not_givesUp_of_detached hctx
  unfold Step.need
  rw [ensures_bind]
  apply ensures_call
  · intro e hdenies
    exact failed e _ hdenies
  · exact performed
  · intro hgives
    exact absurd hgives hkept
  · intro hgives
    exact absurd hgives hkept

/-- A call under a detached context that removes something: it is removed, or gone already, or
the call was denied. -/
theorem ensures_remove {ctx : Context} (hctx : ctx.scope = .detached) {doing : String} {c : Call}
    {post : Except ActivityError Unit → σ → Inventory → Prop}
    (performed : ∀ r inv', Performed inv c r inv' → post (.ok ()) s inv')
    (gone : ∀ what, hz.Denies inv c (.notFound what) → post (.ok ()) s inv)
    (failed : ∀ e err, e.isNotFound = false → hz.Denies inv c e → post (.error err) s inv) :
    (Step.remove ctx doing c).Ensures (hz.rule files) s inv post := by
  have hkept := hz.not_givesUp_of_detached hctx
  unfold Step.remove
  rw [ensures_bind]
  apply ensures_call
  · intro e hdenies
    cases e with
    | notFound what => exact gone what hdenies
    | alreadyExists what => exact failed (.alreadyExists what) _ rfl hdenies
    | invalidState detail => exact failed (.invalidState detail) _ rfl hdenies
    | unavailable detail => exact failed (.unavailable detail) _ rfl hdenies
    | cancelled => exact failed .cancelled _ rfl hdenies
  · exact performed
  · intro hgives
    exact absurd hgives hkept
  · intro hgives
    exact absurd hgives hkept

/-- Reading a local file. -/
theorem ensures_readFile {ctx : Context} {doing path : String}
    {post : Except ActivityError Bytes → σ → Inventory → Prop}
    (read : ∀ contents, files path = .ok contents → post (.ok contents) s inv)
    (failed : ∀ e, post (.error e) s inv) :
    (Step.readFile ctx doing path).Ensures (hz.rule files) s inv post := by
  unfold Step.readFile
  rw [ensures_bind, ensures_query]
  intro answer inv' hanswer
  cases answer with
  | some contents =>
    obtain ⟨rfl, rfl⟩ := hanswer
    cases hcontents : files path with
    | ok bytes => exact read bytes hcontents
    | error e => exact failed _
  | none =>
    obtain ⟨rfl, -⟩ := hanswer
    exact failed _

end Step

end ReverseReplication
