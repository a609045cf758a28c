import ReverseReplication.Proofs.Halting.Traces
import ReverseReplication.Provision.Pipeline

/-!
# What the steps of a failing transaction ensure

Rules for the ways in which transactions ask, with the traces that they leave. Plain calls and local
files keep what is `Trace.Kept`, however they are answered. A call with a lasting effect keeps that
nothing was created, unless it succeeds (`Step.ensures_lasting`). And when something was created,
taking it back restores what was there before (`Step.ensures_takeBack_traced`), because under a
detached context the call is neither given up nor refused.
-/

namespace ReverseReplication

open Inventory (Performed)
open ReverseReplication.Text (Bytes)

variable {hz : Hazards} {files : FileSystem} {t : Trace} {start : Inventory} {blank : Prop}
  {x : Holding} {σ : Type} {s : σ} {ctx : Context} {c undo : Call}

/-- Plain queries leave all alone that matters, however they are answered. -/
theorem Hazards.rule_steady {q : Query} {inv inv' : Inventory} {answer : q.Answer}
    (h : hz.rule files q inv answer inv')
    (hq : ∀ c, q.call? = some c → c.operation ∈ .writeObject :: plain) : inv.Steady inv' := by
  rcases rule_performs h with rfl | ⟨c, r, hc, hperform⟩
  · exact .refl _
  · exact (Inventory.performed_of_perform hperform).steady (hq c hc)

namespace Step

/-! ## Plain queries -/

section plain

variable {good : Trace → Prop} (hkept : Trace.Kept good) (hgood : good t)

include hkept hgood

/-- A plain query keeps what is kept. -/
theorem ensures_plain_query {q : Query} (hq : ∀ c, q.call? = some c → c.operation ∈ Hazards.plain)
    {post : Except ActivityError q.Answer → σ → Trace → Prop}
    (h : ∀ answer t', good t' → post (.ok answer) s t') :
    (query q : Step σ q.Answer).Ensures (hz.rule files).traced s t post := by
  rw [ensures_query]
  rintro answer t' ⟨hanswer, hpush⟩
  have hsteady := Hazards.rule_steady hanswer fun c hc => List.mem_cons_of_mem _ (hq c hc)
  rw [hpush]
  exact h answer _ (hkept t q answer _ hq hsteady hgood)

/-- So does a plain call. -/
theorem ensures_plain_call (hc : c.operation ∈ Hazards.plain)
    {post : Except ActivityError (Except ManagerError c.Reply) → σ → Trace → Prop}
    (h : ∀ result t', good t' → post result s t') :
    (call ctx c).Ensures (hz.rule files).traced s t post := by
  unfold call
  rw [ensures_bind]
  apply ensures_plain_query hkept hgood
  · rintro _ ⟨⟩
    exact hc
  · rintro (answer | reply) t' hgood'
    · exact h _ t' hgood'
    · exact h _ t' hgood'

/-- So does a plain call that has to succeed. -/
theorem ensures_plain_need (hc : c.operation ∈ Hazards.plain) {doing : String}
    {post : Except ActivityError c.Reply → σ → Trace → Prop}
    (h : ∀ result t', good t' → post result s t') :
    (need ctx doing c).Ensures (hz.rule files).traced s t post := by
  unfold need
  rw [ensures_bind]
  apply ensures_plain_call hkept hgood hc
  rintro (e | e | reply) t' hgood'
  · exact h _ t' hgood'
  · exact h _ t' hgood'
  · exact h _ t' hgood'

/-- So does reading a local file. -/
theorem ensures_plain_readFile {doing path : String}
    {post : Except ActivityError Bytes → σ → Trace → Prop}
    (h : ∀ result t', good t' → post result s t') :
    (readFile ctx doing path).Ensures (hz.rule files).traced s t post := by
  unfold readFile
  rw [ensures_bind]
  apply ensures_plain_query hkept hgood
  · exact nofun
  · rintro (_ | _ | contents) t' hgood'
    · exact h _ t' hgood'
    · exact h _ t' hgood'
    · exact h _ t' hgood'

/-- So does reading a tuning file, hosted or local. -/
theorem ensures_plain_readTuningFile {path : String}
    {post : Except ActivityError Bytes → σ → Trace → Prop}
    (h : ∀ result t', good t' → post result s t') :
    (readTuningFile ctx path).Ensures (hz.rule files).traced s t post := by
  unfold readTuningFile
  dsimp only
  split
  next =>
    apply ensures_plain_need hkept hgood
    · simp [Call.operation, Hazards.plain]
    · exact h
  next => exact ensures_plain_readFile hkept hgood h

/-- So does reading a tuning. -/
theorem ensures_plain_loadTuning {path : String}
    {post : Except ActivityError Tuning → σ → Trace → Prop}
    (h : ∀ result t', good t' → post result s t') :
    (loadTuning ctx path).Ensures (hz.rule files).traced s t post := by
  unfold loadTuning
  split
  next => exact h _ t hgood
  next =>
    rw [ensures_bind]
    apply ensures_plain_readTuningFile hkept hgood
    rintro (e | contents) t' hgood'
    · exact h _ t' hgood'
    · rw [after_ok]
      split
      next => exact h _ t' hgood'
      next => exact h _ t' hgood'

end plain

/-! ## Calls that create something, or take it back -/

/-- A call whose effect outlives the transaction. Where it succeeds, it is known what it does, and
where it is given up, the transaction halts. -/
theorem ensures_lasting (h : t.Begun start blank) (hc : c.operation ∈ Hazards.lasting)
    (hforth : ¬c.Undoes)
    {post : Except ActivityError (Except ManagerError c.Reply) → σ → Trace → Prop}
    (denied : ∀ e t', t'.Begun start blank → post (.ok (.error e)) s t')
    (performed : ∀ r after, Performed t.now c r after →
      post (.ok (.ok r)) s (t.push (.guarded ctx.scope c) (some (.ok r)) after))
    (cut : ∀ t', t'.Halted start blank → post (.error .cancelled) s t') :
    (call ctx c).Ensures (hz.rule files).traced s t post := by
  have hbuilds : ∀ {answer : (Query.guarded ctx.scope c).Answer} {after : Inventory},
      ¬(⟨.guarded ctx.scope c, answer, t.now, after⟩ : Event).Succeeds →
        (t.push (.guarded ctx.scope c) answer after).Builds start blank := by
    intro answer after hfailed
    refine h.toBuilds.push_same ?_ fun hsticks => hfailed hsticks.1
    rintro _ ⟨⟩
    exact hforth
  apply ensures_call_traced
  · intro e _
    exact denied e _ ⟨hbuilds id, h.untouched⟩
  · intro r after hperformed _
    exact performed r after hperformed
  · intro _
    exact cut _ (Trace.Begun.halted ⟨hbuilds id, h.untouched⟩)
  · intro _ _ r after _ _
    have hpushed : (t.push (.guarded ctx.scope c) none after).Builds start blank := hbuilds id
    refine cut _ ⟨fun hanswered => ?_, .inl hpushed.undoesNothing, hpushed.blank_iff⟩
    -- Where no reply to a lasting call is lost, a call that was given up has changed nothing.
    have hkept : after = t.now := Classical.byContradiction fun hchanged =>
      hanswered _ (Trace.mem_events_push.2 (.inr rfl)) ⟨c, rfl, hc⟩ hchanged
    rw [Trace.now_push, hkept]
    exact h.untouched

/-- A call that creates something, which another call can take back. -/
theorem ensures_creating {x : c.Reply → Holding} {undo : c.Reply → Call} {blank' : Prop}
    (h : t.Begun start blank) (hc : c.operation ∈ Hazards.creations)
    (hreverts : ∀ r, c.Reverts r (x r) (undo r)) (hblank : blank' ↔ blank ∧ ¬c.Sticks start)
    {post : Except ActivityError (Except ManagerError c.Reply) → σ → Trace → Prop}
    (denied : ∀ e t', t'.Begun start blank → post (.ok (.error e)) s t')
    (created : ∀ r after t', Performed t.now c r after → t'.Made start (x r) (undo r) blank' →
      post (.ok (.ok r)) s t')
    (cut : ∀ t', t'.Halted start blank → post (.error .cancelled) s t') :
    (call ctx c).Ensures (hz.rule files).traced s t post := by
  apply ensures_lasting h (List.mem_cons_of_mem _ hc) (Call.not_undoes_of_creations hc) denied
  · intro r after hperformed
    exact created r after _ hperformed (h.made hperformed (hreverts r) hblank)
  · exact cut

/-- Taking back what was created, and giving up the claim to it, brings the transaction to its
end. -/
theorem ensures_takeBack_traced {claims : σ → Bool} {doing : σ → String} {c : σ → Call}
    {cleared : σ → σ} (hctx : ctx.scope = .detached) (hmade : t.Made start x (c s) blank)
    (hclaim : claims s = true) :
    (do
      let s ← get
      if claims s then
        remove ctx (doing s) (c s)
        set (cleared s) : Step σ Unit).Ensures (Hazards.abrupt.rule files).traced s t
      fun _ s' t' => s' = cleared s ∧ t'.Halted start blank := by
  have hattentive := Hazards.abrupt.not_givesUp_of_detached hctx
  rw [ensures_bind, ensures_get, after_ok, if_pos hclaim]
  unfold remove
  rw [ensures_bind, ensures_bind]
  apply ensures_call_traced
  · rintro e (hfails | hrefused)
    · exact absurd hmade.created.operation_undo hfails
    · exact absurd hrefused (hmade.created.accepted e)
  · intro r after hperformed _
    exact ⟨rfl, hmade.halted hperformed⟩
  · intro hgives
    exact absurd hgives hattentive
  · intro hgives
    exact absurd hgives hattentive

end Step

end ReverseReplication
