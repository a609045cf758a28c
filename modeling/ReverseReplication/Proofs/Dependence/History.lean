import ReverseReplication.Proofs.Ensures

/-!
# What a plan asks, and what it passes through

Some plans only make calls of certain operations (`Plan.AsksOnly`, `Step.AsksOnly`). Whatever these
operations keep, such a plan keeps, however it ends (`Plan.AsksOnly.ensures`).

To speak of the states between two queries, a rule is followed with a record: a `History` is the
state that a plan has come to, with those after each query so far. What a plan ensures by a rule it
ensures by the rule with a record (`Plan.Ensures.recording`), and what its operations keep holds of
everything that it passes through (`Plan.AsksOnly.ensures_recording`).
-/

namespace ReverseReplication

variable {α β σ τ ω : Type}

/-- The call that a query is about. -/
def Query.call? : Query → Option Call
  | .call c => some c
  | .guarded _ c => some c
  | .cancelled _ => none
  | .file .. => none

/-! ## The operations of a plan -/

namespace Plan

variable {ops : List Operation} {R : Rule ω} {w : ω}

/-- A plan makes calls of the operations only. -/
def AsksOnly (ops : List Operation) : Plan α → Prop
  | .done _ => True
  | .ask q next =>
    (∀ c, q.call? = some c → c.operation ∈ ops) ∧ ∀ answer, (next answer).AsksOnly ops

/-- A plan asks only for the operations that its first part and every continuation ask for. -/
theorem asksOnly_bind {p : Plan α} {f : α → Plan β} (hp : p.AsksOnly ops)
    (hf : ∀ a, (f a).AsksOnly ops) : (p >>= f).AsksOnly ops := by
  show (p.bind f).AsksOnly ops
  induction p with
  | done a => exact hf a
  | ask q next ih => exact ⟨hp.1, fun answer => ih answer (hp.2 answer)⟩

/-- What queries of the operations keep, a plan keeps that asks no others. -/
theorem AsksOnly.ensures {good : ω → Prop} {p : Plan α} (hp : p.AsksOnly ops)
    (hgood : ∀ q w answer w', (∀ c, q.call? = some c → c.operation ∈ ops) →
      R q w answer w' → good w → good w')
    (hw : good w) : p.Ensures R w fun _ w' => good w' := by
  induction p generalizing w with
  | done a => exact hw
  | ask q next ih =>
    intro answer w' hanswer
    exact ih answer (hp.2 answer) (hgood q w answer w' hp.1 hanswer hw)

end Plan

namespace Step

variable {ops : List Operation} {ctx : Context} {c : Call} {doing path : String}

/-- A step makes calls of the operations only, whatever its output is at first. -/
def AsksOnly (ops : List Operation) (x : Step σ α) : Prop := ∀ s, (x.run.run s).AsksOnly ops

theorem asksOnly_pure (a : α) : (pure a : Step σ α).AsksOnly ops := fun _ => trivial

theorem asksOnly_throw (e : ActivityError) : (throw e : Step σ α).AsksOnly ops := fun _ => trivial

theorem asksOnly_get : (get : Step σ σ).AsksOnly ops := fun _ => trivial

theorem asksOnly_set (s : σ) : (set s : Step σ PUnit).AsksOnly ops := fun _ => trivial

theorem asksOnly_modify (f : σ → σ) : (modify f : Step σ PUnit).AsksOnly ops := fun _ => trivial

/-- Steps one after the other ask only for what each of them asks for. -/
theorem asksOnly_bind {x : Step σ α} {f : α → Step σ β} (hx : x.AsksOnly ops)
    (hf : ∀ a, (f a).AsksOnly ops) : (x >>= f).AsksOnly ops := by
  intro s
  rw [ExceptT.run_bind, StateT.run_bind]
  refine Plan.asksOnly_bind (hx s) ?_
  rintro ⟨e | a, s'⟩
  · exact trivial
  · exact hf a s'

/-- A step that handles errors may ask for what the handler asks for. -/
theorem asksOnly_tryCatch {x : Step σ α} {f : ActivityError → Step σ α} (hx : x.AsksOnly ops)
    (hf : ∀ e, (f e).AsksOnly ops) : (tryCatch x f : Step σ α).AsksOnly ops := by
  intro s
  change ((ExceptT.tryCatch x f).run.run s).AsksOnly ops
  unfold ExceptT.tryCatch ExceptT.run ExceptT.mk
  rw [StateT.run_bind]
  refine Plan.asksOnly_bind (hx s) ?_
  rintro ⟨e | a, s'⟩
  · exact hf e s'
  · exact trivial

/-- A step that is undone when it fails may ask for what the undoing asks for. -/
theorem asksOnly_undoing {undo : Step σ Unit} {x : Step σ α} (hundo : undo.AsksOnly ops)
    (hx : x.AsksOnly ops) : (undoing undo x).AsksOnly ops := by
  refine asksOnly_tryCatch hx fun e => asksOnly_bind ?_ fun _ => asksOnly_throw e
  exact asksOnly_tryCatch hundo fun _ => asksOnly_pure ()

theorem asksOnly_orCancelled (a : Option α) : (orCancelled a : Step σ α).AsksOnly ops := by
  cases a with
  | some a => exact asksOnly_pure a
  | none => exact asksOnly_throw _

/-- A call asks for its operation. -/
theorem asksOnly_call (op : Operation) (hc : c.operation = op) (hop : op ∈ ops) :
    (call ctx c : Step σ _).AsksOnly ops := by
  refine asksOnly_bind (fun s => ⟨?_, fun _ => trivial⟩) asksOnly_orCancelled
  intro c' hc'
  cases hc'
  rw [hc]
  exact hop

/-- So does a call that has to succeed. -/
theorem asksOnly_need (op : Operation) (hc : c.operation = op) (hop : op ∈ ops) :
    (need ctx doing c : Step σ _).AsksOnly ops := by
  refine asksOnly_bind (asksOnly_call op hc hop) ?_
  rintro (e | reply)
  · exact asksOnly_throw _
  · exact asksOnly_pure reply

/-- So does a call that removes something. -/
theorem asksOnly_remove (op : Operation) (hc : c.operation = op) (hop : op ∈ ops) :
    (remove ctx doing c : Step σ Unit).AsksOnly ops := by
  refine asksOnly_bind (asksOnly_call op hc hop) fun reply => ?_
  split
  next => exact asksOnly_pure ()
  next => exact asksOnly_pure ()
  next => exact asksOnly_throw _

/-- Reading a local file is no call. -/
theorem asksOnly_readFile : (readFile ctx doing path : Step σ _).AsksOnly ops := by
  refine asksOnly_bind (fun s => ⟨?_, fun _ => trivial⟩) fun answer =>
    asksOnly_bind (asksOnly_orCancelled answer) ?_
  · intro c hc
    cases hc
  · rintro (e | contents)
    · exact asksOnly_throw _
    · exact asksOnly_pure contents

/-- A step on a part of a larger output asks what the step asks. -/
theorem asksOnly_within {part : Part τ σ} {x : Step σ Unit} (hx : x.AsksOnly ops) (whole : τ) :
    ((within part x).run whole).AsksOnly ops :=
  Plan.asksOnly_bind (hx (part.get whole)) fun _ => trivial

end Step

/-! ## Rules with a record -/

/-- The state that a plan has come to, and those after each query so far, in their order. -/
structure History (ω : Type) where
  now : ω
  passed : List ω := []

namespace Plan

variable {R : Rule ω} {h : History ω}

/-- A rule, with a record of the states. -/
def Rule.recording (R : Rule ω) : Rule (History ω) := fun q h answer h' =>
  R q h.now answer h'.now ∧ h'.passed = h.passed ++ [h'.now]

/-- What is ensured by a rule is ensured by one that, seen through `view`, says no less. -/
theorem Ensures.refine {ω' : Type} {R' : Rule ω'} {view : ω' → ω}
    (hR : ∀ q w answer w', R' q w answer w' → R q (view w) answer (view w')) {p : Plan α} {w : ω'}
    {post : α → ω → Prop} (hp : p.Ensures R (view w) post) :
    p.Ensures R' w fun a w' => post a (view w') := by
  induction p generalizing w with
  | done a => exact hp
  | ask q next ih =>
    intro answer w' hanswer
    exact ih answer (hp answer (view w') (hR q w answer w' hanswer))

/-- A record changes nothing. -/
theorem Ensures.recording {p : Plan α} {post : α → ω → Prop} (hp : p.Ensures R h.now post) :
    p.Ensures R.recording h fun a h' => post a h'.now :=
  hp.refine fun _ _ _ _ hanswer => hanswer.1

/-- What the operations of a plan keep holds of all that the plan passes through. -/
theorem AsksOnly.ensures_recording {ops : List Operation} {good passable : ω → Prop} {p : Plan α}
    (hp : p.AsksOnly ops)
    (hgood : ∀ q w answer w', (∀ c, q.call? = some c → c.operation ∈ ops) →
      R q w answer w' → good w → good w')
    (hpassable : ∀ w, good w → passable w) (hnow : good h.now)
    (hpassed : ∀ w ∈ h.passed, passable w) :
    p.Ensures R.recording h fun _ h' => good h'.now ∧ ∀ w ∈ h'.passed, passable w := by
  refine hp.ensures ?_ ⟨hnow, hpassed⟩
  rintro q h answer h' hasked ⟨hanswer, hrecord⟩ ⟨hnow, hpassed⟩
  have hthen := hgood q h.now answer h'.now hasked hanswer hnow
  refine ⟨hthen, fun w hw => ?_⟩
  rw [hrecord, List.mem_append, List.mem_singleton] at hw
  rcases hw with hw | rfl
  · exact hpassed w hw
  · exact hpassable _ hthen

end Plan

/-- A record changes nothing of what a computation with a memory ensures. -/
theorem EnsuresFrom.recording {R : Plan.Rule ω} {h : History ω} {s : σ} {x : StateT σ Plan α}
    {post : α → σ → ω → Prop} (hx : EnsuresFrom R x s h.now post) :
    EnsuresFrom R.recording x s h fun a s' h' => post a s' h'.now :=
  Plan.Ensures.recording hx

end ReverseReplication
