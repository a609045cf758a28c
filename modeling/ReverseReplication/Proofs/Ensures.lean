import ReverseReplication.Provision.Step

/-!
# What a plan ensures

A `Plan.Rule` says which answers a query may get, and in which states that may leave the world.
`Plan.Ensures` says that a plan ends well however its queries are answered within the rule. So one
proof about a plan covers every world that keeps to the rule (`Plan.Ensures.run`): plain managers,
managers whose calls fail, and managers that other parties interfere with.

`EnsuresFrom` is the same for computations that also keep a memory, and `Step.Ensures` for steps of
activities, which may fail. Their equations follow the shape of a `do` block, so that a step is
taken apart by rewriting.
-/

namespace ReverseReplication

variable {α β σ τ ω : Type}

/-! ## Plans -/

namespace Plan

/-- What may happen when a query is asked in a state: its answer, and the state after it. -/
abbrev Rule (ω : Type) := (q : Query) → ω → q.Answer → ω → Prop

/-- However the queries of a plan are answered within a rule, the plan ends as `post` says. -/
def Ensures (R : Rule ω) : Plan α → ω → (α → ω → Prop) → Prop
  | .done a, w, post => post a w
  | .ask q next, w, post => ∀ answer w', R q w answer w' → (next answer).Ensures R w' post

variable {R : Rule ω} {w : ω}

/-- A plan that ends at once ensures what holds of its result as the world stands. -/
theorem ensures_pure {a : α} {post : α → ω → Prop} :
    (pure a : Plan α).Ensures R w post ↔ post a w := Iff.rfl

/-- A query ensures what holds of every answer that the rule allows. -/
theorem ensures_query {q : Query} {post : q.Answer → ω → Prop} :
    (query q).Ensures R w post ↔ ∀ answer w', R q w answer w' → post answer w' := Iff.rfl

/-- A plan ensures something if its first part ensures that the rest does. -/
theorem ensures_bind {p : Plan α} {f : α → Plan β} {post : β → ω → Prop} :
    (p >>= f).Ensures R w post ↔ p.Ensures R w fun a w' => (f a).Ensures R w' post := by
  show (p.bind f).Ensures R w post ↔ _
  induction p generalizing w with
  | done a => rfl
  | ask q next ih =>
    constructor
    · intro h answer w' hR
      exact (ih answer).1 (h answer w' hR)
    · intro h answer w' hR
      exact (ih answer).2 (h answer w' hR)

/-- What is ensured may be weakened. -/
theorem Ensures.mono {p : Plan α} {post post' : α → ω → Prop} (h : p.Ensures R w post)
    (himp : ∀ a w', post a w' → post' a w') : p.Ensures R w post' := by
  induction p generalizing w with
  | done a => exact himp a w h
  | ask q next ih =>
    intro answer w' hR
    exact ih answer (h answer w' hR)

/-- What holds anyway is ensured by every plan. -/
theorem ensures_of_forall {p : Plan α} {post : α → ω → Prop} (h : ∀ a w', post a w') :
    p.Ensures R w post := by
  induction p generalizing w with
  | done a => exact h a w
  | ask q next ih => exact fun answer w' _ => ih answer

/-- What every query keeps, every plan keeps. -/
theorem ensures_of_invariant {good : ω → Prop}
    (hgood : ∀ q w answer w', R q w answer w' → good w → good w') {p : Plan α} (hw : good w) :
    p.Ensures R w fun _ w' => good w' := by
  induction p generalizing w with
  | done a => exact hw
  | ask q next ih => exact fun answer w' hR => ih answer (hgood q w answer w' hR hw)

/-- What is ensured on two grounds is ensured at once. -/
theorem Ensures.and {p : Plan α} {post post' : α → ω → Prop} (h : p.Ensures R w post)
    (h' : p.Ensures R w post') : p.Ensures R w fun a w' => post a w' ∧ post' a w' := by
  induction p generalizing w with
  | done a => exact ⟨h, h'⟩
  | ask q next ih => exact fun answer w' hR => ih answer (h answer w' hR) (h' answer w' hR)

/-- A world keeps to a rule, as seen through `view`, as long as it satisfies `good`. -/
structure Respects {ω' : Type} (handler : Handler ω') (R : Rule ω) (view : ω' → ω)
    (good : ω' → Prop) : Prop where
  answers : ∀ q w, good w → R q (view w) (handler q w).1 (view (handler q w).2)
  stays : ∀ q w, good w → good (handler q w).2

/-- What a plan ensures holds after running it in any world that keeps to the rule. -/
theorem Ensures.run {ω' : Type} {handler : Handler ω'} {view : ω' → ω} {good : ω' → Prop}
    (hR : Respects handler R view good) {p : Plan α} {w : ω'} (hw : good w)
    {post : α → ω → Prop} (h : p.Ensures R (view w) post) :
    post (p.run handler w).1 (view (p.run handler w).2) ∧ good (p.run handler w).2 := by
  induction p generalizing w with
  | done a => exact ⟨h, hw⟩
  | ask q next ih =>
    exact ih _ (hR.stays q w hw) (h _ _ (hR.answers q w hw))

/-- The rule of a world: a query has the answer that the world gives. -/
def Rule.of (handler : Handler ω) : Rule ω := fun q w answer w' => handler q w = (answer, w')

/-- By the rule of a world, a plan ensures what its run in the world comes to. -/
theorem ensures_of_iff {handler : Handler ω} {p : Plan α} {post : α → ω → Prop} :
    p.Ensures (.of handler) w post ↔ post (p.run handler w).1 (p.run handler w).2 := by
  induction p generalizing w with
  | done a => rfl
  | ask q next ih =>
    constructor
    · intro h
      exact (ih _).1 (h _ _ rfl)
    · intro h answer w' hanswer
      have hstep : (next (handler q w).1).Ensures (.of handler) (handler q w).2 post := (ih _).2 h
      rw [hanswer] at hstep
      exact hstep

/-- What a plan ensures by a rule, it ensures by the rule of every world that keeps to it. -/
theorem Ensures.lift {ω' : Type} {handler : Handler ω'} {view : ω' → ω} {good : ω' → Prop}
    (hR : Respects handler R view good) {p : Plan α} {w : ω'} (hw : good w)
    {post : α → ω → Prop} (h : p.Ensures R (view w) post) :
    p.Ensures (.of handler) w fun a w' => post a (view w') ∧ good w' :=
  ensures_of_iff.2 (h.run hR hw)

end Plan

/-! ## Computations with a memory -/

/-- However the queries of a computation are answered, it ends as `post` says of its result and its
memory. -/
def EnsuresFrom (R : Plan.Rule ω) (x : StateT σ Plan α) (s : σ) (w : ω)
    (post : α → σ → ω → Prop) : Prop :=
  (x.run s).Ensures R w fun result w' => post result.1 result.2 w'

namespace EnsuresFrom

variable {R : Plan.Rule ω} {s : σ} {w : ω}

/-- A computation that ends at once leaves its memory and the world as they are. -/
theorem pure_iff {a : α} {post : α → σ → ω → Prop} :
    EnsuresFrom R (pure a) s w post ↔ post a s w := Iff.rfl

/-- A computation ensures something if its first part ensures that the rest does. -/
theorem bind_iff {x : StateT σ Plan α} {f : α → StateT σ Plan β} {post : β → σ → ω → Prop} :
    EnsuresFrom R (x >>= f) s w post ↔
      EnsuresFrom R x s w fun a s' w' => EnsuresFrom R (f a) s' w' post :=
  Plan.ensures_bind

/-- Looking whether the run is cancelled is a query, and leaves the memory alone. -/
theorem isCancelled_iff {ctx : Context} {post : Bool → σ → ω → Prop} :
    EnsuresFrom R (Cancellable.isCancelled ctx) s w post ↔
      ∀ answer w', R (.cancelled ctx.scope) w answer w' → post answer s w' := Iff.rfl

/-- What is ensured may be weakened. -/
theorem mono {x : StateT σ Plan α} {post post' : α → σ → ω → Prop}
    (h : EnsuresFrom R x s w post) (himp : ∀ a s' w', post a s' w' → post' a s' w') :
    EnsuresFrom R x s w post' :=
  Plan.Ensures.mono h fun result w' => himp result.1 result.2 w'

/-- What is ensured on two grounds is ensured at once. -/
theorem and {x : StateT σ Plan α} {post post' : α → σ → ω → Prop} (h : EnsuresFrom R x s w post)
    (h' : EnsuresFrom R x s w post') :
    EnsuresFrom R x s w fun a s' w' => post a s' w' ∧ post' a s' w' :=
  Plan.Ensures.and h h'

/-- What is ensured by a rule is ensured by the rule of every world that keeps to it. -/
theorem lift {ω' : Type} {handler : Plan.Handler ω'} {view : ω' → ω} {good : ω' → Prop}
    (hR : Plan.Respects handler R view good) {x : StateT σ Plan α} {w : ω'} (hw : good w)
    {post : α → σ → ω → Prop} (h : EnsuresFrom R x s (view w) post) :
    EnsuresFrom (.of handler) x s w fun a s' w' => post a s' (view w') ∧ good w' :=
  Plan.Ensures.lift hR hw h

/-- What holds of everything is ensured by anything. -/
theorem of_forall {x : StateT σ Plan α} {post : α → σ → ω → Prop}
    (h : ∀ a s' w', post a s' w') : EnsuresFrom R x s w post :=
  Plan.ensures_of_forall fun result w' => h result.1 result.2 w'

/-- Postconditions that say the same are ensured alike. -/
theorem congr {x : StateT σ Plan α} {post post' : α → σ → ω → Prop}
    (h : ∀ a s' w', post a s' w' ↔ post' a s' w') :
    EnsuresFrom R x s w post ↔ EnsuresFrom R x s w post' :=
  ⟨fun hx => hx.mono fun a s' w' => (h a s' w').1, fun hx => hx.mono fun a s' w' => (h a s' w').2⟩

end EnsuresFrom

/-! ## Steps of activities -/

namespace Step

/-- However the queries of a step are answered, it ends as `post` says of its result or error and
of its output. -/
def Ensures (R : Plan.Rule ω) (x : Step σ α) (s : σ) (w : ω)
    (post : Except ActivityError α → σ → ω → Prop) : Prop :=
  EnsuresFrom R x.run s w post

variable {R : Plan.Rule ω} {s : σ} {w : ω}

@[simp] theorem ensures_pure {a : α} {post : Except ActivityError α → σ → ω → Prop} :
    (pure a : Step σ α).Ensures R s w post ↔ post (.ok a) s w := Iff.rfl

@[simp] theorem ensures_throw {e : ActivityError} {post : Except ActivityError α → σ → ω → Prop} :
    (throw e : Step σ α).Ensures R s w post ↔ post (.error e) s w := Iff.rfl

@[simp] theorem ensures_get {post : Except ActivityError σ → σ → ω → Prop} :
    (get : Step σ σ).Ensures R s w post ↔ post (.ok s) s w := Iff.rfl

@[simp] theorem ensures_set {s' : σ} {post : Except ActivityError PUnit → σ → ω → Prop} :
    (set s' : Step σ PUnit).Ensures R s w post ↔ post (.ok ()) s' w := Iff.rfl

@[simp] theorem ensures_modify {f : σ → σ} {post : Except ActivityError PUnit → σ → ω → Prop} :
    (modify f : Step σ PUnit).Ensures R s w post ↔ post (.ok ()) (f s) w := Iff.rfl

/-- A query by a step ensures what holds of every answer that the rule allows. -/
@[simp] theorem ensures_query {q : Query} {post : Except ActivityError q.Answer → σ → ω → Prop} :
    (query q : Step σ q.Answer).Ensures R s w post ↔
      ∀ answer w', R q w answer w' → post (.ok answer) s w' := Iff.rfl

/-- What a step does after `x`, by the result of `x`. -/
def After (R : Plan.Rule ω) (f : α → Step σ β) (post : Except ActivityError β → σ → ω → Prop) :
    Except ActivityError α → σ → ω → Prop
  | .ok a, s, w => (f a).Ensures R s w post
  | .error e, s, w => post (.error e) s w

@[simp] theorem after_ok {f : α → Step σ β} {post : Except ActivityError β → σ → ω → Prop} {a : α} :
    After R f post (.ok a) s w ↔ (f a).Ensures R s w post := Iff.rfl

@[simp] theorem after_error {f : α → Step σ β} {post : Except ActivityError β → σ → ω → Prop}
    {e : ActivityError} : After R f post (.error e) s w ↔ post (.error e) s w := Iff.rfl

/-- Steps one after the other: the first ensures what comes after it. -/
@[simp] theorem ensures_bind {x : Step σ α} {f : α → Step σ β}
    {post : Except ActivityError β → σ → ω → Prop} :
    (x >>= f).Ensures R s w post ↔ x.Ensures R s w (After R f post) := by
  unfold Ensures
  rw [ExceptT.run_bind, EnsuresFrom.bind_iff]
  refine EnsuresFrom.congr fun r s' w' => ?_
  cases r with
  | ok a => rfl
  | error e => rfl

/-- What a step does when `x` has failed. -/
def Caught (R : Plan.Rule ω) (f : ActivityError → Step σ α)
    (post : Except ActivityError α → σ → ω → Prop) : Except ActivityError α → σ → ω → Prop
  | .ok a, s, w => post (.ok a) s w
  | .error e, s, w => (f e).Ensures R s w post

@[simp] theorem caught_ok {f : ActivityError → Step σ α}
    {post : Except ActivityError α → σ → ω → Prop} {a : α} :
    Caught R f post (.ok a) s w ↔ post (.ok a) s w := Iff.rfl

@[simp] theorem caught_error {f : ActivityError → Step σ α}
    {post : Except ActivityError α → σ → ω → Prop} {e : ActivityError} :
    Caught R f post (.error e) s w ↔ (f e).Ensures R s w post := Iff.rfl

/-- Postconditions that say the same are ensured alike by steps. -/
theorem ensures_congr {x : Step σ α} {post post' : Except ActivityError α → σ → ω → Prop}
    (h : ∀ r s' w', post r s' w' ↔ post' r s' w') :
    x.Ensures R s w post ↔ x.Ensures R s w post' :=
  EnsuresFrom.congr h

/-- A step with a handler ensures what the step does where it succeeds, and what the handler does
where it fails. -/
theorem ensures_tryCatch {x : Step σ α} {f : ActivityError → Step σ α}
    {post : Except ActivityError α → σ → ω → Prop} :
    (tryCatch x f : Step σ α).Ensures R s w post ↔ x.Ensures R s w (Caught R f post) := by
  change EnsuresFrom R (ExceptT.tryCatch x f).run s w post ↔ _
  unfold ExceptT.tryCatch ExceptT.run ExceptT.mk
  rw [EnsuresFrom.bind_iff]
  refine EnsuresFrom.congr fun r s' w' => ?_
  cases r with
  | ok a => rfl
  | error e => rfl

/-- What is ensured may be weakened. -/
theorem Ensures.mono {x : Step σ α} {post post' : Except ActivityError α → σ → ω → Prop}
    (h : x.Ensures R s w post) (himp : ∀ r s' w', post r s' w' → post' r s' w') :
    x.Ensures R s w post' :=
  EnsuresFrom.mono h himp

/-- What holds of all results and outputs is ensured by any step. -/
theorem ensures_of_forall {x : Step σ α} {post : Except ActivityError α → σ → ω → Prop}
    (h : ∀ r s' w', post r s' w') : x.Ensures R s w post :=
  EnsuresFrom.of_forall h

/-- What a step with an undo does, by the result of the step: where it has failed, the undo is
carried out, and its own result is dropped. -/
def Undone (R : Plan.Rule ω) (undo : Step σ Unit) (post : Except ActivityError α → σ → ω → Prop) :
    Except ActivityError α → σ → ω → Prop
  | .ok a, s, w => post (.ok a) s w
  | .error e, s, w => undo.Ensures R s w fun _ s' w' => post (.error e) s' w'

/-- A step with an undoing ensures what the step does where it succeeds. Where it fails, the undoing
has to ensure it, and the error is the one of the step. -/
theorem ensures_undoing {undo : Step σ Unit} {x : Step σ α}
    {post : Except ActivityError α → σ → ω → Prop} :
    (undoing undo x).Ensures R s w post ↔ x.Ensures R s w (Undone R undo post) := by
  unfold undoing
  rw [ensures_tryCatch]
  refine EnsuresFrom.congr fun r s' w' => ?_
  cases r with
  | ok a => rfl
  | error e =>
    rw [caught_error, ensures_bind, ensures_tryCatch]
    refine ensures_congr fun r' s'' w'' => ?_
    cases r' with
    | ok a =>
      rw [caught_ok]
      rfl
    | error e' =>
      rw [caught_error]
      rfl

/-- A step on a part of a larger output. -/
theorem ensuresFrom_within {part : Part τ σ} {x : Step σ Unit} {whole : τ}
    {post : Except ActivityError Unit → τ → ω → Prop} :
    EnsuresFrom R (within part x) whole w post ↔
      x.Ensures R (part.get whole) w fun r s' w' => post r (part.set s' whole) w' :=
  Plan.ensures_bind

end Step

/-! ## Sagas -/

/-- How the activities that are left are carried out, by what becomes of the first of them. -/
theorem ensuresFrom_executeFrom {R : Plan.Rule ω} {s : σ} {w : ω} {rollback : Bool} {ctx : Context}
    {a : Activity (StateT σ Plan)} {completed rest : List (Activity (StateT σ Plan))}
    {post : Except SagaError Nat → σ → ω → Prop}
    (h : EnsuresFrom R (Saga.attempt ctx a) s w fun r s' w' => match r with
      | .ok _ => EnsuresFrom R (Saga.executeFrom rollback ctx (a :: completed) rest) s' w' post
      | .error cause =>
        EnsuresFrom R (if rollback then Saga.compensate ctx.detach completed else pure []) s' w'
          fun failures s'' w'' =>
            post (.error ⟨completed.length, a.name, cause, failures⟩) s'' w'') :
    EnsuresFrom R (Saga.executeFrom rollback ctx completed (a :: rest)) s w post := by
  rw [Saga.executeFrom, EnsuresFrom.bind_iff]
  refine h.mono ?_
  rintro (cause | u) s' w' hends
  · cases rollback with
    | false => exact hends
    | true => exact EnsuresFrom.bind_iff.2 hends
  · exact hends

end ReverseReplication
