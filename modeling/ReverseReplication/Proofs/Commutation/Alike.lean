import ReverseReplication.Proofs.Settlement.Calm

/-!
# Two runs side by side

In calm, the managers answer a query in one way (`Inventory.answer`), so a plan has one run from
each state, and any world in calm has that run (`DisturbedWorld.run_of_calm`).

`Plan.Alike S V p p'` says of two plans that, run from states that are related by `S`, they come to
results that are related by `V`, and to states that are related by `S` again. `AlikeFrom` is the
same for computations that also keep a memory, and `Step.Alike` for steps of activities: they end
in the same error, or in related results. The rules follow the shape of a `do` block; for sagas, it
is enough that every activity is alike (`Saga.alike_execute`).
-/

namespace ReverseReplication

variable {α α' β β' σ σ' τ : Type}

/-! ## Calm managers -/

/-- How managers in calm answer a call, and what they hold then. -/
def Inventory.serve (inv : Inventory) (c : Call) : Except ManagerError c.Reply × Inventory :=
  match inv.perform c with
  | .ok (reply, inv') => (.ok reply, inv')
  | .error e => (.error e, inv)

/-- A call that is performed is answered with its reply. -/
theorem Inventory.serve_ok {inv inv' : Inventory} {c : Call} {reply : c.Reply}
    (h : inv.perform c = .ok (reply, inv')) : inv.serve c = (.ok reply, inv') := by
  rw [serve, h]

/-- A call that is refused is answered with the error, and changes nothing. -/
theorem Inventory.serve_error {inv : Inventory} {c : Call} {e : ManagerError}
    (h : inv.perform c = .error e) : inv.serve c = (.error e, inv) := by
  rw [serve, h]

/-- How managers in calm answer a query. -/
def Inventory.answer (files : FileSystem) : Plan.Handler Inventory
  | .cancelled _, inv => (false, inv)
  | .call c, inv => inv.serve c
  | .guarded _ c, inv => (some (inv.serve c).1, (inv.serve c).2)
  | .file _ path, inv => (some (files path), inv)

/-- In calm, a reply is the one that the managers give. -/
theorem Hazards.Replies.serve_eq {inv inv' : Inventory} {c : Call}
    {reply : Except ManagerError c.Reply} (h : Hazards.calm.Replies inv c reply inv') :
    inv.serve c = (reply, inv') := by
  cases h with
  | failed hfails => exact hfails.elim
  | refused hrefused => exact Inventory.serve_error hrefused
  | performed hperformed => exact Inventory.serve_ok hperformed

/-- In calm, there is one way to answer. -/
theorem Hazards.answer_of_calm {files : FileSystem} {q : Query} {inv inv' : Inventory}
    {answer : q.Answer} (h : Hazards.calm.rule files q inv answer inv') :
    inv.answer files q = (answer, inv') := by
  cases q with
  | cancelled scope =>
    obtain ⟨rfl, hseen⟩ := h
    cases answer with
    | true => exact absurd (hseen rfl) not_givesUp_calm
    | false => rfl
  | call c => exact h.serve_eq
  | guarded scope c =>
    cases answer with
    | some reply =>
      have hserve := Replies.serve_eq h
      simp only [Inventory.answer, hserve]
    | none => exact absurd h.1 not_givesUp_calm
  | file scope path =>
    cases answer with
    | some contents =>
      obtain ⟨rfl, rfl⟩ := h
      rfl
    | none => exact absurd h.2 not_givesUp_calm

/-- In calm, a plan has one run, whatever the world is otherwise. -/
theorem DisturbedWorld.run_of_calm {d : DisturbedWorld} (hwithin : d.Within .calm)
    (p : Plan α) :
    (p.run DisturbedWorld.answer d).1 =
        (p.run (Inventory.answer d.world.files) d.inventory).1 ∧
      (p.run DisturbedWorld.answer d).2.inventory =
        (p.run (Inventory.answer d.world.files) d.inventory).2 := by
  have hrespects : Plan.Respects DisturbedWorld.answer (.of (Inventory.answer d.world.files))
      inventory fun d' => d'.Within .calm ∧ d'.world.files = d.world.files :=
    ⟨fun q w hw => Hazards.answer_of_calm ((respects .calm d.world.files).answers q w hw),
      (respects .calm d.world.files).stays⟩
  have hensures : p.Ensures (.of (Inventory.answer d.world.files)) d.inventory fun a inv =>
      a = (p.run (Inventory.answer d.world.files) d.inventory).1 ∧
        inv = (p.run (Inventory.answer d.world.files) d.inventory).2 :=
    Plan.ensures_of_iff.2 ⟨rfl, rfl⟩
  exact (hensures.run hrespects ⟨hwithin, rfl⟩).1

/-! ## Plans -/

variable {files : FileSystem} {S : Inventory → Inventory → Prop}

namespace Plan

/-- From related states, the plans come to related results and to related states. -/
def Alike (files : FileSystem) (S : Inventory → Inventory → Prop) (V : α → α' → Prop)
    (p : Plan α) (p' : Plan α') : Prop :=
  ∀ inv inv', S inv inv' →
    V (p.run (Inventory.answer files) inv).1 (p'.run (Inventory.answer files) inv').1 ∧
      S (p.run (Inventory.answer files) inv).2 (p'.run (Inventory.answer files) inv').2

/-- Plans that end at once are alike if their results are related. -/
theorem alike_pure {V : α → α' → Prop} {a : α} {a' : α'} (h : V a a') :
    Alike files S V (pure a) (pure a') := fun _ _ hS => ⟨h, hS⟩

/-- Plans are alike if they begin alike, and go on alike from related results. -/
theorem alike_bind {V : α → α' → Prop} {W : β → β' → Prop} {p : Plan α} {p' : Plan α'}
    {f : α → Plan β} {f' : α' → Plan β'} (hp : Alike files S V p p')
    (hf : ∀ a a', V a a' → Alike files S W (f a) (f' a')) :
    Alike files S W (p >>= f) (p' >>= f') := by
  intro inv inv' hS
  obtain ⟨hV, hS'⟩ := hp inv inv' hS
  rw [run_bind, run_bind]
  exact hf _ _ hV _ _ hS'

end Plan

/-! ## Computations with a memory -/

/-- From related memories, the computations come to related results and memories. -/
def AlikeFrom (files : FileSystem) (S : Inventory → Inventory → Prop) (O : σ → σ' → Prop)
    (V : α → α' → Prop) (x : StateT σ Plan α) (x' : StateT σ' Plan α') : Prop :=
  ∀ s s', O s s' →
    Plan.Alike files S (fun r r' => V r.1 r'.1 ∧ O r.2 r'.2) (x.run s) (x'.run s')

namespace AlikeFrom

variable {O : σ → σ' → Prop}

/-- Computations that end at once are alike if their results are related, whatever they remember. -/
theorem pure {V : α → α' → Prop} {a : α} {a' : α'} (h : V a a') :
    AlikeFrom files S O V (Pure.pure a) (Pure.pure a') :=
  fun _ _ hO => Plan.alike_pure ⟨h, hO⟩

/-- Computations are alike if they begin alike, and go on alike from related results. -/
theorem bind {V : α → α' → Prop} {W : β → β' → Prop} {x : StateT σ Plan α}
    {x' : StateT σ' Plan α'} {f : α → StateT σ Plan β} {f' : α' → StateT σ' Plan β'}
    (hx : AlikeFrom files S O V x x') (hf : ∀ a a', V a a' → AlikeFrom files S O W (f a) (f' a')) :
    AlikeFrom files S O W (x >>= f) (x' >>= f') := by
  intro s s' hO
  rw [StateT.run_bind, StateT.run_bind]
  exact Plan.alike_bind (hx s s' hO) fun r r' hr => hf _ _ hr.1 _ _ hr.2

end AlikeFrom

/-! ## Steps -/

/-- The same error, or related results. -/
inductive Agreeing {ε : Type} (V : α → α' → Prop) : Except ε α → Except ε α' → Prop
  | ok {a : α} {a' : α'} : V a a' → Agreeing V (.ok a) (.ok a')
  | error (e : ε) : Agreeing V (.error e) (.error e)

/-- Results that agree up to equality are equal. -/
theorem Agreeing.eq {ε : Type} {r r' : Except ε α} (h : Agreeing Eq r r') : r = r' := by
  cases h with
  | ok h => rw [h]
  | error e => rfl

namespace Step

/-- From related outputs, the steps fail in the same way or come to related results, and to related
outputs. -/
def Alike (files : FileSystem) (S : Inventory → Inventory → Prop) (O : σ → σ' → Prop)
    (V : α → α' → Prop) (x : Step σ α) (x' : Step σ' α') : Prop :=
  AlikeFrom files S O (Agreeing V) x.run x'.run

variable {O : σ → σ' → Prop} {V : α → α' → Prop} {W : β → β' → Prop}

/-- Steps that succeed at once are alike if their results are related. -/
theorem alike_pure {a : α} {a' : α'} (h : V a a') :
    Alike files S O V (pure a) (pure a') := AlikeFrom.pure (.ok h)

/-- Steps that fail at once with the same error are alike. -/
theorem alike_throw (e : ActivityError) :
    Alike files S O V (throw e) (throw e) := AlikeFrom.pure (.error e)

/-- Related outputs are read as related results. -/
theorem alike_get : Alike files S O O get get :=
  fun _ _ hO => Plan.alike_pure ⟨.ok hO, hO⟩

/-- Related outputs may be written over whatever was there. -/
theorem alike_set {s : σ} {s' : σ'} (h : O s s') :
    Alike files S O (fun _ _ => True) (set s) (set s') :=
  fun _ _ _ => Plan.alike_pure ⟨.ok trivial, h⟩

/-- Changing related outputs in a way that relates them again keeps steps alike. -/
theorem alike_modify {f : σ → σ} {f' : σ' → σ'} (h : ∀ s s', O s s' → O (f s) (f' s')) :
    Alike files S O (fun _ _ => True) (modify f) (modify f') :=
  fun s s' hO => Plan.alike_pure ⟨.ok trivial, h s s' hO⟩

/-- Steps one after the other are alike: if the first fails, it does so in both, with one error. -/
theorem alike_bind {x : Step σ α} {x' : Step σ' α'} {f : α → Step σ β} {f' : α' → Step σ' β'}
    (hx : Alike files S O V x x') (hf : ∀ a a', V a a' → Alike files S O W (f a) (f' a')) :
    Alike files S O W (x >>= f) (x' >>= f') := by
  unfold Alike
  rw [ExceptT.run_bind, ExceptT.run_bind]
  refine AlikeFrom.bind hx fun r r' hr => ?_
  cases hr with
  | ok h => exact hf _ _ h
  | error e => exact AlikeFrom.pure (.error e)

/-- Steps that branch in the same way are alike if their branches are. -/
theorem alike_ite {c : Prop} [Decidable c] {x y : Step σ α} {x' y' : Step σ' α'}
    (hx : c → Alike files S O V x x') (hy : ¬c → Alike files S O V y y') :
    Alike files S O V (if c then x else y) (if c then x' else y') := by
  split
  next hc => exact hx hc
  next hc => exact hy hc

/-- What is caught is the same error, so steps are alike if they handle every error alike. -/
theorem alike_tryCatch {x : Step σ α} {x' : Step σ' α'} {f : ActivityError → Step σ α}
    {f' : ActivityError → Step σ' α'} (hx : Alike files S O V x x')
    (hf : ∀ e, Alike files S O V (f e) (f' e)) :
    Alike files S O V (tryCatch x f) (tryCatch x' f') := by
  change AlikeFrom files S O (Agreeing V) (ExceptT.tryCatch x f).run (ExceptT.tryCatch x' f').run
  unfold ExceptT.tryCatch ExceptT.run ExceptT.mk
  refine AlikeFrom.bind hx fun r r' hr => ?_
  cases hr with
  | ok h => exact AlikeFrom.pure (.ok h)
  | error e => exact hf e

/-- Undoing what a step has done when it fails keeps steps alike, whether the undoing succeeds or
not. -/
theorem alike_undoing {undo : Step σ Unit} {undo' : Step σ' Unit} {x : Step σ α} {x' : Step σ' α'}
    (hundo : Alike files S O (fun _ _ => True) undo undo') (hx : Alike files S O V x x') :
    Alike files S O V (undoing undo x) (undoing undo' x') := by
  refine alike_tryCatch hx fun e => alike_bind (V := fun _ _ => True) ?_ fun _ _ _ => alike_throw e
  exact alike_tryCatch hundo fun _ => alike_pure trivial

/-! ### Calls -/

/-- From related states, two calls are replied to with the same error or with related replies, and
leave related states. -/
def Served (S : Inventory → Inventory → Prop) (c c' : Call) (V : c.Reply → c'.Reply → Prop) :
    Prop :=
  ∀ inv inv', S inv inv' → Agreeing V (inv.serve c).1 (inv'.serve c').1 ∧
    S (inv.serve c).2 (inv'.serve c').2

/-- The call is refused only if what it is to remove is not there. -/
def Removes (c : Call) : Prop :=
  ∀ {inv : Inventory} {e : ManagerError}, inv.perform c = .error e → ∃ what, e = .notFound what

variable {ctx ctx' : Context} {c c' : Call} {doing doing' path : String}

/-- Calls that are served alike make alike steps, even if the steps look at their errors. -/
theorem alike_call {V : c.Reply → c'.Reply → Prop} (h : Served S c c' V) :
    Alike files S O (Agreeing V) (call ctx c) (call ctx' c') := by
  intro s s' hO inv inv' hS
  obtain ⟨hreply, hS'⟩ := h inv inv' hS
  exact ⟨⟨.ok hreply, hO⟩, hS'⟩

/-- So do calls that have to succeed: their errors are the same in both steps. -/
theorem alike_need {V : c.Reply → c'.Reply → Prop} (h : Served S c c' V) :
    Alike files S O V (need ctx doing c) (need ctx' doing c') := by
  refine alike_bind (alike_call h) fun r r' hr => ?_
  cases hr with
  | ok h => exact alike_pure h
  | error e => exact alike_throw _

/-- A call that removes something succeeds either way. -/
theorem alike_remove (hc : Removes c) (hc' : Removes c')
    (h : ∀ inv inv', S inv inv' → S (inv.serve c).2 (inv'.serve c').2) :
    Alike files S O (fun _ _ => True) (remove ctx doing c) (remove ctx' doing' c') := by
  have hends : ∀ {ctx : Context} {c : Call} {doing : String} {υ : Type}, Removes c →
      ∀ (s : υ) inv, ((remove ctx doing c).run.run s).run (Inventory.answer files) inv =
        ((.ok (), s), (inv.serve c).2) := by
    intro ctx c doing υ hc s inv
    show ((_ : Step υ Unit).run.run s).run (Inventory.answer files) (inv.serve c).2 = _
    cases hperform : inv.perform c with
    | ok done =>
      rw [Inventory.serve_ok hperform]
      rfl
    | error e =>
      obtain ⟨what, rfl⟩ := hc hperform
      rw [Inventory.serve_error hperform]
      rfl
  intro s s' hO inv inv' hS
  rw [hends hc, hends hc']
  exact ⟨⟨.ok trivial, hO⟩, h inv inv' hS⟩

/-- Taking back what the output claims, and claiming it no more. -/
theorem alike_takeBack {O : σ → σ → Prop} {claims : σ → Bool} {doing : σ → String} {c : σ → Call}
    {cleared : σ → σ} (hc : ∀ s, Removes (c s))
    (hclaims : ∀ s s', O s s' → claims s = claims s')
    (hremoved : ∀ s s', O s s' → claims s = true → ∀ inv inv', S inv inv' →
      S (inv.serve (c s)).2 (inv'.serve (c s')).2)
    (hcleared : ∀ s s', O s s' → O (cleared s) (cleared s')) :
    Alike files S O (fun _ _ => True)
      (do
        let s ← get
        if claims s then
          remove ctx (doing s) (c s)
          set (cleared s) : Step σ Unit)
      (do
        let s ← get
        if claims s then
          remove ctx' (doing s) (c s)
          set (cleared s) : Step σ Unit) := by
  refine alike_bind alike_get fun s s' hs => ?_
  rw [← hclaims s s' hs]
  refine alike_ite (fun hclaimed => ?_) fun _ => alike_pure trivial
  refine alike_bind (V := fun _ _ => True) ?_ fun _ _ _ => alike_set (hcleared s s' hs)
  exact alike_remove (hc s) (hc s') (hremoved s s' hs hclaimed)

/-- Local files do not change. -/
theorem alike_readFile :
    Alike files S O (fun contents contents' => contents = contents' ∧ files path = .ok contents)
      (readFile ctx doing path) (readFile ctx' doing path) := by
  have hquery : Alike files S O (fun answer answer' => some (files path) = answer ∧
      some (files path) = answer') (query (.file ctx.scope path)) (query (.file ctx'.scope path)) :=
    fun _ _ hO _ _ hS => ⟨⟨.ok ⟨rfl, rfl⟩, hO⟩, hS⟩
  refine alike_bind hquery ?_
  rintro _ _ ⟨rfl, rfl⟩
  show Alike files S O _ (pure (files path) >>= _) (pure (files path) >>= _)
  rw [pure_bind, pure_bind]
  cases hfile : files path with
  | ok contents => exact alike_pure ⟨rfl, rfl⟩
  | error e => exact alike_throw _

/-! ### Parts of outputs -/

/-- A step on part of an output, as a computation on the whole of it. The whole is related if its
parts are. -/
theorem alike_within {T : τ → τ → Prop} {O : σ → σ → Prop} {part : Part τ σ}
    {x x' : Step σ Unit} (hx : Alike files S O (fun _ _ => True) x x')
    (hget : ∀ whole whole', T whole whole' → O (part.get whole) (part.get whole'))
    (hset : ∀ whole whole' s s', T whole whole' → O s s' →
      T (part.set s whole) (part.set s' whole')) :
    AlikeFrom files S T (Agreeing Eq) (within part x) (within part x') := by
  intro whole whole' hT
  refine Plan.alike_bind (hx _ _ (hget whole whole' hT)) ?_
  rintro ⟨r, s⟩ ⟨r', s'⟩ ⟨hr, hO⟩
  refine Plan.alike_pure ⟨?_, hset whole whole' s s' hT hO⟩
  cases hr with
  | ok h => exact .ok rfl
  | error e => exact .error e

end Step

/-! ## Sagas -/

namespace Saga

/-- The two steps of an activity are alike, whenever the runs have begun. -/
structure Alike (files : FileSystem) (S : Inventory → Inventory → Prop) (T : τ → τ → Prop)
    (a : Activity (StateT τ Plan)) : Prop where
  transaction : ∀ ctx ctx',
    AlikeFrom files S T (Agreeing Eq) (a.transaction ctx) (a.transaction ctx')
  compensation : ∀ ctx ctx',
    AlikeFrom files S T (Agreeing Eq) (a.compensation ctx) (a.compensation ctx')

variable {T : τ → τ → Prop}

/-- An attempt at an activity is alike in two runs: neither is cancelled, and the transactions are
alike. -/
theorem alike_attempt {a : Activity (StateT τ Plan)} (ha : Alike files S T a)
    (ctx ctx' : Context) :
    AlikeFrom files S T (Agreeing Eq) (attempt ctx a) (attempt ctx' a) := by
  -- Neither run is cancelled.
  exact fun s s' hT inv inv' hS => ha.transaction ctx ctx' s s' hT inv inv' hS

/-- Compensations of the same activities are alike: the same ones fail, with the same errors. -/
theorem alike_compensate {done : List (Activity (StateT τ Plan))}
    (hdone : ∀ a ∈ done, Alike files S T a) (ctx ctx' : Context) :
    AlikeFrom files S T Eq (compensate ctx done) (compensate ctx' done) := by
  induction done with
  | nil => exact AlikeFrom.pure rfl
  | cons a earlier ih =>
    refine AlikeFrom.bind ((hdone a List.mem_cons_self).compensation ctx ctx') fun r r' hr => ?_
    refine AlikeFrom.bind (ih fun b hb => hdone b (List.mem_cons_of_mem a hb)) ?_
    rintro failures _ rfl
    obtain rfl := hr.eq
    cases r with
    | ok u => exact AlikeFrom.pure rfl
    | error e => exact AlikeFrom.pure rfl

/-- From activities that are alike in both directions, the rest of a saga is alike. -/
theorem alike_executeFrom {rollback : Bool} {done rest : List (Activity (StateT τ Plan))}
    (hdone : ∀ a ∈ done, Alike files S T a) (hrest : ∀ a ∈ rest, Alike files S T a)
    (ctx ctx' : Context) :
    AlikeFrom files S T Eq (executeFrom rollback ctx done rest)
      (executeFrom rollback ctx' done rest) := by
  induction rest generalizing done with
  | nil => exact AlikeFrom.pure rfl
  | cons a rest ih =>
    have ha := hrest a List.mem_cons_self
    refine AlikeFrom.bind (alike_attempt ha ctx ctx') fun r r' hr => ?_
    obtain rfl := hr.eq
    -- Both sagas go on, or both fail here and are rolled back.
    cases r with
    | ok u =>
      refine ih (fun b hb => ?_) fun b hb => hrest b (List.mem_cons_of_mem a hb)
      rcases List.mem_cons.1 hb with rfl | hb
      · exact ha
      · exact hdone b hb
    | error cause =>
      cases rollback with
      | false => exact AlikeFrom.pure rfl
      | true =>
        refine AlikeFrom.bind (alike_compensate hdone ctx.detach ctx'.detach) ?_
        rintro failures _ rfl
        exact AlikeFrom.pure rfl

/-- A saga of activities that are alike is alike. -/
theorem alike_execute {rollback : Bool} {activities : List (Activity (StateT τ Plan))}
    (h : ∀ a ∈ activities, Alike files S T a) (ctx ctx' : Context) :
    AlikeFrom files S T Eq (execute rollback ctx activities) (execute rollback ctx' activities) :=
  alike_executeFrom (fun _ hmem => absurd hmem List.not_mem_nil) h ctx ctx'

end Saga

end ReverseReplication
