import ReverseReplication.Interference
import ReverseReplication.Proofs.Ensures

/-!
# What can go wrong around queries

`Hazards` says what others may do to the queries of a run: which calls may be made to fail and how,
whether the run may be cancelled, and which calls may be given up after they have happened.
`Hazards.rule` is the rule for plans that follows. A disturbed world is `Within` some hazards if
its probe and its hooks do nothing else, and then it keeps to the rule (`DisturbedWorld.respects`).

Hooks within hazards leave what the managers hold alone, and the local files: they only cancel, and
change which calls fail. The clock of the launcher is part of what the managers hold, so it stands
still during a run.
-/

namespace ReverseReplication

/-- What others may do to the queries of a run. -/
structure Hazards where
  /-- May a call of the operation be made to fail with the error? -/
  fails : Operation → ManagerError → Prop
  /-- May the run be cancelled? -/
  cancels : Prop
  /-- May a call of the operation be given up after it has happened, so that its reply is lost? -/
  loses : Operation → Prop

namespace Hazards

variable (hz : Hazards)

/-- May what the scope guards be given up? -/
def GivesUp (scope : Scope) : Prop := hz.cancels ∧ scope = .cancellable

/-- How a call may be replied to, and what the managers hold then. -/
inductive Replies (inv : Inventory) (c : Call) : Except ManagerError c.Reply → Inventory → Prop
  /-- The call was made to fail. -/
  | failed {e : ManagerError} : hz.fails c.operation e → Replies inv c (.error e) inv
  /-- The manager refused the call. -/
  | refused {e : ManagerError} : inv.perform c = .error e → Replies inv c (.error e) inv
  | performed {reply : c.Reply} {inv' : Inventory} :
    inv.perform c = .ok (reply, inv') → Replies inv c (.ok reply) inv'

/-- How queries may be answered, and what the managers hold then. -/
def rule (files : FileSystem) : Plan.Rule Inventory
  | .cancelled scope, inv, seen, inv' => inv' = inv ∧ (seen = true → hz.GivesUp scope)
  | .call c, inv, reply, inv' => hz.Replies inv c reply inv'
  | .guarded _ c, inv, some reply, inv' => hz.Replies inv c reply inv'
  | .guarded scope c, inv, none, inv' =>
    hz.GivesUp scope ∧
      (inv' = inv ∨ hz.loses c.operation ∧ ∃ reply, hz.Replies inv c reply inv')
  | .file _ path, inv, some contents, inv' => inv' = inv ∧ contents = files path
  | .file scope _, inv, none, inv' => inv' = inv ∧ hz.GivesUp scope

/-- Whatever goes wrong, a query changes what the managers hold by a call at most. -/
theorem rule_changes {files : FileSystem} {q : Query} {inv inv' : Inventory} {answer : q.Answer}
    (h : hz.rule files q inv answer inv') :
    inv' = inv ∨ ∃ (c : Call) (reply : c.Reply), inv.perform c = .ok (reply, inv') := by
  have hreplies : ∀ {c : Call} {reply : Except ManagerError c.Reply},
      hz.Replies inv c reply inv' →
        inv' = inv ∨ ∃ (c : Call) (reply : c.Reply), inv.perform c = .ok (reply, inv') := by
    intro c reply hreply
    cases hreply with
    | failed => exact .inl rfl
    | refused => exact .inl rfl
    | performed hperformed => exact .inr ⟨c, _, hperformed⟩
  cases q with
  | cancelled scope => exact .inl h.1
  | call c => exact hreplies h
  | guarded scope c =>
    cases answer with
    | some reply => exact hreplies h
    | none =>
      rcases h.2 with hsame | ⟨-, reply, hreply⟩
      · exact .inl hsame
      · exact hreplies hreply
  | file scope path =>
    cases answer with
    | some contents => exact .inl h.1
    | none => exact .inl h.1

end Hazards

/-! ## Worlds within hazards -/

/-- A world in which calls are made to fail only in ways that the hazards allow, and which is
cancelled only if they do. -/
structure World.Within (hz : Hazards) (w : World) : Prop where
  failures : ∀ op nth e, w.managers.probe.failures op = some (nth, e) → hz.fails op e
  cancelled : w.cancelled = true → hz.cancels

/-- A hook that does nothing but what the hazards allow. -/
structure Hook.Within (hz : Hazards) (h : Hook) : Prop where
  inventory : ∀ w, (h.act w).managers.inventory = w.managers.inventory
  files : ∀ w, (h.act w).files = w.files
  world : ∀ w : World, w.Within hz → (h.act w).Within hz
  waits : h.waits = true → h.moment = .after → hz.loses h.operation

/-- A disturbed world in which nothing happens but what the hazards allow. -/
structure DisturbedWorld.Within (hz : Hazards) (d : DisturbedWorld) : Prop where
  world : d.world.Within hz
  hooks : ∀ h ∈ d.hooks, h.Within hz

/-- What the managers hold. -/
def DisturbedWorld.inventory (d : DisturbedWorld) : Inventory := d.world.managers.inventory

variable {hz : Hazards}

/-- What a call to the managers can do: it is counted, and then it is made to fail, refused, or
performed. -/
theorem Managers.perform_cases (m : Managers) (c : Call) :
    (∃ e, (m.probe.count c.operation).failure? c.operation = some e ∧
      m.perform c = (.error e, ⟨m.inventory, m.probe.count c.operation⟩)) ∨
    (∃ e, m.inventory.perform c = .error e ∧
      m.perform c = (.error e, ⟨m.inventory, m.probe.count c.operation⟩)) ∨
    ∃ reply inv', m.inventory.perform c = .ok (reply, inv') ∧
      m.perform c = (.ok reply, ⟨inv', m.probe.count c.operation⟩) := by
  unfold Managers.perform
  cases hfail : (m.probe.count c.operation).failure? c.operation with
  | some e => exact .inl ⟨e, rfl, by simp only [hfail]⟩
  | none =>
    cases hperform : m.inventory.perform c with
    | error e => exact .inr (.inl ⟨e, rfl, by simp only [hfail]⟩)
    | ok outcome => exact .inr (.inr ⟨outcome.1, outcome.2, rfl, by simp only [hfail]⟩)

/-- A probe makes a call fail only with an error that was installed for its operation. -/
theorem Probe.exists_of_failure?_count {p : Probe} {op : Operation} {e : ManagerError}
    (h : (p.count op).failure? op = some e) : ∃ nth, p.failures op = some (nth, e) := by
  simp only [Probe.failure?, Probe.count, if_true] at h
  split at h
  next nth e' heq =>
    split at h
    · cases h
      exact ⟨nth, heq⟩
    · simp at h
  next => simp at h

/-- A call in a world within hazards is replied to as they allow. -/
theorem World.Within.perform {w : World} (h : w.Within hz) (c : Call) :
    hz.Replies w.managers.inventory c (w.perform c).1 (w.perform c).2.managers.inventory ∧
      (w.perform c).2.Within hz ∧ (w.perform c).2.files = w.files := by
  unfold World.perform
  rcases Managers.perform_cases w.managers c with
    ⟨e, hfail, heq⟩ | ⟨e, hrefuse, heq⟩ | ⟨reply, inv', hperform, heq⟩
  · obtain ⟨nth, hnth⟩ := Probe.exists_of_failure?_count hfail
    rw [heq]
    exact ⟨.failed (h.failures _ nth _ hnth), ⟨h.failures, h.cancelled⟩, rfl⟩
  · rw [heq]
    exact ⟨.refused hrefuse, ⟨h.failures, h.cancelled⟩, rfl⟩
  · rw [heq]
    exact ⟨.performed hperform, ⟨h.failures, h.cancelled⟩, rfl⟩

/-- Whoever sees the run cancelled may give up, since the hazards allow the cancellation. -/
theorem World.Within.givesUp {w : World} (h : w.Within hz) {scope : Scope}
    (hseen : w.isCancelled scope = true) : hz.GivesUp scope := by
  unfold World.isCancelled at hseen
  rw [Bool.and_eq_true, decide_eq_true_eq] at hseen
  exact ⟨h.cancelled hseen.1, hseen.2⟩

/-- A query in a world within hazards is answered by their rule. -/
theorem World.Within.answer {w : World} (h : w.Within hz) (q : Query) :
    hz.rule w.files q w.managers.inventory (w.answer q).1 (w.answer q).2.managers.inventory ∧
      (w.answer q).2.Within hz ∧ (w.answer q).2.files = w.files := by
  cases q with
  | cancelled scope => exact ⟨⟨rfl, h.givesUp⟩, h, rfl⟩
  | call c => exact h.perform c
  | guarded scope c =>
    rw [World.answer]
    split
    next hseen => exact ⟨⟨h.givesUp hseen, .inl rfl⟩, h, rfl⟩
    next => exact h.perform c
  | file scope path =>
    rw [World.answer]
    split
    next hseen => exact ⟨⟨rfl, h.givesUp hseen⟩, h, rfl⟩
    next => exact ⟨⟨rfl, rfl⟩, h, rfl⟩

namespace DisturbedWorld

/-- Hooks within hazards leave the managers' holdings and the files alone, and a call that they
give up has a guard that may be given up, and a hook that waits. -/
theorem play_within (guard? : Option Scope) {hooks : List Hook} {w : World}
    (hhooks : ∀ h ∈ hooks, h.Within hz) (hw : w.Within hz) :
    (play guard? hooks w).2.Within hz ∧
      (play guard? hooks w).2.managers.inventory = w.managers.inventory ∧
      (play guard? hooks w).2.files = w.files ∧
      ((play guard? hooks w).1 = true →
        (∃ scope, guard? = some scope ∧ hz.GivesUp scope) ∧ ∃ h ∈ hooks, h.waits = true) := by
  induction hooks generalizing w with
  | nil => exact ⟨hw, rfl, rfl, fun h => nomatch h⟩
  | cons h rest ih =>
    have hh := hhooks h (by simp)
    have hact := hh.world w hw
    unfold play
    simp only
    split
    next hcond =>
      refine ⟨hact, hh.inventory w, hh.files w, fun _ => ?_⟩
      rw [Bool.and_eq_true] at hcond
      obtain ⟨hwaits, hguard⟩ := hcond
      obtain ⟨scope, rfl, hseen⟩ := (Option.any_eq_true ..).1 hguard
      unfold World.isCancelled at hseen
      rw [Bool.and_eq_true, decide_eq_true_eq] at hseen
      exact ⟨⟨scope, rfl, hact.cancelled hseen.1, hseen.2⟩, h, by simp, hwaits⟩
    next =>
      obtain ⟨h1, h2, h3, h4⟩ := ih (fun g hg => hhooks g (by simp [hg])) hact
      refine ⟨h1, h2.trans (hh.inventory w), h3.trans (hh.files w), fun hgiven => ?_⟩
      obtain ⟨hscope, g, hg, hwaits⟩ := h4 hgiven
      exact ⟨hscope, g, by simp [hg], hwaits⟩

/-- The hooks that are due around a call are some of the world's own, and are meant for that
call. -/
theorem due_within {d : DisturbedWorld} (h : d.Within hz) (op : Operation) (moment : Moment) :
    ∀ hook ∈ d.due op moment, hook.Within hz ∧ hook.operation = op ∧ hook.moment = moment := by
  intro hook hmem
  unfold due at hmem
  rw [List.mem_filter, Bool.and_eq_true, Bool.and_eq_true, decide_eq_true_eq,
    decide_eq_true_eq] at hmem
  exact ⟨h.hooks hook hmem.1, hmem.2.1⟩

/-- A call between the hooks that are played before and after it. -/
theorem perform_eq (d : DisturbedWorld) (guard? : Option Scope) (c : Call) :
    d.perform guard? c =
      let counted := d.count c.operation
      let before := play guard? (counted.due c.operation .before) d.world
      let called := before.2.perform c
      let after := play guard? (counted.due c.operation .after) called.2
      if before.1 then (none, { counted with world := before.2 })
      else (if after.1 then none else some called.1, { counted with world := after.2 }) := rfl

/-- A call in a disturbed world within hazards is replied to as they allow, or given up. -/
theorem Within.perform {d d' : DisturbedWorld} (h : d.Within hz) {guard? : Option Scope} {c : Call}
    {answer : Option (Except ManagerError c.Reply)} (heq : d.perform guard? c = (answer, d')) :
    (match answer with
      | some reply => hz.Replies d.inventory c reply d'.inventory
      | none => (∃ scope, guard? = some scope ∧ hz.GivesUp scope) ∧
        (d'.inventory = d.inventory ∨
          hz.loses c.operation ∧ ∃ reply, hz.Replies d.inventory c reply d'.inventory)) ∧
      d'.Within hz ∧ d'.world.files = d.world.files := by
  have hcount : (d.count c.operation).Within hz := ⟨h.world, h.hooks⟩
  have hbefore := due_within hcount c.operation .before
  have hafter := due_within hcount c.operation .after
  obtain ⟨hw, hinv, hfiles, hgiven⟩ := play_within guard?
    (fun g hg => (hbefore g hg).1) h.world
  obtain ⟨hreply, hw', hfiles'⟩ := hw.perform c
  obtain ⟨hw'', hinv'', hfiles'', hgiven''⟩ := play_within guard?
    (fun g hg => (hafter g hg).1) hw'
  rw [hinv, ← hinv''] at hreply
  rw [perform_eq] at heq
  simp only at heq
  split at heq
  next hstop =>
    cases heq
    exact ⟨⟨(hgiven hstop).1, .inl hinv⟩, ⟨hw, h.hooks⟩, hfiles⟩
  next =>
    split at heq
    next hlost =>
      cases heq
      obtain ⟨hscope, g, hg, hwaits⟩ := hgiven'' hlost
      obtain ⟨hwithin, hop, hmoment⟩ := hafter g hg
      have hloses := hwithin.waits hwaits hmoment
      rw [hop] at hloses
      exact ⟨⟨hscope, .inr ⟨hloses, _, hreply⟩⟩, ⟨hw'', h.hooks⟩,
        hfiles''.trans (hfiles'.trans hfiles)⟩
    next =>
      cases heq
      exact ⟨hreply, ⟨hw'', h.hooks⟩, hfiles''.trans (hfiles'.trans hfiles)⟩

/-- A call that nothing guards is replied to. -/
theorem Within.performUnguarded {d : DisturbedWorld} (h : d.Within hz) (c : Call) :
    hz.Replies d.inventory c (d.performUnguarded c).1 (d.performUnguarded c).2.inventory ∧
      (d.performUnguarded c).2.Within hz ∧
      (d.performUnguarded c).2.world.files = d.world.files := by
  have hcount : (d.count c.operation).Within hz := ⟨h.world, h.hooks⟩
  have hbefore := due_within hcount c.operation .before
  have hafter := due_within hcount c.operation .after
  obtain ⟨hw, hinv, hfiles, -⟩ := play_within none (fun g hg => (hbefore g hg).1) h.world
  obtain ⟨hreply, hw', hfiles'⟩ := hw.perform c
  obtain ⟨hw'', hinv'', hfiles'', -⟩ := play_within none (fun g hg => (hafter g hg).1) hw'
  rw [hinv, ← hinv''] at hreply
  exact ⟨hreply, ⟨hw'', h.hooks⟩, hfiles''.trans (hfiles'.trans hfiles)⟩

/-- A cancellation that is seen in a disturbed world is one that the hazards allow. -/
theorem Within.givesUp {d : DisturbedWorld} (h : d.Within hz) {scope : Scope}
    (hseen : d.world.isCancelled scope = true) : hz.GivesUp scope :=
  h.world.givesUp hseen

/-- A query in a disturbed world within hazards is answered by their rule, and the world stays
within them. -/
theorem Within.answer {d d' : DisturbedWorld} (h : d.Within hz) {q : Query} {a : q.Answer}
    (heq : DisturbedWorld.answer q d = (a, d')) :
    hz.rule d.world.files q d.inventory a d'.inventory ∧
      d'.Within hz ∧ d'.world.files = d.world.files := by
  cases q with
  | cancelled scope =>
    cases heq
    exact ⟨⟨rfl, h.givesUp⟩, h, rfl⟩
  | call c =>
    cases heq
    exact h.performUnguarded c
  | guarded scope c =>
    rw [DisturbedWorld.answer] at heq
    split at heq
    next hseen =>
      cases heq
      exact ⟨⟨h.givesUp hseen, .inl rfl⟩, h, rfl⟩
    next =>
      obtain ⟨hanswer, hd', hfiles⟩ := h.perform heq
      cases a with
      | some reply => exact ⟨hanswer, hd', hfiles⟩
      | none =>
        obtain ⟨⟨scope', hscope, hgives⟩, hleft⟩ := hanswer
        cases hscope
        exact ⟨⟨hgives, hleft⟩, hd', hfiles⟩
  | file scope path =>
    rw [DisturbedWorld.answer] at heq
    split at heq
    next hseen =>
      cases heq
      exact ⟨⟨rfl, h.givesUp hseen⟩, h, rfl⟩
    next =>
      cases heq
      exact ⟨⟨rfl, rfl⟩, h, rfl⟩

/-- A disturbed world within hazards keeps to their rule. -/
theorem respects (hz : Hazards) (files : FileSystem) :
    Plan.Respects answer (hz.rule files) inventory
      fun d => d.Within hz ∧ d.world.files = files where
  answers := by
    rintro q d ⟨h, rfl⟩
    exact (h.answer rfl).1
  stays := by
    rintro q d ⟨h, rfl⟩
    exact (h.answer rfl).2

end DisturbedWorld

end ReverseReplication
