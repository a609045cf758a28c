import ReverseReplication.Manager.Call
import ReverseReplication.Saga.Basic

/-!
# Plans: what a run asks of the world

A `Plan` is a computation that asks the world one `Query` after the other and goes on with the
answers. It decides what is asked and says nothing about how the world answers: that is the
argument of `Plan.run`. So one plan can be run over plain managers, over managers that other
parties interfere with, or over a world that records what it is asked.

`Plan.run_bind` says that running two plans in sequence threads the state of the world through.
-/

namespace ReverseReplication

open ReverseReplication.Text (Bytes)

/-- What a plan may ask. -/
inductive Query where
  /-- Is the run cancelled, as far as the scope can see? -/
  | cancelled (scope : Scope)
  /-- Make a call and wait for its reply. -/
  | call (c : Call)
  /-- Make a call, and give it up when the scope is cancelled. -/
  | guarded (scope : Scope) (c : Call)
  /-- Read a local file, and give it up when the scope is cancelled. -/
  | file (scope : Scope) (path : String)

/-- What a query is answered with. An answer that was given up is none. -/
@[reducible] def Query.Answer : Query → Type
  | .cancelled _ => Bool
  | .call c => Except ManagerError c.Reply
  | .guarded _ c => Option (Except ManagerError c.Reply)
  | .file _ _ => Option (Except FileError Bytes)

/-- A computation that asks queries. -/
inductive Plan (α : Type) : Type where
  | done (a : α)
  | ask (q : Query) (next : q.Answer → Plan α)

namespace Plan

variable {α β ω : Type}

/-- Asks one query. -/
def query (q : Query) : Plan q.Answer := .ask q .done

def bind (p : Plan α) (f : α → Plan β) : Plan β :=
  match p with
  | .done a => f a
  | .ask q next => .ask q fun answer => (next answer).bind f

instance : Monad Plan where
  pure := done
  bind := bind

/-- A world that answers queries and remembers what it has to. -/
abbrev Handler (ω : Type) := (q : Query) → ω → q.Answer × ω

/-- Runs a plan. -/
def run (handler : Handler ω) : Plan α → ω → α × ω
  | .done a, w => (a, w)
  | .ask q next, w =>
    let (answer, w) := handler q w
    (next answer).run handler w

/-- Carries out a plan in a monad that can answer queries. -/
def carryOut {m : Type → Type} [Monad m] (answer : (q : Query) → m q.Answer) : Plan α → m α
  | .done a => pure a
  | .ask q next => do (next (← answer q)).carryOut answer

/-! ## Equations -/

@[simp] theorem run_pure (handler : Handler ω) (a : α) (w : ω) :
    (pure a : Plan α).run handler w = (a, w) := rfl

/-- Running a single query is answering it. -/
theorem run_query (handler : Handler ω) (q : Query) (w : ω) :
    (query q).run handler w = handler q w := rfl

/-- A plan that continues another is run where that one has left the world. -/
theorem run_bind (handler : Handler ω) (p : Plan α) (f : α → Plan β) (w : ω) :
    (p >>= f).run handler w = (f (p.run handler w).1).run handler (p.run handler w).2 := by
  change (p.bind f).run handler w = _
  induction p generalizing w with
  | done a => rfl
  | ask q next ih => exact ih _ _

/-- A plan that is continued by its own end is the plan itself. -/
theorem bind_done (p : Plan α) : p.bind .done = p := by
  induction p with
  | done a => rfl
  | ask q next ih => simp only [bind, ih]

/-- It does not matter how continuations are grouped. -/
theorem bind_bind {γ : Type} (p : Plan α) (f : α → Plan β) (g : β → Plan γ) :
    (p.bind f).bind g = p.bind fun a => (f a).bind g := by
  induction p with
  | done a => rfl
  | ask q next ih => simp only [bind, ih]

instance : LawfulMonad Plan := .mk' Plan bind_done (fun _ _ => rfl) bind_bind

end Plan

end ReverseReplication
