/-
# Runs and their log

A compilation writes a log while it runs, and the log remains when it fails.  A `Run` is a
result together with the events up to it; runs are put together in order, and nothing follows a
failure.
-/
import SearchCriteria.Error
import SearchCriteria.Query.Basic

namespace SearchCriteria

/-- What criteria are compiled into. -/
inductive Target where
  /-- The query, which counts in the score. -/
  | query
  /-- The filter, which does not. -/
  | filter
deriving DecidableEq, Repr

/-- The name of a target. -/
def Target.name : Target → String
  | query => "query"
  | filter => "filter"

/-- Something that a compilation tells. -/
inductive Event where
  /-- A criteria with this many nodes is going to be compiled. -/
  | started (target : Target) (nodes : Nat)
  /-- A clause is put behind those of its occurrence. -/
  | routed (occur : Occur) (clause : Query)
  /-- The clause that was held back is put in front of those of its occurrence. -/
  | prepended (occur : Occur) (clause : Query)
  /-- The criteria has been compiled; without entries there is no result. -/
  | finished (target : Target) (result : Option Query)

/-- How much detail an event is about. -/
inductive Level where
  /-- The start and the end of a compilation. -/
  | debug
  /-- The way of a single clause. -/
  | trace
deriving DecidableEq, Repr

namespace Event

/-- The level of an event. -/
def level : Event → Level
  | started _ _ => .debug
  | routed _ _ => .trace
  | prepended _ _ => .trace
  | finished _ _ => .debug

/-- The text of an event. -/
def message : Event → String
  | started target _ => s!"compiling criteria {target.name}"
  | routed _ _ => "routing clause"
  | prepended _ _ => "prepending first clause"
  | finished target (some _) => s!"compiled criteria {target.name}"
  | finished target none => s!"criteria carry no {target.name} entries"

/-- The data of an event, by name. -/
def data : Event → List (String × String)
  | started _ nodes => [("nodes", toString nodes)]
  | routed occur clause => [("occur", occur.label), ("query", clause.toText)]
  | prepended occur clause => [("occur", occur.label), ("query", clause.toText)]
  | finished target (some q) => [("query_type", q.typeName), (target.name, q.toText)]
  | finished _ none => []

end Event

/-- The name of a level. -/
def Level.name : Level → String
  | debug => "DEBUG"
  | trace => "TRACE"

/-- A result and the events up to it. -/
structure Run (α : Type) where
  /-- The events in order. -/
  events : List Event
  /-- The result. -/
  result : Except CriteriaError α

namespace Run

variable {α β : Type}

/-- The run that has a result and tells nothing. -/
protected def pure (a : α) : Run α := ⟨[], .ok a⟩

/-- One run after another. -/
protected def bind (run : Run α) (next : α → Run β) : Run β :=
  match run.result with
  | .ok a => ⟨run.events ++ (next a).events, (next a).result⟩
  | .error e => ⟨run.events, .error e⟩

instance : Monad Run where
  pure := Run.pure
  bind := Run.bind

/-- The run that tells nothing. -/
def of (result : Except CriteriaError α) : Run α := ⟨[], result⟩

/-- The run that only tells an event. -/
def tell (event : Event) : Run Unit := ⟨[event], .ok ()⟩

@[simp] theorem result_pure (a : α) : (pure a : Run α).result = .ok a := rfl

@[simp] theorem result_of (r : Except CriteriaError α) : (of r).result = r := rfl

@[simp] theorem result_tell (e : Event) : (tell e).result = .ok () := rfl

/-- The result of a run after another needs both. -/
theorem result_bind (run : Run α) (next : α → Run β) :
    (run >>= next).result = run.result >>= fun a => (next a).result := by
  show (Run.bind run next).result = _
  unfold Run.bind
  cases run.result <;> rfl

/-- What follows a run that has a result is told behind it. -/
theorem ok_bind (events : List Event) (a : α) (next : α → Run β) :
    ((⟨events, .ok a⟩ : Run α) >>= next) = ⟨events ++ (next a).events, (next a).result⟩ := rfl

/-- Nothing follows a run that failed. -/
theorem error_bind (events : List Event) (e : CriteriaError) (next : α → Run β) :
    ((⟨events, .error e⟩ : Run α) >>= next) = ⟨events, .error e⟩ := rfl

end Run

end SearchCriteria
