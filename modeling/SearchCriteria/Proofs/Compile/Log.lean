/-
# Logs of chains

A compilation tells of every clause that it puts into the lists of a chain, when it does so.  What
is told of a chain has a *chapter* for each clause that the chain takes up: the log of the criteria
that the clause comes of, if it comes of criteria attached to a node, and then the insertion itself.
The clause that is held back is the exception, as its insertion closes the log of the chain.

* `Pass.Tells`: the log of a chain that is compiled, and the lists that its own insertions make;
* `Pass.BreaksOff`: the log of a chain on which the compilation fails;
* `Pass.foldlM_record`: taking up the clauses of chapters one by one tells the body of this log, and
  leaves the lists that its insertions make.
-/
import SearchCriteria.Proofs.Compile.Emptiness

namespace SearchCriteria

/-! ## Runs put together -/

namespace Run

variable {α β : Type}

lemma bind_bind {γ : Type} (run : Run α) (f : α → Run β) (g : β → Run γ) :
    run >>= f >>= g = run >>= fun a => f a >>= g := by
  obtain ⟨events, result⟩ := run
  cases result with
  | error e => rfl
  | ok a =>
    rw [ok_bind, ok_bind]
    obtain ⟨events', result'⟩ := f a
    cases result' with
    | error e => rfl
    | ok b => simp only [ok_bind, List.append_assoc]

lemma map_id (run : Run α) : id <$> run = run := by
  obtain ⟨events, result⟩ := run
  cases result with
  | error e => rfl
  | ok a => exact congrArg (Run.mk · (.ok a)) (List.append_nil events)

instance : LawfulMonad Run := LawfulMonad.mk' Run map_id (fun _ _ => rfl) bind_bind

end Run

/-! ## Logs of chains -/

/-- A clause that a chain takes up, with what has been told before. -/
structure Chapter where
  /-- The node that the clause belongs to. -/
  owner : Node
  /-- The log of the criteria that the clause comes of; a node's own clause comes of none. -/
  source : Option (List Event)
  clause : Query

namespace Chapter

/-- Whether the clause comes from the node's entries. -/
def isOwn (chapter : Chapter) : Bool := chapter.source.isNone

/-- What has been told before the clause is put in its place. -/
def told (chapter : Chapter) : List Event := chapter.source.getD []

def visit (chapter : Chapter) : Visit := ⟨chapter.owner, chapter.isOwn, chapter.clause⟩

lemma told_of_isOwn {chapter : Chapter} (h : chapter.isOwn = true) : chapter.told = [] := by
  rw [told, Option.isNone_iff_eq_none.1 h, Option.getD_none]

end Chapter

/-- The chapters of a node: its own clause, and then what the criteria attached to it are compiled
into, each of them given by its log and its lists. -/
def Node.chapters (node : Node) (own : Option Query)
    (attached : List (List Event × Clauses Query)) : List Chapter :=
  own.toList.map (⟨node, none, ·⟩) ++
    attached.flatMap fun told => told.2.collapse.toList.map (⟨node, some told.1, ·⟩)

/-- The lists of a chain after an insertion. -/
def Event.apply (cs : Clauses Query) : Event → Clauses Query
  | routed occur clause => cs.push occur clause
  | prepended occur clause => cs.prepend occur clause
  | _ => cs

/-- The lists that insertions make of empty ones. -/
def replay (insertions : List Event) : Clauses Query :=
  insertions.foldl Event.apply {}

lemma replay_append (insertions others : List Event) :
    replay (insertions ++ others) = others.foldl Event.apply (replay insertions) :=
  List.foldl_append

namespace Pass

variable (pass : Pass)

/-- A clause is put behind those of the occurrence that its owner has. -/
def insertion (chapter : Chapter) : Event :=
  .routed (pass.occur chapter.owner) chapter.clause

/-- The chapters whose clauses are put behind others: all but the one that is held back. -/
def behind (chapters : List Chapter) : List Chapter :=
  if pass.holdsFirst then chapters.eraseP (·.isOwn) else chapters

/-- The chapter whose clause is held back. -/
def heldBack (chapters : List Chapter) : Option Chapter :=
  if pass.holdsFirst then chapters.find? (·.isOwn) else none

/-- The occurrence of a clause that is held back, once the others are in their places. -/
def frontOccur (chapters : List Chapter) (chapter : Chapter) : Occur :=
  if (replay ((pass.behind chapters).map pass.insertion)).isShouldOnly then .should
  else if chapter.owner.negating then .mustNot else .must

/-- The insertion of the clause that is held back, if there is one. -/
def front (chapters : List Chapter) : List Event :=
  (pass.heldBack chapters).toList.map fun chapter =>
    .prepended (pass.frontOccur chapters chapter) chapter.clause

def insertions (chapters : List Chapter) : List Event :=
  (pass.behind chapters).map pass.insertion ++ pass.front chapters

/-- What is told on the way through a chain: each insertion behind the log that belongs to it. -/
def body (chapters : List Chapter) : List Event :=
  (pass.behind chapters).flatMap fun chapter => chapter.told ++ [pass.insertion chapter]

mutual

/-- The log of a chain that is compiled, and the lists of its clauses.  The chapters of its nodes
are told, and the clause that is held back is put in front at the end; the lists are what the
insertions of the chain itself make of empty ones. -/
inductive Tells : Criteria → List Event → Clauses Query → Prop where
  | chain {ns : List Node} {chapters : List (List Chapter)}
    (nodes : List.Forall₂ TellsNode ns chapters) :
    Tells ⟨ns⟩ (pass.body chapters.flatten ++ pass.front chapters.flatten)
      (replay (pass.insertions chapters.flatten))

/-- The chapters of a node whose entries are accepted, and on which nothing is attached that is not
compiled. -/
inductive TellsNode : Node → List Chapter → Prop where
  | node {n : Node} {own : Option Query} {attached : List (List Event × Clauses Query)}
    (accepted : pass.ownClause n = .ok own)
    (compiled : List.Forall₂ (fun c told => Tells c told.1 told.2) n.subCriteria attached) :
    TellsNode n (n.chapters own attached)

end

mutual

/-- The log of a chain on which a compilation fails, and the error.  It fails on the first node that
is not gone through: the log ends with what is told of this node.  Nothing is put in front. -/
inductive BreaksOff : Criteria → List Event → CriteriaError → Prop where
  | chain {before after : List Node} {n : Node} {chapters : List (List Chapter)}
    {last : List Chapter} {log : List Event} {e : CriteriaError}
    (nodes : List.Forall₂ pass.TellsNode before chapters) (fails : BreaksOffNode n last log e) :
    BreaksOff ⟨before ++ n :: after⟩ (pass.body (chapters.flatten ++ last) ++ log) e

/-- A node on which a compilation fails: its chapters that are complete, what is told behind them,
and the error. -/
inductive BreaksOffNode : Node → List Chapter → List Event → CriteriaError → Prop where
  | refused {n : Node} {e : CriteriaError} (refused : pass.ownClause n = .error e) :
    BreaksOffNode n [] [] e
  | attached {n : Node} {own : Option Query} {before after : List Criteria}
    {attached : List (List Event × Clauses Query)} {c : Criteria} {log : List Event}
    {e : CriteriaError} (accepted : pass.ownClause n = .ok own)
    (split : n.subCriteria = before ++ c :: after)
    (compiled : List.Forall₂ (fun c told => pass.Tells c told.1 told.2) before attached)
    (fails : BreaksOff c log e) : BreaksOffNode n (n.chapters own attached) log e

end

/-! ## Insertions -/

lemma level_front {chapters : List Chapter} :
    ∀ event ∈ pass.front chapters, event.level = .trace := by
  intro event h
  obtain ⟨chapter, -, rfl⟩ := List.mem_map.1 h
  rfl

lemma level_insertions {chapters : List Chapter} :
    ∀ event ∈ pass.insertions chapters, event.level = .trace := by
  refine List.forall_mem_append.2 ⟨fun event h => ?_, pass.level_front⟩
  obtain ⟨chapter, -, rfl⟩ := List.mem_map.1 h
  rfl

lemma count_replay {insertions : List Event} (h : ∀ event ∈ insertions, event.level = .trace) :
    (replay insertions).count = insertions.length := by
  suffices hfold : ∀ cs : Clauses Query,
      (insertions.foldl Event.apply cs).count = cs.count + insertions.length by
    have hempty := hfold {}
    rwa [show ({} : Clauses Query).count = 0 from rfl, Nat.zero_add] at hempty
  induction insertions with
  | nil => exact fun _ => rfl
  | cons event rest ih =>
    obtain ⟨hevent, hrest⟩ := List.forall_mem_cons.1 h
    intro cs
    rw [List.foldl_cons, ih hrest, List.length_cons]
    cases event with
    | routed o q => simp only [Event.apply, Clauses.count_push]; omega
    | prepended o q => simp only [Event.apply, Clauses.count_prepend]; omega
    -- The other events are no insertions, and not of this level.
    | started target nodes => cases hevent
    | finished target result => cases hevent

lemma Tells.eq_nil_of_collapse {pass : Pass} {c : Criteria} {log : List Event} {cs : Clauses Query}
    (h : pass.Tells c log cs) (hnone : cs.collapse = none) : log = [] := by
  obtain ⟨-⟩ := h
  rw [Clauses.collapse_eq_none_iff, count_replay pass.level_insertions, List.length_eq_zero_iff,
    insertions, List.append_eq_nil_iff, List.map_eq_nil_iff] at hnone
  rw [body, hnone.1, hnone.2]
  rfl

/-! ## The log as a run -/

/-- A chapter is told, and its clause is taken up. -/
def record (walk : Walk) (chapter : Chapter) : Run Walk where
  events := chapter.told ++
    if chapter.isOwn && pass.holdsFirst && walk.held.isNone then [] else [pass.insertion chapter]
  result := .ok (pass.take walk chapter.visit)

lemma foldlM_record_of_held (chapters : List Chapter) (held : Option (Query × Bool))
    (hheld : pass.holdsFirst = true → held.isNone = false) (cs : Clauses Query) :
    chapters.foldlM pass.record ⟨held, cs⟩ =
      ⟨chapters.flatMap fun chapter => chapter.told ++ [pass.insertion chapter],
        .ok ⟨held, (chapters.map pass.insertion).foldl Event.apply cs⟩⟩ := by
  induction chapters generalizing cs with
  | nil => rfl
  | cons chapter rest ih =>
    have hroute : (chapter.isOwn && pass.holdsFirst && held.isNone) = false := by
      cases hfirst : pass.holdsFirst with
      | false => simp
      | true => simp [hheld hfirst]
    have hrecord : pass.record ⟨held, cs⟩ chapter =
        ⟨chapter.told ++ [pass.insertion chapter],
          .ok ⟨held, cs.push (pass.occur chapter.owner) chapter.clause⟩⟩ := by
      simp [record, take, Chapter.visit, hroute]
    rw [List.foldlM_cons, hrecord, Run.ok_bind, ih]
    rfl

/-- Where the first own clause is held back and has not been met yet, its chapter is told without an
insertion. -/
lemma foldlM_record_of_holdsFirst (hfirst : pass.holdsFirst = true) (chapters : List Chapter)
    (cs : Clauses Query) : chapters.foldlM pass.record ⟨none, cs⟩ =
      ⟨(chapters.eraseP (·.isOwn)).flatMap fun chapter =>
          chapter.told ++ [pass.insertion chapter],
        .ok ⟨(chapters.find? (·.isOwn)).map fun chapter =>
            (chapter.clause, chapter.owner.negating),
          ((chapters.eraseP (·.isOwn)).map pass.insertion).foldl Event.apply cs⟩⟩ := by
  induction chapters generalizing cs with
  | nil => rfl
  | cons chapter rest ih =>
    -- The first own clause is met here, and none is held back behind it, or it is still to come.
    by_cases hown : chapter.isOwn = true
    · have hrecord : pass.record ⟨none, cs⟩ chapter =
          ⟨[], .ok ⟨some (chapter.clause, chapter.owner.negating), cs⟩⟩ := by
        simp [record, take, Chapter.visit, hfirst, hown, Chapter.told_of_isOwn]
      rw [List.foldlM_cons, hrecord, Run.ok_bind, foldlM_record_of_held pass rest _ (by simp)]
      simp [hown]
    · have hrecord : pass.record ⟨none, cs⟩ chapter =
          ⟨chapter.told ++ [pass.insertion chapter],
            .ok ⟨none, cs.push (pass.occur chapter.owner) chapter.clause⟩⟩ := by
        simp [record, take, Chapter.visit, hown]
      rw [List.foldlM_cons, hrecord, Run.ok_bind, ih]
      simp [hown, insertion, Event.apply]

/-- On the way through a chain the body of its log is told, and the first own clause is held back if
the pass does so. -/
lemma foldlM_record (chapters : List Chapter) :
    chapters.foldlM pass.record {} = ⟨pass.body chapters,
      .ok ⟨(pass.heldBack chapters).map fun chapter => (chapter.clause, chapter.owner.negating),
        replay ((pass.behind chapters).map pass.insertion)⟩⟩ := by
  cases hfirst : pass.holdsFirst with
  | false =>
    have hrecord := pass.foldlM_record_of_held chapters none (by simp [hfirst]) {}
    simpa [body, behind, heldBack, hfirst, replay] using hrecord
  | true =>
    have hrecord := pass.foldlM_record_of_holdsFirst hfirst chapters {}
    simpa [body, behind, heldBack, hfirst, replay] using hrecord

lemma close_foldlM_record (chapters : List Chapter) :
    chapters.foldlM pass.record {} >>= Walk.close =
      ⟨pass.body chapters ++ pass.front chapters, .ok (replay (pass.insertions chapters))⟩ := by
  rw [foldlM_record, Run.ok_bind, insertions, front, replay_append]
  cases pass.heldBack chapters with
  | none => rfl
  | some chapter => rfl

end Pass

end SearchCriteria
