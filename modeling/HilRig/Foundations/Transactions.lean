import HilRig.Foundations.AtomicUpdate
import Mathlib.Data.List.Basic

/-!
# All-or-nothing transactions

A `Session` is a connection to a database: the committed contents, the contents inside an open
transaction, and the number of statements executed so far. Statements change the open contents,
`commit` makes them the committed ones, and `rollback` and `close` discard them. Any statement can
fail on its own account or by a fault of the environment, given as a function of its number.

`transact_cases` says that a sequence of statements with its commit makes all of its changes or
none. Nothing here depends on what the database holds.
-/

set_option autoImplicit false
set_option relaxedAutoImplicit false

namespace HilRig.Foundations

/-- A connection to a database. -/
structure Session (Database : Type) where
  committed : Database
  working : Option Database := none
  executed : ℕ := 0

namespace Session

variable {Database : Type} (session : Session Database)

/-- What the connection itself reads. -/
def contents : Database :=
  session.working.getD session.committed

/-- A connection without an open transaction; closing it discards an open one. -/
def close : Session Database :=
  { session with working := none }

end Session

/-- Computations over a connection that raise errors of one type. -/
abbrev Transaction (Error Database : Type) := EStateM Error (Session Database)

section Statements

variable {Error Database : Type} (faults : ℕ → Option Error)

/-- One statement, inside a transaction that it opens if there is none. -/
def statement (change : Database → Except Error Database) : Transaction Error Database Unit :=
  fun session ↦
    let next := { session with executed := session.executed + 1 }
    match faults session.executed with
    | some fault => .error fault next
    | none =>
      match change session.contents with
      | .ok contents => .ok () { next with working := some contents }
      | .error error => .error error next

/-- A read of the contents the connection sees. -/
def query {α : Type} (read : Database → α) : Transaction Error Database α := fun session ↦
  let next := { session with executed := session.executed + 1 }
  match faults session.executed with
  | some fault => .error fault next
  | none => .ok (read session.contents) next

/-- Make the changes of the open transaction the committed contents. -/
def commit : Transaction Error Database Unit := fun session ↦
  let next := { session with executed := session.executed + 1 }
  match faults session.executed with
  | some fault => .error fault next
  | none => .ok () { next with committed := session.contents, working := none }

/-- Discard the changes of the open transaction. -/
def rollback : Transaction Error Database Unit := fun session ↦
  let next := { session with executed := session.executed + 1 }
  match faults session.executed with
  | some fault => .error fault next
  | none => .ok () next.close

end Statements

/-! ### Statements followed by their commit -/

section Transact

variable {Error Database : Type} {faults : ℕ → Option Error}

/-- A sequence of statements. -/
def statements (faults : ℕ → Option Error) :
    List (Database → Except Error Database) → Transaction Error Database Unit
  | [] => return ()
  | change :: changes => do
    statement faults change
    statements faults changes

/-- A sequence of statements, and the commit of their changes. -/
def transact (faults : ℕ → Option Error) (changes : List (Database → Except Error Database)) :
    Transaction Error Database Unit := do
  statements faults changes
  commit faults

/-- The contents after a sequence of changes. -/
def applyAll (changes : List (Database → Except Error Database)) (database : Database) :
    Except Error Database :=
  changes.foldlM (fun database change ↦ change database) database

theorem applyAll_cons (change : Database → Except Error Database)
    (changes : List (Database → Except Error Database)) (database : Database) :
    applyAll (change :: changes) database = change database >>= applyAll changes := by
  rw [applyAll, List.foldlM_cons]
  rfl

theorem applyAll_append (first second : List (Database → Except Error Database))
    (database : Database) :
    applyAll (first ++ second) database = applyAll first database >>= applyAll second := by
  rw [applyAll, List.foldlM_append]
  rfl

/-- A statement that returns has made its change; one that raises has committed nothing. -/
theorem statement_cases (change : Database → Except Error Database)
    (session : Session Database) :
    (∃ after, statement faults change session = .ok () after ∧
      after.committed = session.committed ∧ change session.contents = .ok after.contents) ∨
    ∃ error after, statement faults change session = .error error after ∧
      after.committed = session.committed := by
  unfold statement
  cases faults session.executed with
  | some fault => exact .inr ⟨_, _, rfl, rfl⟩
  | none =>
    cases hchange : change session.contents with
    | ok contents => exact .inl ⟨_, rfl, rfl, rfl⟩
    | error error => exact .inr ⟨_, _, rfl, rfl⟩

/-- A sequence of statements that returns has made all of its changes. -/
theorem statements_cases (changes : List (Database → Except Error Database))
    (session : Session Database) :
    (∃ after, statements faults changes session = .ok () after ∧
      after.committed = session.committed ∧
      applyAll changes session.contents = .ok after.contents) ∨
    ∃ error after, statements faults changes session = .error error after ∧
      after.committed = session.committed := by
  induction changes generalizing session with
  | nil => exact .inl ⟨session, rfl, rfl, rfl⟩
  | cons change changes ih =>
    rcases @statement_cases _ _ faults change session with
      ⟨middle, hrun, hcommitted, hchange⟩ | ⟨error, middle, hrun, hcommitted⟩
    · rw [statements, run_bind_of_ok hrun, applyAll_cons, hchange, ← hcommitted]
      exact ih middle
    · rw [statements, run_bind_of_error hrun]
      exact .inr ⟨error, middle, rfl, hcommitted⟩

/-- A transaction commits all of its changes, or raises and commits none. -/
theorem transact_cases (changes : List (Database → Except Error Database))
    (session : Session Database) :
    (∃ after, transact faults changes session = .ok () after ∧ after.working = none ∧
      applyAll changes session.contents = .ok after.committed) ∨
    ∃ error after, transact faults changes session = .error error after ∧
      after.committed = session.committed := by
  rcases @statements_cases _ _ faults changes session with
    ⟨middle, hrun, hcommitted, hchanges⟩ | ⟨error, middle, hrun, hcommitted⟩
  · rw [transact, run_bind_of_ok hrun]
    unfold commit
    cases faults middle.executed with
    | some fault => exact .inr ⟨_, _, rfl, hcommitted⟩
    | none => exact .inl ⟨_, rfl, rfl, hchanges⟩
  · rw [transact, run_bind_of_error hrun]
    exact .inr ⟨error, middle, rfl, hcommitted⟩

/-- Without faults, a transaction whose changes can all be made commits them. -/
theorem transact_of_applyAll {changes : List (Database → Except Error Database)}
    {session : Session Database} {contents : Database}
    (happlied : applyAll changes session.contents = .ok contents) :
    ∃ after, transact (fun _ ↦ none) changes session = .ok () after ∧ after.working = none ∧
      after.committed = contents := by
  have hstatements : ∃ middle, statements (fun _ ↦ none) changes session = .ok () middle ∧
      middle.contents = contents := by
    induction changes generalizing session with
    | nil => exact ⟨session, rfl, Except.ok.inj happlied⟩
    | cons change changes ih =>
      rw [applyAll_cons] at happlied
      cases hchange : change session.contents with
      | error error =>
        rw [hchange] at happlied
        cases happlied
      | ok middle =>
        rw [hchange] at happlied
        have hrun : statement (fun _ ↦ none) change session =
            .ok () { session with executed := session.executed + 1, working := some middle } := by
          simp only [statement, hchange]
        rw [statements, run_bind_of_ok hrun]
        exact ih happlied
  obtain ⟨middle, hrun, hcontents⟩ := hstatements
  rw [transact, run_bind_of_ok hrun]
  exact ⟨_, rfl, rfl, hcontents⟩

/-- A read leaves the contents as they are. -/
theorem query_cases {α : Type} (read : Database → α) (session : Session Database) :
    ∃ after : Session Database, after.committed = session.committed ∧
      after.working = session.working ∧
      (query faults read session = .ok (read session.contents) after ∨
        ∃ error, query faults read session = .error error after) := by
  refine ⟨{ session with executed := session.executed + 1 }, rfl, rfl, ?_⟩
  unfold query
  cases faults session.executed with
  | some fault => exact .inr ⟨fault, rfl⟩
  | none => exact .inl rfl

/-- A rollback commits nothing, and it leaves no open transaction when it returns. -/
theorem rollback_cases (session : Session Database) :
    (∃ after, rollback faults session = .ok () after ∧ after.committed = session.committed ∧
      after.working = none) ∨
    ∃ error after, rollback faults session = .error error after ∧
      after.committed = session.committed := by
  unfold rollback
  cases faults session.executed with
  | some fault => exact .inr ⟨_, _, rfl, rfl⟩
  | none => exact .inl ⟨_, rfl, rfl, rfl⟩

end Transact

end HilRig.Foundations
