import Triangle.Std.Outcome

/-!
# Transactions

Work on a database goes statement by statement; what it wrote before it threw
is there. `transaction` is `BEGIN IMMEDIATE … COMMIT` around such work, with a
`ROLLBACK` in its `catch`.

`outcome` reads work as a function that changes everything or throws. It is a
homomorphism, so a body of statements is compared with such a function by
`simp`, and `transaction` is what makes the comparison exact
(`perform_transaction`).
-/

namespace Triangle.Std

/-- Work on a database, which answers or throws and leaves a database either way. -/
abbrev Work (Database Error Answer : Type) := ExceptT Error (StateM Database) Answer

namespace Work

variable {Database Part Error Answer Result : Type}

/-- What the work answers or throws, and the database it leaves. -/
def perform (work : Work Database Error Answer) (database : Database) :
    Except Error Answer × Database :=
  StateT.run (ExceptT.run work) database

/-- `SELECT`. -/
def read (query : Database → Answer) : Work Database Error Answer :=
  fun database => (.ok (query database), database)

/-- `INSERT`, `UPDATE` or `DELETE`. -/
def write (change : Database → Database) : Work Database Error Unit :=
  fun database => (.ok (), change database)

/-- `if (!condition) throw error`. -/
def demand (condition : Prop) [Decidable condition] (error : Error) : Work Database Error Unit :=
  fun database => (require condition error, database)

/-- Work on a part of the database. -/
def within (part : Database → Part) (replace : Database → Part → Database)
    (work : Part → Except Error Answer × Part) : Work Database Error Answer :=
  fun database => ((work (part database)).1, replace database (work (part database)).2)

/-- All of the work's writes when it answers, none of them when it throws. -/
def transaction (work : Work Database Error Answer) : Work Database Error Answer :=
  fun database =>
    match work.perform database with
    | (.ok answer, after) => (.ok answer, after)
    | (.error error, _) => (.error error, database)

/-- The work as a function that changes everything or throws. -/
def outcome (work : Work Database Error Answer) (database : Database) :
    Except Error (Database × Answer) :=
  match work.perform database with
  | (.ok answer, after) => .ok (after, answer)
  | (.error error, _) => .error error

section

variable {work : Work Database Error Answer} {database : Database}

@[simp] theorem outcome_pure {answer : Answer} :
    outcome (pure answer : Work Database Error Answer) database = .ok (database, answer) := rfl

variable {error : Error} {next : Answer → Work Database Error Result}

@[simp] theorem outcome_throw :
    outcome (throw error : Work Database Error Answer) database = .error error := rfl

/-- Work after work is the second where the first has come to. -/
theorem outcome_bind :
    outcome (work >>= next) database =
      (outcome work database >>= fun (after, answer) => outcome (next answer) after) := by
  unfold outcome perform
  rw [ExceptT.run_bind, StateT.run_bind]
  rcases StateT.run (ExceptT.run work) database with ⟨answer | error, after⟩
  · rfl
  · rfl

variable {change : Database → Database} {condition : Prop}

@[simp] theorem outcome_write :
    outcome (write change : Work Database Error Unit) database = .ok (change database, ()) := rfl

@[simp] theorem outcome_read_bind {query : Database → Answer} :
    outcome (read query >>= next) database = outcome (next (query database)) database :=
  outcome_bind

@[simp] theorem outcome_write_bind {next : Unit → Work Database Error Result} :
    outcome (write change >>= next) database = outcome (next ()) (change database) :=
  outcome_bind

@[simp] theorem outcome_demand_bind [Decidable condition]
    {next : Unit → Work Database Error Result} :
    outcome (demand condition error >>= next) database =
      (require condition error >>= fun _ => outcome (next ()) database) := by
  rw [outcome_bind]
  unfold demand require
  by_cases holds : condition
  · rw [if_pos holds]
    rfl
  · rw [if_neg holds]
    rfl

@[simp] theorem outcome_within_bind {part : Database → Part} {replace : Database → Part → Database}
    {partWork : Part → Except Error Answer × Part} :
    outcome (within part replace partWork >>= next) database =
      ((partWork (part database)).1 >>= fun answer =>
        outcome (next answer) (replace database (partWork (part database)).2)) := by
  rw [outcome_bind]
  unfold outcome perform within
  simp only [StateT.run, ExceptT.run]
  rcases partWork (part database) with ⟨answer | error, after⟩
  · rfl
  · rfl

@[simp] theorem outcome_transaction :
    outcome (transaction work) database = outcome work database := by
  unfold outcome
  simp only [transaction, perform, StateT.run, ExceptT.run]
  rcases work database with ⟨answer | error, after⟩
  · rfl
  · rfl

/-- What a transaction does is its outcome, and nothing else. -/
theorem perform_transaction :
    (transaction work).perform database =
      match outcome work database with
      | .ok (after, answer) => (.ok answer, after)
      | .error error => (.error error, database) := by
  unfold outcome
  simp only [transaction, perform, StateT.run, ExceptT.run]
  rcases work database with ⟨answer | error, after⟩
  · rfl
  · rfl

/-- Work that throws leaves the database as it was. -/
def AllOrNothing (work : Work Database Error Answer) : Prop :=
  ∀ database error after, work.perform database = (.error error, after) → after = database

theorem allOrNothing_transaction : AllOrNothing (transaction work) := by
  intro database error after threw
  rw [perform_transaction] at threw
  split at threw
  · cases (Prod.mk.inj threw).1
  · exact (Prod.mk.inj threw).2.symm

theorem allOrNothing_throw : AllOrNothing (throw error : Work Database Error Answer) :=
  fun _ _ _ threw => (Prod.mk.inj threw).2.symm

/-- A check in front of such work only throws earlier. -/
theorem AllOrNothing.demand_bind [Decidable condition] {next : Unit → Work Database Error Answer}
    (rest : AllOrNothing (next ())) : AllOrNothing (demand condition error >>= next) := by
  intro database problem after threw
  by_cases holds : condition
  · apply rest database problem after
    rw [← threw]
    simp [perform, demand, require, holds, ExceptT.run, StateT.run, bind, ExceptT.bind,
      ExceptT.mk, ExceptT.bindCont, StateT.bind]
  · simp [perform, demand, require, holds, ExceptT.run, StateT.run, bind, ExceptT.bind,
      ExceptT.mk, ExceptT.bindCont, StateT.bind, pure] at threw
    exact (Prod.mk.inj threw).2.symm

end

end Work

end Triangle.Std
