import Mathlib.Logic.Function.Basic
import SqlCsvServer.Execution.Footprint
import SqlCsvServer.Execution.RowBuilding
import SqlCsvServer.Foundation.NumberedTable

/-!
# What the statements are for

A database without files: each table is a list of numbered rows, an INSERT puts a row
behind the others, and a SELECT looks at all of them.  This says what the executor is to
do; how it does that is not repeated here.
-/

namespace SqlCsvServer
namespace Execution

open Foundation Common Storage Index Sql

/-- The tables by the names under which they are stored. -/
abbrev Database := Bytes -> Option (NumberedTable Bytes Bytes)

/-- The answer to a statement. -/
inductive Answer where
  | rejected
  | inserted (number : Nat)
  | selected (table : ResultTable)

/-!
## One table
-/

section Table

variable (table : NumberedTable Bytes Bytes)

structure Insertable (statement : InsertStatement) : Prop where
  paired : statement.columns.length = statement.values.length
  known : forall column, column ∈ statement.columns -> column ∈ table.columns
  distinct : statement.columns.Nodup
  oneLine : forall value, value ∈ statement.values -> containsNewline value = false

/-- The value that an INSERT gives a column, empty where it gives none. -/
def givenRow (statement : InsertStatement) (column : Bytes) : Bytes :=
  (((insertPairs statement).find? fun pair => decide (pair.1 = column)).map
    Prod.snd).getD []

def shownColumns (statement : SelectStatement) : List Bytes :=
  if statement.selectAll then table.columns else statement.columns

def IsAttribute (name : Bytes) : Prop :=
  name = ascii "id" ∨ name ∈ table.columns

def attributeOf (name : Bytes) : Attribute Bytes :=
  if name = ascii "id" then .number else .of name

structure Answerable (statement : SelectStatement) : Prop where
  shown : forall name, name ∈ shownColumns table statement -> IsAttribute table name
  condition : forall condition, statement.condition = some condition ->
    IsAttribute table condition.whereColumn ∧
      (condition.whereColumn = ascii "id" ->
        (parseIntStrict condition.whereValue).isSome = true)

def isWanted (statement : SelectStatement) (row : (Bytes -> Bytes) × Nat) : Bool :=
  match statement.condition with
  | none => true
  | some condition =>
      match attributeOf condition.whereColumn with
      | .number => parseIntStrict condition.whereValue = some (row.2 : Int)
      | .of name => row.1 name = condition.whereValue

def shownTable (statement : SelectStatement) : ResultTable :=
  { headers := shownColumns table statement
    rows := table.select (fun number => decimalInt number)
      ((shownColumns table statement).map attributeOf) (isWanted statement) }

open Classical in
noncomputable def answerFrom : Statement -> NumberedTable Bytes Bytes × Answer
  | .insertStatement statement =>
      if Insertable table statement then
        (table.insert (givenRow statement), .inserted (table.rows.length + 1))
      else (table, .rejected)
  | .selectStatement statement =>
      if Answerable table statement then (table, .selected (shownTable table statement))
      else (table, .rejected)

end Table

theorem answerFrom_extends (table : NumberedTable Bytes Bytes) (statement : Statement) :
    NumberedTable.Extends table (answerFrom table statement).1 := by
  cases statement with
  | insertStatement statement =>
      simp only [answerFrom]
      split
      · exact NumberedTable.extends_insert _ _
      · exact NumberedTable.extends_refl _
  | selectStatement statement =>
      simp only [answerFrom]
      split
      · exact NumberedTable.extends_refl _
      · exact NumberedTable.extends_refl _

/-!
## Many tables
-/

namespace Database

noncomputable def execute (resolve : Bytes -> Option Bytes) (database : Database)
    (statement : Statement) : Database × Answer :=
  match resolve (namedTable statement) with
  | none => (database, .rejected)
  | some name =>
      match database name with
      | none => (database, .rejected)
      | some table =>
          (Function.update database name (some (answerFrom table statement).1),
            (answerFrom table statement).2)

/-- Statements in a row. -/
noncomputable def run (resolve : Bytes -> Option Bytes) :
    List Statement -> Database -> Database × List Answer
  | [], database => (database, [])
  | statement :: statements, database =>
      let rest := run resolve statements (database.execute resolve statement).1
      (rest.1, (database.execute resolve statement).2 :: rest.2)

variable {resolve : Bytes -> Option Bytes} {database : Database}

theorem execute_extends {name : Bytes} {table : NumberedTable Bytes Bytes}
    (h : database name = some table) (statement : Statement) :
    exists after, (database.execute resolve statement).1 name = some after ∧
      NumberedTable.Extends table after := by
  unfold execute
  cases resolve (namedTable statement) with
  | none => exact ⟨table, h, NumberedTable.extends_refl _⟩
  | some stored =>
      cases hstored : database stored with
      | none =>
          simp only [hstored]
          exact ⟨table, h, NumberedTable.extends_refl _⟩
      | some found =>
          simp only [hstored]
          by_cases hname : name = stored
          · subst hname
            rw [h] at hstored
            cases hstored
            exact ⟨_, Function.update_self .., answerFrom_extends _ _⟩
          · rw [Function.update_of_ne hname]
            exact ⟨table, h, NumberedTable.extends_refl _⟩

theorem run_extends {name : Bytes} {table : NumberedTable Bytes Bytes}
    (statements : List Statement) (h : database name = some table) :
    exists after, (database.run resolve statements).1 name = some after ∧
      NumberedTable.Extends table after := by
  induction statements generalizing database table with
  | nil => exact ⟨table, h, NumberedTable.extends_refl _⟩
  | cons statement statements ih =>
      rcases @execute_extends resolve database name table h statement with
        ⟨next, hnext, hfirst⟩
      rcases ih hnext with ⟨after, hafter, hrest⟩
      exact ⟨after, hafter, hfirst.trans hrest⟩

end Database

end Execution
end SqlCsvServer
