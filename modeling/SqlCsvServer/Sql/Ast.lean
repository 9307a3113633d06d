import SqlCsvServer.Foundation.Bytes

/-!
# Statements: `sql/ast.h`
-/

namespace SqlCsvServer
namespace Sql

open Foundation

structure InsertStatement where
  tableName : Bytes
  columns : List Bytes
  values : List Bytes
deriving DecidableEq

/-- `where_column` and `where_value` of a statement with a condition. -/
structure WhereCondition where
  whereColumn : Bytes
  whereValue : Bytes
deriving DecidableEq

/-- `SelectStatement`; `has_where` says whether there is a condition. -/
structure SelectStatement where
  tableName : Bytes
  columns : List Bytes
  selectAll : Bool
  condition : Option WhereCondition
deriving DecidableEq

inductive Statement where
  | insertStatement (statement : InsertStatement)
  | selectStatement (statement : SelectStatement)
deriving DecidableEq

/-- The values of an INSERT are C strings. -/
def InsertStatement.ValuesNulFree (statement : InsertStatement) : Prop :=
  forall value, value ∈ statement.values -> NulFree value

/-- The values a statement would store are C strings. -/
def Statement.ValuesNulFree : Statement -> Prop
  | .insertStatement statement => statement.ValuesNulFree
  | .selectStatement _ => True

end Sql
end SqlCsvServer
