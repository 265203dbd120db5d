import Bun.Query.Base

/-! The smaller composers of `query_base.go` that insert and update queries embed: `RETURNING`,
the values given for columns, and `SET`. -/

namespace Bun

/-- `returningQuery`: explicit `RETURNING` expressions, and the fields to return when there is
none. -/
structure ReturningQuery where
  returning : List QueryWithArgs := []
  returningFields : List Field := []

namespace ReturningQuery

/-- `addReturning`. -/
def addReturning (q : ReturningQuery) (ret : QueryWithArgs) : ReturningQuery :=
  { q with returning := q.returning ++ [ret] }

/-- `addReturningField`: ignored once an expression was added, and for a field already there.
Fields are compared by identity, which for the fields of a table is equality. -/
def addReturningField (q : ReturningQuery) (field : Field) : ReturningQuery :=
  if q.returning.length > 0 then q
  else if q.returningFields.any (· == field) then q
  else { q with returningFields := q.returningFields ++ [field] }

/-- `hasReturning`: a single expression `null` or `NULL` turns `RETURNING` off. -/
def hasReturning (q : ReturningQuery) : Bool :=
  match q.returning with
  | [ret] => !(ret.query == "null" || ret.query == "NULL")
  | _ => q.returning.length > 0 || q.returningFields.length > 0

/-- `appendReturning`. -/
def appendReturning (q : ReturningQuery) (fmter : Formatter) (b : String) : Except Fault String :=
  if !q.hasReturning then .ok b
  else do
    let b ← appendList ", " (fun f => f.appendQuery fmter) (b ++ " RETURNING ") q.returning
    if q.returning.length > 0 then pure b else pure (appendColumns b "" q.returningFields)

end ReturningQuery

/-- A call that adds to `RETURNING`. -/
inductive ReturningCall where
  | addReturning (ret : QueryWithArgs)
  | addReturningField (field : Field)

namespace ReturningQuery

/-- One call. -/
def step (q : ReturningQuery) : ReturningCall → ReturningQuery
  | .addReturning ret => q.addReturning ret
  | .addReturningField field => q.addReturningField field

/-- The calls one after another. -/
def run (q : ReturningQuery) : List ReturningCall → ReturningQuery
  | [] => q
  | c :: cs => (q.step c).run cs

end ReturningQuery

/-- `columnValue`. -/
structure ColumnValue where
  column : String
  value : QueryWithArgs

/-- `customValueQuery`: the values of the model's columns, by column (a Go map, here a list
with one entry per column), and the values of other columns in call order. -/
structure CustomValueQuery where
  modelValues : List (String × QueryWithArgs) := []
  extraValues : List ColumnValue := []

/-- `m[column] = value` for a map given as a list of entries. -/
def mapSet (m : List (String × QueryWithArgs)) (column : String) (value : QueryWithArgs) :
    List (String × QueryWithArgs) :=
  if m.any (·.1 == column) then m.map fun e => if e.1 == column then (column, value) else e
  else m ++ [(column, value)]

/-- `addValue`: a column of the table's `FieldMap` goes to `modelValues`, another to
`extraValues`. -/
def CustomValueQuery.addValue (q : CustomValueQuery) (table : Table) (column value : String)
    (args : Option (List Value)) : CustomValueQuery :=
  if table.fields.any (·.name == column) then
    { q with modelValues := mapSet q.modelValues column (safeQuery value args) }
  else { q with extraValues := q.extraValues ++ [⟨column, safeQuery value args⟩] }

/-- An `addValue` call: the column, the text of the value and its arguments. -/
structure ValueCall where
  column : String
  value : String
  args : Option (List Value)

/-- `addValue` calls one after another, all for the same table. -/
def CustomValueQuery.run (q : CustomValueQuery) (table : Table) : List ValueCall → CustomValueQuery
  | [] => q
  | c :: cs => (q.addValue table c.column c.value c.args).run table cs

/-- `setQuery`. -/
structure SetQuery where
  set : List QueryWithArgs := []

/-- `addSet`. -/
def SetQuery.addSet (q : SetQuery) (set : QueryWithArgs) : SetQuery := { set := q.set ++ [set] }

/-- `appendSet`. -/
def SetQuery.appendSet (q : SetQuery) (fmter : Formatter) (b : String) : Except Fault String :=
  appendList ", " (fun f => f.appendQuery fmter) (b ++ " SET ") q.set

end Bun
