import Bun.Sqlfmt

/-! What the query builder reads of package `schema`: fields, tables and the models bound to a
query.  A table is built by the struct-to-column mapping, which is not part of the source; this
module keeps of it the parts the builder reads, as the specification describes them. -/

namespace Bun

/-- A row of a model: the value of each of its fields, by field name. -/
abbrev Row := String → Value

/-- `schema.Field`: the column's name (`Name`), its quoted SQL name (`SQLName`), and whether it is
part of the primary key (`IsPK`). -/
structure Field where
  name : String
  sqlName : String
  isPK : Bool
  deriving DecidableEq, Repr

/-- `Field.AppendValue(fmter, b, strct)`: the literal of the field's value in a row. -/
def Field.appendValue (f : Field) (fmter : Formatter) (b : String) (strct : Row) : String :=
  b ++ fmter.appendValue (strct f.name)

/-- `schema.Table`.  `str` is `t.String()`, which `%s` prints in error messages.  The names of
the fields are distinct, as the keys of `FieldMap` are. -/
structure Table where
  sqlName : String
  «alias» : String
  fields : List Field
  softDeleteField : Option Field
  str : String
  names_nodup : (fields.map Field.name).Nodup

namespace Table

/-- Modelled from the spec: `primaryKeyFields()`, the primary-key fields in field order. -/
def pks (t : Table) : List Field := t.fields.filter (·.isPK)

/-- Modelled from the spec: `dataFields()`, the fields excluding primary keys. -/
def dataFields (t : Table) : List Field := t.fields.filter (!·.isPK)

/-- Modelled from the spec: `fieldByName(name)`, the field of that name or a not-found error. -/
def field (t : Table) (name : String) : Except String Field :=
  match t.fields.find? (·.name == name) with
  | some f => .ok f
  | none => .error ("unknown column " ++ name)

/-- Modelled from the spec: `CheckPKs()` fails unless the table declares a primary-key field. -/
def checkPKs (t : Table) : Option String :=
  if t.pks.isEmpty then some "table has no primary key" else none

end Table

/-- An example table: `users`, aliased `user`, with the primary key `id`, a column `name` and
the soft-delete column `deleted_at`. -/
def users : Table where
  sqlName := "users"
  «alias» := "user"
  fields := [⟨"id", "id", true⟩, ⟨"name", "name", false⟩, ⟨"deleted_at", "deleted_at", false⟩]
  softDeleteField := some ⟨"deleted_at", "deleted_at", false⟩
  str := "model=User"
  names_nodup := by decide

/-- What `appendWherePK` distinguishes of a table model: a struct with its row, a slice with the
rows of its elements in order, or another table model, named as `%T` prints its type. -/
inductive TableModelKind where
  | strct (row : Row)
  | slice (rows : List Row)
  | other (typeName : String)

/-- A table model (`tableModel`): its kind and its table, `tm.Table()`. -/
structure TableModel where
  table : Table
  kind : TableModelKind

/-- An example struct model of `users`: one row, with `id` 1 and every other column `NULL`. -/
def usersModel : TableModel := ⟨users, .strct fun name => if name = "id" then .int 1 else .null⟩

/-- A model that `newSingleModel` resolves a value into: a table model, or another model
(a scalar or a map), which has no table. -/
inductive Model where
  | table (tm : TableModel)
  | other

end Bun
