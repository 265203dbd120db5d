import Bun.Schema.Table

/-! `baseQuery` of `query_base.go`: the state that every query type embeds, the builder calls
that change it, and the appenders that render its tables and columns.  A builder call never
returns an error: it records the first one in `err`, and the query's `AppendQuery` returns it.
The connection (`db`, `dbi`) and the execution of a query (`scan`, `exec`) are not modelled. -/

namespace Bun

/-- `internal.Flag`, a `uint64` bit set. -/
abbrev Flag := BitVec 64

/-- `wherePKFlag = 1 << iota`. -/
def wherePKFlag : Flag := 1 <<< 0

/-- `deletedFlag`. -/
def deletedFlag : Flag := 1 <<< 1

/-- `allWithDeletedFlag`. -/
def allWithDeletedFlag : Flag := 1 <<< 2

/-- `Flag.Set`. -/
def Flag.set (flag other : Flag) : Flag := flag ||| other

/-- `Flag.Remove`: `flag &^ other`. -/
def Flag.remove (flag other : Flag) : Flag := flag &&& ~~~other

/-- `Flag.Has`. -/
def Flag.has (flag other : Flag) : Bool := flag &&& other != 0

theorem Flag.has_twoPow (f : Flag) {k : Nat} (hk : BitVec.twoPow 64 k ≠ 0) :
    f.has (BitVec.twoPow 64 k) = f.getLsbD k := by
  rw [Flag.has, BitVec.and_twoPow]
  split <;> simp_all

@[simp] theorem Flag.has_wherePKFlag (f : Flag) : f.has wherePKFlag = f.getLsbD 0 :=
  f.has_twoPow (by decide)

@[simp] theorem Flag.has_deletedFlag (f : Flag) : f.has deletedFlag = f.getLsbD 1 :=
  f.has_twoPow (by decide)

@[simp] theorem Flag.has_allWithDeletedFlag (f : Flag) : f.has allWithDeletedFlag = f.getLsbD 2 :=
  f.has_twoPow (by decide)

@[simp] theorem Flag.getLsbD_set (f x : Flag) (i : Nat) :
    (f.set x).getLsbD i = (f.getLsbD i || x.getLsbD i) :=
  BitVec.getLsbD_or

@[simp] theorem Flag.getLsbD_remove (f x : Flag) (i : Nat) :
    (f.remove x).getLsbD i = (f.getLsbD i && !x.getLsbD i) := by
  simp only [Flag.remove, BitVec.getLsbD_and, BitVec.getLsbD_not]
  by_cases h : i < 64
  · simp [h]
  · simp [h, BitVec.getLsbD_ge f i (by omega)]

theorem getLsbD_twoPow_64 {k : Nat} (i : Nat) (hk : k < 64) :
    (BitVec.twoPow 64 k).getLsbD i = decide (i = k) := by
  rw [BitVec.getLsbD_twoPow]
  by_cases h : i = k <;> simp [h, hk]
  omega

@[simp] theorem getLsbD_wherePKFlag (i : Nat) : wherePKFlag.getLsbD i = decide (i = 0) :=
  getLsbD_twoPow_64 i (by decide)

@[simp] theorem getLsbD_deletedFlag (i : Nat) : deletedFlag.getLsbD i = decide (i = 1) :=
  getLsbD_twoPow_64 i (by decide)

@[simp] theorem getLsbD_allWithDeletedFlag (i : Nat) :
    allWithDeletedFlag.getLsbD i = decide (i = 2) :=
  getLsbD_twoPow_64 i (by decide)

/-- `withQuery`: a common table expression, its name and its sub-query: what the sub-query's
`AppendQuery` writes, and what its `AppendColumns` writes when it is a `ColumnsAppender`. -/
structure WithQuery where
  name : String
  query : Formatter → Except String String
  columns : Option (Formatter → Except String String)

/-- `baseQuery`.  The zero value is the state of a new query. -/
structure BaseQuery where
  model : Option Model := none
  err : Option String := none
  tableModel : Option TableModel := none
  table : Option Table := none
  «with» : List WithQuery := []
  modelTable : QueryWithArgs := ⟨"", none⟩
  tables : List QueryWithArgs := []
  columns : Option (List QueryWithArgs) := none
  flags : Flag := 0

namespace BaseQuery

/-- `setErr`: only the first error is kept. -/
def setErr (q : BaseQuery) (err : String) : BaseQuery :=
  if q.err.isNone then { q with err := some err } else q

/-- `setTableModel`, given what `newSingleModel` resolved the value into. -/
def setTableModel (q : BaseQuery) (resolved : Except String Model) : BaseQuery :=
  match resolved with
  | .error err => q.setErr err
  | .ok model =>
    match model with
    | .table tm => { q with model := some model, tableModel := some tm, table := some tm.table }
    | .other => { q with model := some model }

/-- `checkSoftDelete`. -/
def checkSoftDelete (q : BaseQuery) : Option String :=
  match q.table with
  | none => some "bun: can't use soft deletes without a table"
  | some t =>
    if t.softDeleteField.isNone then some (t.str ++ " does not have a soft delete field")
    else if q.tableModel.isNone then some "bun: can't use soft deletes without a table model"
    else none

/-- `whereDeleted`: select only soft-deleted rows. -/
def whereDeleted (q : BaseQuery) : BaseQuery :=
  match q.checkSoftDelete with
  | some err => q.setErr err
  | none => { q with flags := (q.flags.set deletedFlag).remove allWithDeletedFlag }

/-- `whereAllWithDeleted`: select all rows, soft-deleted ones included. -/
def whereAllWithDeleted (q : BaseQuery) : BaseQuery :=
  match q.checkSoftDelete with
  | some err => q.setErr err
  | none => { q with flags := (q.flags.set allWithDeletedFlag).remove deletedFlag }

/-- `isSoftDelete`. -/
def isSoftDelete (q : BaseQuery) : Bool :=
  match q.table with
  | some t => t.softDeleteField.isSome && !q.flags.has allWithDeletedFlag
  | none => false

/-- `addWith`. -/
def addWith (q : BaseQuery) (w : WithQuery) : BaseQuery := { q with «with» := q.with ++ [w] }

/-- One entry of the loop of `appendWith`: `name [(columns)] AS (query)`. -/
def appendWithQuery (fmter : Formatter) (w : WithQuery) (b : String) : Except Fault String := do
  let b := b ++ fmter.appendIdent w.name
  let b ← match w.columns with
    | some columns => (· ++ ")") <$> appendResult (columns fmter) (b ++ " (")
    | none => pure b
  (· ++ ")") <$> appendResult (w.query fmter) (b ++ " AS (")

/-- `appendWith`. -/
def appendWith (q : BaseQuery) (fmter : Formatter) (b : String) : Except Fault String :=
  if q.with.isEmpty then .ok b
  else (· ++ " ") <$> appendList ", " (appendWithQuery fmter) (b ++ "WITH ") q.with

/-- `addTable`. -/
def addTable (q : BaseQuery) (table : QueryWithArgs) : BaseQuery :=
  { q with tables := q.tables ++ [table] }

/-- `addColumn`: `append(q.columns, column)`, which is never `nil`. -/
def addColumn (q : BaseQuery) (column : QueryWithArgs) : BaseQuery :=
  { q with columns := some (q.columns.getD [] ++ [column]) }

end BaseQuery

/-- The loop of `_excludeColumn`: the columns without the first raw identifier named `column`,
or `none` when there is no such column. -/
def removeIdent (column : String) : List QueryWithArgs → Option (List QueryWithArgs)
  | [] => none
  | col :: cols =>
    if col.args.isNone && col.query == column then some cols
    else (col :: ·) <$> removeIdent column cols

namespace BaseQuery

/-- `_excludeColumn`: the query without the column, or `none` (`false`) when it has no such
column, a `nil` list included. -/
def _excludeColumn (q : BaseQuery) (column : String) : Option BaseQuery :=
  q.columns.bind fun cols =>
    (removeIdent column cols).map fun cols => { q with columns := some cols }

/-- The loop of `excludeColumn` over the names: the first that cannot be found records an
error and ends it. -/
def excludeColumns (q : BaseQuery) : List String → BaseQuery
  | [] => q
  | column :: columns =>
    match q._excludeColumn column with
    | some q => q.excludeColumns columns
    | none => q.setErr ("bun: can't find column=" ++ quote column)

/-- `excludeColumn`.  A `nil` column list is first filled with the table's fields, which
dereferences `q.table`; appending no field leaves the list `nil`. -/
def excludeColumn (q : BaseQuery) (columns : List String) : Except Fault BaseQuery :=
  match q.columns with
  | none =>
    match q.table with
    | none => .error nilDereference
    | some t =>
      let cols := t.fields.map fun f => unsafeIdent f.name
      .ok ({ q with columns := if cols.isEmpty then none else some cols }.excludeColumns columns)
  | some _ => .ok (q.excludeColumns columns)

theorem setErr_eq (q : BaseQuery) (e : String) : ∃ err, q.setErr e = { q with err } := by
  unfold setErr
  split
  · exact ⟨_, rfl⟩
  · exact ⟨q.err, rfl⟩

theorem _excludeColumn_eq {q q' : BaseQuery} {column : String}
    (h : q._excludeColumn column = some q') : ∃ columns, q' = { q with columns } := by
  unfold _excludeColumn at h
  cases hc : q.columns with
  | none => simp [hc] at h
  | some cols =>
    simp only [hc, Option.some_bind] at h
    obtain ⟨_, -, rfl⟩ := Option.map_eq_some'.mp h
    exact ⟨_, rfl⟩

/-- The loop of `excludeColumn` changes only the columns and the error. -/
theorem excludeColumns_eq (q : BaseQuery) (columns : List String) :
    ∃ cols err, q.excludeColumns columns = { q with columns := cols, err } := by
  induction columns generalizing q with
  | nil => exact ⟨q.columns, q.err, rfl⟩
  | cons c cs ih =>
    unfold excludeColumns
    split
    · rename_i q' h
      obtain ⟨cols, rfl⟩ := _excludeColumn_eq h
      exact ih _
    · obtain ⟨err, h⟩ := setErr_eq q _
      exact ⟨q.columns, err, h⟩

/-- `excludeColumn`, when it returns, changes only the columns and the error. -/
theorem excludeColumn_eq {q q' : BaseQuery} {columns : List String}
    (h : q.excludeColumn columns = .ok q') : ∃ cols err, q' = { q with columns := cols, err } := by
  unfold excludeColumn at h
  split at h
  · split at h
    · cases h
    · cases h
      exact excludeColumns_eq _ columns
  · cases h
    exact excludeColumns_eq q columns

/-- `modelHasTableName`. -/
def modelHasTableName (q : BaseQuery) : Bool := !q.modelTable.isZero || q.table.isSome

/-- `hasTables`. -/
def hasTables (q : BaseQuery) : Bool := q.modelHasTableName || q.tables.length > 0

/-- `_appendFirstTable`. -/
def _appendFirstTable (q : BaseQuery) (fmter : Formatter) (b : String) (withAlias : Bool) :
    Except Fault String :=
  if !q.modelTable.isZero then q.modelTable.appendQuery fmter b
  else
    match q.table with
    | some t =>
      let b := b ++ fmter.formatQuery t.sqlName
      .ok (if withAlias && t.alias != t.sqlName then b ++ " AS " ++ t.alias else b)
    | none =>
      match q.tables with
      | table :: _ => table.appendQuery fmter b
      | [] => .error (.error "bun: query does not have a table")

/-- `appendFirstTable`. -/
def appendFirstTable (q : BaseQuery) (fmter : Formatter) (b : String) : Except Fault String :=
  q._appendFirstTable fmter b false

/-- `appendFirstTableWithAlias`. -/
def appendFirstTableWithAlias (q : BaseQuery) (fmter : Formatter) (b : String) :
    Except Fault String :=
  q._appendFirstTable fmter b true

/-- `hasMultiTables`. -/
def hasMultiTables (q : BaseQuery) : Bool :=
  if q.modelHasTableName then q.tables.length ≥ 1 else q.tables.length ≥ 2

/-- `appendOtherTables`.  `tables[1:]` of an empty slice panics. -/
def appendOtherTables (q : BaseQuery) (fmter : Formatter) (b : String) : Except Fault String := do
  let tables ← if !q.modelHasTableName then
      match q.tables with
      | [] => throw (.runtimeError "runtime error: slice bounds out of range [1:0]")
      | _ :: tables => pure tables
    else pure q.tables
  appendList ", " (fun table => table.appendQuery fmter) b tables

/-- `baseQuery.appendColumns`. -/
def appendColumns (q : BaseQuery) (fmter : Formatter) (b : String) : Except Fault String :=
  appendList ", " (fun f => f.appendQuery fmter) b (q.columns.getD [])

/-- The loop of `_getFields` over the columns: expressions are skipped, and each name is
resolved against `q.table`, which is dereferenced. -/
def getFieldsOf (q : BaseQuery) (omitPK : Bool) : List QueryWithArgs → Except Fault (List Field)
  | [] => .ok []
  | col :: cols =>
    if col.args.isSome then q.getFieldsOf omitPK cols
    else
      match q.table with
      | none => .error nilDereference
      | some t =>
        match t.field col.query with
        | .error err => .error (.error err)
        | .ok field =>
          if omitPK && field.isPK then q.getFieldsOf omitPK cols
          else (field :: ·) <$> q.getFieldsOf omitPK cols

/-- `_getFields`. -/
def _getFields (q : BaseQuery) (omitPK : Bool) : Except Fault (List Field) :=
  q.getFieldsOf omitPK (q.columns.getD [])

/-- `getFields`: the table is read through `q.tableModel.Table()`. -/
def getFields (q : BaseQuery) : Except Fault (List Field) :=
  match q.tableModel with
  | none => .error nilDereference
  | some tm => if (q.columns.getD []).length = 0 then .ok tm.table.fields else q._getFields false

/-- `getDataFields`: the table is read through `q.table`. -/
def getDataFields (q : BaseQuery) : Except Fault (List Field) :=
  if (q.columns.getD []).length = 0 then
    match q.table with
    | none => .error nilDereference
    | some t => .ok t.dataFields
  else q._getFields true

end BaseQuery

/-- `appendColumns(b, table, fields)`: the fields' SQL names, each qualified by `table` when it is
not empty. -/
def appendColumns (b : String) (table : String) (fields : List Field) : String :=
  appendEach ", " (fun f b => (if table.length > 0 then b ++ table ++ "." else b) ++ f.sqlName)
    b fields

/-- `AppendArg`: the named arguments a query substitutes, which all need its table. -/
def BaseQuery.appendArg (q : BaseQuery) (fmter : Formatter) (b : String) (name : String) :
    String × Bool :=
  match q.table with
  | none => (b, false)
  | some t =>
    match name with
    | "TableName" => (b ++ fmter.formatQuery t.sqlName, true)
    | "TableAlias" => (b ++ fmter.formatQuery t.alias, true)
    | "PKs" => (Bun.appendColumns b "" t.pks, true)
    | "TablePKs" => (Bun.appendColumns b t.alias t.pks, true)
    | "Columns" => (Bun.appendColumns b "" t.fields, true)
    | "TableColumns" => (Bun.appendColumns b t.alias t.fields, true)
    | _ => (b, false)

end Bun
