import Bun.Query.Builder

/-! `CreateIndexQuery`: its builder methods, as calls on the query, and `AppendQuery`, which
renders `CREATE [UNIQUE] INDEX ... ON table [USING ...] (columns) [INCLUDE (...)] [WHERE ...]`.
Every builder method but `ExcludeColumn` only assigns or appends; `ExcludeColumn` can panic. -/

namespace Bun

/-- `CreateIndexQuery`. -/
structure CreateIndexQuery extends WhereBaseQuery where
  unique : Bool := false
  fulltext : Bool := false
  spatial : Bool := false
  concurrently : Bool := false
  ifNotExists : Bool := false
  index : QueryWithArgs := ⟨"", none⟩
  «using» : QueryWithArgs := ⟨"", none⟩
  «include» : List QueryWithArgs := []

/-- `NewCreateIndexQuery(db)`: the connection is not modelled. -/
def newCreateIndexQuery : CreateIndexQuery := {}

namespace CreateIndexQuery

/-- A call of a builder method of `CreateIndexQuery`; `model` is given what `newSingleModel`
resolves its argument into. -/
inductive Call where
  | db
  | model (resolved : Except String Model)
  | unique
  | concurrently
  | ifNotExists
  | index (query : String) (args : Option (List Value))
  | table (tables : List String)
  | tableExpr (query : String) (args : Option (List Value))
  | modelTableExpr (query : String) (args : Option (List Value))
  | «using» (query : String) (args : Option (List Value))
  | column (columns : List String)
  | columnExpr (query : String) (args : Option (List Value))
  | excludeColumn (columns : List String)
  | «include» (columns : List String)
  | includeExpr (query : String) (args : Option (List Value))
  | where (query : String) (args : Option (List Value))
  | whereOr (query : String) (args : Option (List Value))
  | whereGroup (sep : String) (fn : WhereCalls)

/-- The method a call makes.  `DB` changes only the connection. -/
def step (q : CreateIndexQuery) : Call → Except Fault CreateIndexQuery
  | .db => .ok q
  | .model resolved => .ok { q with toBaseQuery := q.toBaseQuery.setTableModel resolved }
  | .unique => .ok { q with unique := true }
  | .concurrently => .ok { q with concurrently := true }
  | .ifNotExists => .ok { q with ifNotExists := true }
  | .index query args => .ok { q with index := safeQuery query args }
  | .table tables =>
    .ok { q with toBaseQuery := tables.foldl (fun b t => b.addTable (unsafeIdent t)) q.toBaseQuery }
  | .tableExpr query args => .ok { q with toBaseQuery := q.toBaseQuery.addTable (safeQuery query args) }
  | .modelTableExpr query args => .ok { q with modelTable := safeQuery query args }
  | .using query args => .ok { q with «using» := safeQuery query args }
  | .column columns =>
    .ok { q with
      toBaseQuery := columns.foldl (fun b c => b.addColumn (unsafeIdent c)) q.toBaseQuery }
  | .columnExpr query args =>
    .ok { q with toBaseQuery := q.toBaseQuery.addColumn (safeQuery query args) }
  | .excludeColumn columns =>
    (fun b => { q with toBaseQuery := b }) <$> q.toBaseQuery.excludeColumn columns
  | .include columns => .ok { q with «include» := q.include ++ columns.map unsafeIdent }
  | .includeExpr query args => .ok { q with «include» := q.include ++ [safeQuery query args] }
  | .where query args =>
    .ok { q with toWhereQuery := q.toWhereQuery.addWhere (safeQueryWithSep query args " AND ") }
  | .whereOr query args =>
    .ok { q with toWhereQuery := q.toWhereQuery.addWhere (safeQueryWithSep query args " OR ") }
  | .whereGroup sep fn => .ok { q with toWhereQuery := q.toWhereQuery.addWhereGroup sep fn.run }

/-- The calls one after another, up to the first panic. -/
def run (q : CreateIndexQuery) : List Call → Except Fault CreateIndexQuery
  | [] => .ok q
  | c :: cs => q.step c >>= fun q => q.run cs

/-- `AppendQuery`. -/
def appendQuery (q : CreateIndexQuery) (fmter : Formatter) (b : String) : Except Fault String :=
  match q.err with
  | some err => .error (.error err)
  | none => do
    let b := b ++ "CREATE "
    let b := if q.unique then b ++ "UNIQUE " else b
    let b := if q.fulltext then b ++ "FULLTEXT " else b
    let b := if q.spatial then b ++ "SPATIAL " else b
    let b := b ++ "INDEX "
    let b := if q.concurrently then b ++ "CONCURRENTLY " else b
    let b := if q.ifNotExists then b ++ "IF NOT EXISTS " else b
    let b ← q.index.appendQuery fmter b
    let b ← q.appendFirstTable fmter (b ++ " ON ")
    let b ← if !q.using.isZero then q.using.appendQuery fmter (b ++ " USING ") else pure b
    let b ← appendList ", " (fun col => col.appendQuery fmter) (b ++ " (") (q.columns.getD [])
    let b := b ++ ")"
    let b ← if q.include.length > 0 then
        (· ++ ")") <$> appendList ", " (fun col => col.appendQuery fmter) (b ++ " INCLUDE (")
          q.include
      else pure b
    q.appendWhere fmter b

end CreateIndexQuery

end Bun
