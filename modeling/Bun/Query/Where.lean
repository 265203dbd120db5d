import Bun.Query.Base

/-! `WhereQuery` and `whereBaseQuery` of `query_base.go`: the list of predicates of a query, the
grouping of predicates in parentheses, and the rendering of the `WHERE` clause, with its
soft-delete filter and its primary-key predicate. -/

namespace Bun

/-- `WhereQuery`: the predicates, each with the separator that joins it to the one before.  A
group is spliced into the list between two markers, fragments with empty text and `nil`
arguments. -/
structure WhereQuery where
  «where» : List QueryWithSep := []

namespace WhereQuery

/-- `addWhere`. -/
def addWhere (q : WhereQuery) (w : QueryWithSep) : WhereQuery := { «where» := q.where ++ [w] }

/-- `addWhereGroup`: `fn` builds the group on a fresh query.  A non-empty group loses the
separator of its first predicate and is spliced between the markers `sep + "("` and `")"`. -/
def addWhereGroup (q : WhereQuery) (sep : String) (fn : WhereQuery → WhereQuery) : WhereQuery :=
  match (fn {}).where with
  | [] => q
  | w :: ws =>
    let q := q.addWhere (safeQueryWithSep "" none (sep ++ "("))
    let q : WhereQuery := { «where» := q.where ++ ({ w with sep := "" } :: ws) }
    q.addWhere (safeQueryWithSep "" none ")")

end WhereQuery

/-- A sequence of `Where`, `WhereOr` and `WhereGroup` calls on a `WhereQuery`.  The calls of a
group are those its function makes on the fresh query it is given. -/
inductive WhereCalls where
  | done
  | where (query : String) (args : Option (List Value)) (next : WhereCalls)
  | whereOr (query : String) (args : Option (List Value)) (next : WhereCalls)
  | whereGroup (sep : String) (fn : WhereCalls) (next : WhereCalls)

/-- The query that the calls build from `q`: `Where` adds its predicate with `" AND "`,
`WhereOr` with `" OR "`. -/
def WhereCalls.run : WhereCalls → WhereQuery → WhereQuery
  | .done, q => q
  | .where query args next, q => next.run (q.addWhere (safeQueryWithSep query args " AND "))
  | .whereOr query args next, q => next.run (q.addWhere (safeQueryWithSep query args " OR "))
  | .whereGroup sep fn next, q => next.run (q.addWhereGroup sep fn.run)

/-- `whereBaseQuery`. -/
structure WhereBaseQuery extends BaseQuery, WhereQuery

namespace WhereBaseQuery

/-- One entry of the loop of `_appendWhere`, after its separator: a marker (empty text, `nil`
arguments) writes nothing, a predicate is written in parentheses. -/
def appendWhereItem (fmter : Formatter) (w : QueryWithSep) (b : String) : Except Fault String :=
  if w.query == "" && w.args.isNone then .ok b
  else (· ++ ")") <$> w.appendQuery fmter (b ++ "(")

/-- `_appendWhere`: every entry but the first is preceded by its own separator. -/
def _appendWhere (fmter : Formatter) (b : String) : List QueryWithSep → Except Fault String
  | [] => .ok b
  | w :: ws =>
    appendWhereItem fmter w b >>= fun b =>
      ws.foldlM (fun b w => appendWhereItem fmter w (b ++ w.sep)) b

/-- `appendWhereSoftDelete`, after the table's alias: the column of `q.tableModel.Table()`. -/
def appendWhereSoftDelete (q : WhereBaseQuery) (b : String) : Except Fault String :=
  match q.tableModel with
  | none => .error nilDereference
  | some tm =>
    match tm.table.softDeleteField with
    | none => .error nilDereference
    | some f =>
      .ok (b ++ "." ++ f.sqlName ++ if q.flags.has deletedFlag then " IS NOT NULL" else " IS NULL")

/-- `appendWherePKStruct`, for the table `q.table`: `(alias.pk = value AND ...)`, with `?` for
the values under the template formatter. -/
def appendWherePKStruct (t : Table) (fmter : Formatter) (b : String) (strct : Row) : String :=
  let b := b ++ "("
  let b := appendEach " AND " (fun f b =>
    let b := b ++ t.alias ++ "." ++ f.sqlName ++ " = "
    if fmter.isNop then b ++ "?" else f.appendValue fmter b strct) b t.pks
  b ++ ")"

/-- `appendWherePKSlice`, for the table `q.table`: `pks IN (values, ...)`, each list in
parentheses when the key has more than one column.  Under the template formatter the loop over
the elements breaks at the second one. -/
def appendWherePKSlice (t : Table) (fmter : Formatter) (b : String) (slice : List Row) : String :=
  let multi := t.pks.length > 1
  let b := if multi then b ++ "(" else b
  let b := appendColumns b t.alias t.pks
  let b := if multi then b ++ ")" else b
  let b := b ++ " IN ("
  let appendElem := fun (el : Row) (b : String) =>
    let b := if multi then b ++ "(" else b
    let b := appendEach ", " (fun f b =>
      if fmter.isNop then b ++ "?" else f.appendValue fmter b el) b t.pks
    if multi then b ++ ")" else b
  let b := appendEach ", " appendElem b (if fmter.isNop then slice.take 1 else slice)
  b ++ ")"

/-- `appendWherePK`: `q.table` is dereferenced by `CheckPKs`, and the type switch on
`q.tableModel` names any other table model, `nil` included, in its error. -/
def appendWherePK (q : WhereBaseQuery) (fmter : Formatter) (b : String) : Except Fault String :=
  match q.table with
  | none => .error nilDereference
  | some t =>
    match t.checkPKs with
    | some err => .error (.error err)
    | none =>
      match q.tableModel with
      | some ⟨_, .strct strct⟩ => .ok (appendWherePKStruct t fmter b strct)
      | some ⟨_, .slice slice⟩ => .ok (appendWherePKSlice t fmter b slice)
      | some ⟨_, .other typeName⟩ => .error (.error ("bun: WherePK does not support " ++ typeName))
      | none => .error (.error "bun: WherePK does not support <nil>")

/-- `appendWhere`: ` WHERE `, the predicates, then the soft-delete filter and the primary-key
predicate, each after ` AND ` when something was written after ` WHERE `. -/
def appendWhere (q : WhereBaseQuery) (fmter : Formatter) (b : String) : Except Fault String :=
  if q.where.length = 0 && !q.isSoftDelete && !q.flags.has wherePKFlag then .ok b
  else do
    let b := b ++ " WHERE "
    let startLen := b.length
    let b ← if q.where.length > 0 then _appendWhere fmter b q.where else pure b
    let b ← if q.isSoftDelete then do
        let b := if b.length > startLen then b ++ " AND " else b
        match q.tableModel with
        | none => throw nilDereference
        | some tm => q.appendWhereSoftDelete (b ++ tm.table.alias)
      else pure b
    if q.flags.has wherePKFlag then
      q.appendWherePK fmter (if b.length > startLen then b ++ " AND " else b)
    else pure b

/-- `mustAppendWhere`, the `WHERE` clause of an update or a delete. -/
def mustAppendWhere (q : WhereBaseQuery) (fmter : Formatter) (b : String) :
    Except Fault String :=
  if q.where.length = 0 && !q.flags.has wherePKFlag then
    .error (.error "bun: Update and Delete queries require Where clause (try WherePK)")
  else q.appendWhere fmter b

end WhereBaseQuery

end Bun
