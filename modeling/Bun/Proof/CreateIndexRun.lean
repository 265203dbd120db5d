import Bun.Proof.Binding
import Bun.Query.CreateIndex

/-! The builder methods of `CreateIndexQuery` act on its `whereBaseQuery` as runs of base calls,
so every fact proved of the states that base runs reach holds of the create-index queries that
its methods build. -/

namespace Bun

/-- The base calls that leave the flags alone: all but `WhereDeleted`, `WhereAllWithDeleted` and
`WherePK`. -/
def BaseCall.keepsFlags : BaseCall → Bool
  | .whereDeleted | .whereAllWithDeleted | .wherePK => false
  | _ => true

namespace WhereBaseQuery

theorem step_flags {q q' : WhereBaseQuery} {c : BaseCall} (hc : c.keepsFlags)
    (h : q.step c = .ok q') : q'.flags = q.flags := by
  cases c with
  | setTableModel r =>
    cases h
    cases r with
    | error e =>
      show (q.toBaseQuery.setErr e).flags = _
      obtain ⟨err, h⟩ := q.toBaseQuery.setErr_eq e
      rw [h]
    | ok m => cases m <;> rfl
  | excludeColumn columns =>
    obtain ⟨_, _, rfl⟩ := step_excludeColumn h
    rfl
  | whereDeleted | whereAllWithDeleted | wherePK => cases hc
  | _ => cases h; rfl

theorem run_flags {calls : List BaseCall} {q q' : WhereBaseQuery}
    (hc : ∀ c ∈ calls, c.keepsFlags) (h : q.run calls = .ok q') : q'.flags = q.flags := by
  induction calls generalizing q with
  | nil => cases h; rfl
  | cons c cs ih =>
    obtain ⟨q₁, h₁, h⟩ := run_cons_ok h
    rw [ih (fun c' hc' => hc c' (List.mem_cons_of_mem c hc')) h,
      step_flags (hc c (List.mem_cons_self c cs)) h₁]

end WhereBaseQuery

namespace CreateIndexQuery

/-- The base calls that a method makes on the embedded `whereBaseQuery`. -/
def Call.toBase : Call → List BaseCall
  | .model resolved => [.setTableModel resolved]
  | .table tables => tables.map fun t => .addTable (unsafeIdent t)
  | .tableExpr query args => [.addTable (safeQuery query args)]
  | .modelTableExpr query args => [.setModelTable (safeQuery query args)]
  | .column columns => columns.map fun c => .addColumn (unsafeIdent c)
  | .columnExpr query args => [.addColumn (safeQuery query args)]
  | .excludeColumn columns => [.excludeColumn columns]
  | .where query args => [.where query args]
  | .whereOr query args => [.whereOr query args]
  | .whereGroup sep fn => [.whereGroup sep fn]
  | _ => []

theorem run_addTables (q : WhereBaseQuery) (tables : List String) :
    q.run (tables.map fun t => .addTable (unsafeIdent t)) =
      .ok { q with toBaseQuery := tables.foldl (fun b t => b.addTable (unsafeIdent t)) q.toBaseQuery } := by
  induction tables generalizing q with
  | nil => rfl
  | cons t ts ih => exact ih _

theorem run_addColumns (q : WhereBaseQuery) (columns : List String) :
    q.run (columns.map fun c => .addColumn (unsafeIdent c)) =
      .ok { q with
        toBaseQuery := columns.foldl (fun b c => b.addColumn (unsafeIdent c)) q.toBaseQuery } := by
  induction columns generalizing q with
  | nil => rfl
  | cons c cs ih => exact ih _

/-- A method changes the embedded `whereBaseQuery` as its base calls do, and panics when they
do. -/
theorem step_toWhereBaseQuery (q : CreateIndexQuery) (c : Call) :
    (·.toWhereBaseQuery) <$> q.step c = q.toWhereBaseQuery.run c.toBase := by
  cases c with
  | table tables => rw [Call.toBase, run_addTables]; rfl
  | column columns => rw [Call.toBase, run_addColumns]; rfl
  | excludeColumn columns =>
    simp only [step, Call.toBase, WhereBaseQuery.run, WhereBaseQuery.step]
    cases q.excludeColumn columns <;> rfl
  | _ => rfl

theorem Call.toBase_keepsFlags (c : Call) : ∀ b ∈ c.toBase, b.keepsFlags := by
  cases c <;> simp [Call.toBase, BaseCall.keepsFlags]

/-- `ExcludeColumn` on a new query, before any `Model`, panics, and so it does after a `Model`
whose resolution failed: no table was bound for it to read the fields of. -/
theorem excludeColumn_without_table_panics :
    newCreateIndexQuery.run [.excludeColumn ["name"]] = .error nilDereference ∧
      newCreateIndexQuery.run [.model (.error "bun: e"), .excludeColumn ["name"]] =
        .error nilDereference :=
  ⟨rfl, rfl⟩

/-- The create-index queries that some run of methods from a new query builds. -/
def Reachable (q : CreateIndexQuery) : Prop := ∃ calls, run newCreateIndexQuery calls = .ok q

theorem run_toWhereBaseQuery (q : CreateIndexQuery) (calls : List Call) :
    (·.toWhereBaseQuery) <$> q.run calls = q.toWhereBaseQuery.run (calls.flatMap Call.toBase) := by
  induction calls generalizing q with
  | nil => rfl
  | cons c cs ih =>
    rw [List.flatMap_cons, WhereBaseQuery.run_append, ← step_toWhereBaseQuery]
    simp only [run]
    cases q.step c with
    | error e => rfl
    | ok q' => exact ih q'

/-- The `whereBaseQuery` of a reachable create-index query is reachable by base calls. -/
theorem Reachable.toWhereBaseQuery {q : CreateIndexQuery} (h : q.Reachable) :
    q.toWhereBaseQuery.Reachable := by
  obtain ⟨calls, h⟩ := h
  refine ⟨calls.flatMap Call.toBase, ?_⟩
  have := run_toWhereBaseQuery newCreateIndexQuery calls
  rw [h] at this
  exact this.symm

/-- No method changes the flags: the create-index builder has no `WherePK`, `WhereDeleted` or
`WhereAllWithDeleted`. -/
theorem run_flags {calls : List Call} {q q' : CreateIndexQuery} (h : q.run calls = .ok q') :
    q'.flags = q.flags := by
  have hbase := run_toWhereBaseQuery q calls
  rw [h] at hbase
  refine WhereBaseQuery.run_flags (fun b hb => ?_) hbase.symm
  obtain ⟨c, -, hc⟩ := List.mem_flatMap.mp hb
  exact Call.toBase_keepsFlags c b hc

/-- A query that methods build keeps the binding of its table. -/
theorem run_tableBound {calls : List Call} {q : CreateIndexQuery}
    (h : newCreateIndexQuery.run calls = .ok q) : q.TableBound :=
  WhereBaseQuery.Reachable.tableBound (Reachable.toWhereBaseQuery ⟨calls, h⟩)

end CreateIndexQuery

end Bun
