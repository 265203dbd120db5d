import Bun.Proof.CreateIndexRun
import Bun.Proof.WhereClause

/-! The sticky error.  A builder call never returns an error: it hands it to `setErr`, which
keeps the first.  So after any run the query's error is the first that a call recorded, and
`AppendQuery` returns it before writing anything. -/

namespace Bun

namespace BaseQuery

end BaseQuery

namespace WhereBaseQuery

end WhereBaseQuery

namespace BaseQuery

theorem appends_appendFirstTable (q : BaseQuery) (fmter : Formatter) :
    Appends (q.appendFirstTable fmter) := fun b => by
  unfold appendFirstTable _appendFirstTable
  split
  · exact appends_appendQuery _ fmter b
  · split
    · simp
    · split
      · exact appends_appendQuery _ fmter b
      · rfl

/-- `appendFirstTable` fails only with an error it returns. -/
theorem noPanic_appendFirstTable (q : BaseQuery) (fmter : Formatter) (b : String) :
    NoPanic (q.appendFirstTable fmter b) := by
  unfold appendFirstTable _appendFirstTable
  split
  · exact noPanic_appendResult _ b
  · split
    · exact noPanic_ok _
    · split
      · exact noPanic_appendResult _ b
      · exact fun _ h => by cases h; exact ⟨_, rfl⟩

end BaseQuery

namespace CreateIndexQuery

/-- The appenders that `AppendQuery` runs after the check of the error, in order: its fixed
words, and the composers it calls, each of which can fail. -/
def stages (q : CreateIndexQuery) (fmter : Formatter) : List (String → Except Fault String) :=
  [fun b => .ok (b ++ "CREATE "),
   fun b => .ok (if q.unique then b ++ "UNIQUE " else b),
   fun b => .ok (if q.fulltext then b ++ "FULLTEXT " else b),
   fun b => .ok (if q.spatial then b ++ "SPATIAL " else b),
   fun b => .ok (b ++ "INDEX "),
   fun b => .ok (if q.concurrently then b ++ "CONCURRENTLY " else b),
   fun b => .ok (if q.ifNotExists then b ++ "IF NOT EXISTS " else b),
   q.index.appendQuery fmter,
   fun b => q.appendFirstTable fmter (b ++ " ON "),
   fun b => if !q.using.isZero then q.using.appendQuery fmter (b ++ " USING ") else .ok b,
   fun b => appendList ", " (fun col => col.appendQuery fmter) (b ++ " (") (q.columns.getD []),
   fun b => .ok (b ++ ")"),
   fun b => if q.include.length > 0 then
       (· ++ ")") <$> appendList ", " (fun col => col.appendQuery fmter) (b ++ " INCLUDE (")
         q.include
     else .ok b,
   q.appendWhere fmter]

theorem appendQuery_eq_runChain {q : CreateIndexQuery} (h : q.err = none) (fmter : Formatter)
    (b : String) : q.appendQuery fmter b = runChain (q.stages fmter) b := by
  unfold appendQuery stages
  rw [h]
  cases hu : q.using.isZero <;> by_cases hi : q.include.length > 0 <;>
    simp only [runChain, ok_bind, bind_ok, hu, hi, Bool.not_false, Bool.not_true, Bool.false_eq_true,
      ite_true, ite_false] <;> rfl

theorem stages_appends {q : CreateIndexQuery} (hq : q.TableBound) (fmter : Formatter) :
    ∀ f ∈ q.stages fmter, Appends f := by
  have hcols := appends_appendList (fun col => appends_appendQuery col fmter) ", "
  simp only [stages, List.forall_mem_cons, List.not_mem_nil, false_imp_iff, implies_true,
    and_true]
  exact ⟨appends_pure _, appends_okIf _ _, appends_okIf _ _, appends_okIf _ _, appends_pure _,
    appends_okIf _ _, appends_okIf _ _, appends_appendQuery _ fmter,
    (BaseQuery.appends_appendFirstTable _ fmter).append_const _,
    ((appends_appendQuery _ fmter).append_const _).ite_ok _, (hcols _).append_const _,
    appends_pure _, (((hcols _).append_const _).map_append _).ite_ok _,
    WhereBaseQuery.appends_appendWhere hq fmter⟩

/-- No stage panics when the table is bound and the primary-key predicate is off. -/
theorem stages_noPanic {q : CreateIndexQuery} (hq : q.TableBound)
    (hpk : q.flags.has wherePKFlag = false) (fmter : Formatter) :
    ∀ f ∈ q.stages fmter, ∀ b, NoPanic (f b) := by
  have hcols := noPanic_appendList (fun col b => noPanic_appendResult (fmter.appendQuery col) b)
    ", "
  simp only [stages, List.forall_mem_cons, List.not_mem_nil, false_imp_iff, implies_true,
    and_true]
  exact ⟨fun _ => noPanic_ok _, fun _ => noPanic_ok _, fun _ => noPanic_ok _,
    fun _ => noPanic_ok _, fun _ => noPanic_ok _, fun _ => noPanic_ok _, fun _ => noPanic_ok _,
    fun _ => noPanic_appendResult _ _, fun _ => BaseQuery.noPanic_appendFirstTable _ fmter _,
    fun b => noPanic_ite_ok (noPanic_appendResult _ _) _ b, fun b => hcols _ _,
    fun _ => noPanic_ok _, fun b => noPanic_ite_ok ((hcols _ _).map _) _ b,
    WhereBaseQuery.noPanic_appendWhere hq hpk fmter⟩

/-- `AppendQuery` never panics on a query that methods build: it fails only with an error that
the Go code returns. -/
theorem appendQuery_noPanic {calls : List Call} {q : CreateIndexQuery}
    (h : newCreateIndexQuery.run calls = .ok q) (fmter : Formatter) (b : String) :
    NoPanic (q.appendQuery fmter b) := by
  cases he : q.err with
  | some e => simp only [appendQuery, he]; exact fun _ h => by cases h; exact ⟨e, rfl⟩
  | none =>
    rw [appendQuery_eq_runChain he]
    exact noPanic_runChain (stages_noPanic (run_tableBound h) (by rw [run_flags h]; rfl) fmter) b

/-- A query bound to `users` with an index on `name`. -/
theorem appendQuery_noPanic_users :
    ∃ q : CreateIndexQuery, newCreateIndexQuery.run [.model (.ok (.table usersModel)),
        .index "idx" none, .column ["name"]] = .ok q ∧ NoPanic (q.appendQuery plainFormatter "") :=
  ⟨_, rfl, @appendQuery_noPanic [.model (.ok (.table usersModel)), .index "idx" none,
    .column ["name"]] _ rfl plainFormatter ""⟩

end CreateIndexQuery

end Bun
