import Bun.Proof.Binding

/-! The column list of a query.  `_excludeColumn` removes the first raw identifier of the name,
which is the first column equal to `UnsafeIdent(name)`, so `ExcludeColumn` never removes a column
expression (a fragment with arguments): the expressions of the list are those that the
`addColumn` calls of a run added, in order.  `getFields` reads the table through the table model
and `getDataFields` through `q.table`; under the binding they agree, the second returning the
first's fields without the primary key. -/

namespace Bun

/-- The column expressions of a list: the fragments with arguments. -/
def exprs (cols : List QueryWithArgs) : List QueryWithArgs := cols.filter (·.args.isSome)

@[simp] theorem exprs_nil : exprs [] = [] := rfl

@[simp] theorem exprs_append (cs ds : List QueryWithArgs) : exprs (cs ++ ds) = exprs cs ++ exprs ds :=
  List.filter_append _ _

/-- A raw identifier of the name is the column `UnsafeIdent(name)`. -/
theorem isIdent_iff (col : QueryWithArgs) (column : String) :
    (col.args.isNone && col.query == column) = true ↔ col = unsafeIdent column := by
  obtain ⟨query, args⟩ := col
  cases args with
  | none => simp [unsafeIdent]
  | some args => simp [unsafeIdent]

/-- `_excludeColumn`'s loop erases the first `UnsafeIdent(column)`, and fails without one. -/
theorem removeIdent_eq (column : String) (cols : List QueryWithArgs) :
    removeIdent column cols =
      if unsafeIdent column ∈ cols then some (cols.erase (unsafeIdent column)) else none := by
  induction cols with
  | nil => rfl
  | cons col cols ih =>
    by_cases hc : col = unsafeIdent column
    · subst hc
      simp [removeIdent]
    · have hc' := mt (isIdent_iff col column).mp hc
      have hm : unsafeIdent column ∈ col :: cols ↔ unsafeIdent column ∈ cols := by
        simp [Ne.symm hc]
      rw [removeIdent, if_neg hc', ih, List.erase_cons_tail (by simpa using hc)]
      by_cases hin : unsafeIdent column ∈ cols <;> simp [hin, hm]

theorem exprs_erase_ident (column : String) (cols : List QueryWithArgs) :
    exprs (cols.erase (unsafeIdent column)) = exprs cols := by
  induction cols with
  | nil => rfl
  | cons col cols ih =>
    rw [List.erase_cons]
    by_cases hc : col = unsafeIdent column
    · subst hc; simp [exprs]
    · simp only [beq_iff_eq, hc, if_false]
      simp only [exprs, List.filter_cons] at ih ⊢
      rw [ih]

namespace BaseQuery

@[simp] theorem setErr_columns (q : BaseQuery) (e : String) : (q.setErr e).columns = q.columns := by
  unfold setErr; split <;> rfl

/-- The loop of `excludeColumn` keeps the column expressions. -/
theorem excludeColumns_exprs (q : BaseQuery) (columns : List String) :
    exprs ((q.excludeColumns columns).columns.getD []) = exprs (q.columns.getD []) := by
  induction columns generalizing q with
  | nil => rfl
  | cons column columns ih =>
    unfold excludeColumns _excludeColumn
    cases hc : q.columns with
    | none => simp [hc]
    | some cols =>
      rw [Option.some_bind, removeIdent_eq]
      by_cases hm : unsafeIdent column ∈ cols
      · simp only [hm, if_true, Option.map_some']
        rw [ih]
        simp [exprs_erase_ident]
      · simp [hm, hc]

/-- `excludeColumn`, when it returns, keeps the column expressions; a `nil` list is first filled
with raw identifiers, which are not expressions. -/
theorem excludeColumn_exprs {q q' : BaseQuery} {columns : List String}
    (h : q.excludeColumn columns = .ok q') : exprs (q'.columns.getD []) = exprs (q.columns.getD []) := by
  unfold excludeColumn at h
  split at h
  · rename_i hc
    split at h
    · cases h
    · cases h
      rw [excludeColumns_exprs, hc]
      split <;> simp [exprs, List.filter_map, Function.comp_def]
  · cases h
    exact excludeColumns_exprs q columns

/-- With `omitPK`, `_getFields`'s loop resolves the same columns, fails at the same one, and
drops the primary-key fields. -/
theorem getFieldsOf_omitPK (q : BaseQuery) (cols : List QueryWithArgs) :
    q.getFieldsOf true cols = (·.filter (!·.isPK)) <$> q.getFieldsOf false cols := by
  induction cols with
  | nil => rfl
  | cons col cols ih =>
    unfold getFieldsOf
    split
    · exact ih
    · cases ht : q.table with
      | none => rfl
      | some t =>
        cases hf : t.field col.query with
        | error err => simp [hf]
        | ok field =>
          cases hx : q.getFieldsOf false cols <;> cases hpk : field.isPK <;> simp [ih, hx, hpk, hf]

/-- Without a table, `_getFields`'s loop panics at the first raw identifier, and returns no field
when every column is an expression. -/
theorem getFieldsOf_of_table_none {q : BaseQuery} (ht : q.table = none) (omitPK : Bool)
    (cols : List QueryWithArgs) :
    q.getFieldsOf omitPK cols = if cols.all (·.args.isSome) then .ok [] else .error nilDereference := by
  induction cols with
  | nil => rfl
  | cons col cols ih =>
    unfold getFieldsOf
    cases hc : col.args.isSome
    · simp [ht, hc]
    · simp [ih, hc]

end BaseQuery

/-- The column that a call adds: `addColumn`'s. -/
def BaseCall.addedColumns : BaseCall → List QueryWithArgs
  | .addColumn column => [column]
  | _ => []

namespace WhereBaseQuery

/-- A call adds its column's expression and removes none. -/
theorem step_exprs {q q' : WhereBaseQuery} {c : BaseCall} (h : q.step c = .ok q') :
    exprs (q'.columns.getD []) = exprs (q.columns.getD []) ++ exprs c.addedColumns := by
  cases c with
  | excludeColumn columns =>
    obtain ⟨b, hb, h⟩ := bind_eq_ok.mp h
    cases h
    simp [BaseQuery.excludeColumn_exprs hb, BaseCall.addedColumns]
  | setTableModel r =>
    cases h
    unfold BaseQuery.setTableModel
    split
    · simp [BaseCall.addedColumns]
    · split <;> simp [BaseCall.addedColumns]
  | whereDeleted | whereAllWithDeleted =>
    cases h
    simp only [BaseQuery.whereDeleted, BaseQuery.whereAllWithDeleted]
    split <;> simp [BaseCall.addedColumns]
  | addColumn column => cases h; simp [BaseQuery.addColumn, BaseCall.addedColumns]
  | _ => cases h; simp [BaseCall.addedColumns, BaseQuery.addWith, BaseQuery.addTable]

/-- Along every completed run, the column expressions are those of the start followed by those
that the run's `addColumn` calls add: `ExcludeColumn` never removes one. -/
theorem column_exprs_survive_runs {calls : List BaseCall} {q q' : WhereBaseQuery}
    (h : q.run calls = .ok q') :
    exprs (q'.columns.getD []) = exprs (q.columns.getD []) ++ exprs (calls.flatMap (·.addedColumns)) := by
  induction calls generalizing q with
  | nil => cases h; simp
  | cons c cs ih =>
    obtain ⟨q₁, h₁, h⟩ := run_cons_ok h
    rw [ih h, step_exprs h₁, List.flatMap_cons, exprs_append, List.append_assoc]

/-- `users` bound, the expression `lower(name)` and the column `id` added, then `id` excluded:
the expression is kept. -/
theorem exclude_keeps_lower_name :
    ∃ q : WhereBaseQuery, ({} : WhereBaseQuery).run [.setTableModel (.ok (.table usersModel)),
        .addColumn (safeQuery "lower(name)" (some [])), .addColumn (unsafeIdent "id"),
        .excludeColumn ["id"]] = .ok q ∧
      q.columns = some [safeQuery "lower(name)" (some [])] ∧
      exprs (q.columns.getD []) = [safeQuery "lower(name)" (some [])] :=
  ⟨_, rfl, rfl, (@column_exprs_survive_runs [.setTableModel (.ok (.table usersModel)),
    .addColumn (safeQuery "lower(name)" (some [])), .addColumn (unsafeIdent "id"),
    .excludeColumn ["id"]] {} _ rfl).trans rfl⟩

/-- On a reachable state with a table model, `getDataFields` is `getFields` without the primary
key; without one, `getFields` panics, and so does `getDataFields` unless every column is an
expression. -/
theorem getDataFields_agrees_getFields {q : WhereBaseQuery} (h : q.Reachable) :
    (q.tableModel.isSome → q.getDataFields = (·.filter (!·.isPK)) <$> q.getFields) ∧
    (q.tableModel = none → q.getFields = .error nilDereference ∧
      q.getDataFields = if (q.columns.getD []).length ≠ 0 ∧ (q.columns.getD []).all (·.args.isSome)
        then .ok [] else .error nilDereference) := by
  have hb : q.table = q.tableModel.map (·.table) := h.tableBound
  refine ⟨fun hm => ?_, fun hm => ?_⟩
  · obtain ⟨tm, htm⟩ := Option.isSome_iff_exists.mp hm
    rw [htm, Option.map_some'] at hb
    unfold BaseQuery.getDataFields BaseQuery.getFields BaseQuery._getFields
    rw [hb, htm, BaseQuery.getFieldsOf_omitPK]
    split <;> rfl
  · rw [hm, Option.map_none'] at hb
    refine ⟨by simp [BaseQuery.getFields, hm], ?_⟩
    unfold BaseQuery.getDataFields BaseQuery._getFields
    rw [BaseQuery.getFieldsOf_of_table_none hb]
    by_cases hl : (q.columns.getD []).length = 0 <;> simp [hl, hb]

/-- `users` bound: `getDataFields` is `getFields` without `id`. -/
theorem users_data_fields :
    boundUsers.Reachable ∧
      boundUsers.getDataFields = (·.filter (!·.isPK)) <$> boundUsers.getFields :=
  ⟨⟨_, run_boundUsers⟩, (getDataFields_agrees_getFields ⟨_, run_boundUsers⟩).1 rfl⟩

end WhereBaseQuery

end Bun
