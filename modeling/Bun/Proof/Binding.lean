import Bun.Query.Builder

/-! The table of a query and its table model are set together by `setTableModel` and by nothing
else, so that on every reachable state `q.table` is `q.tableModel.Table()`.  The code reads the
table through either field: `isSoftDelete`, `getDataFields` and `_getFields` through `q.table`,
`appendWhere` and `getFields` through `q.tableModel`. -/

namespace Bun

/-- The table of a query is the table of its table model, and it has one exactly when it has a
table model. -/
def BaseQuery.TableBound (q : BaseQuery) : Prop := q.table = q.tableModel.map (·.table)

namespace WhereBaseQuery

theorem tableBound_new : ({} : WhereBaseQuery).TableBound := rfl

theorem setTableModel_tableBound {q : BaseQuery} (hq : q.TableBound) (r : Except String Model) :
    (q.setTableModel r).TableBound := by
  unfold BaseQuery.setTableModel
  split
  · obtain ⟨err, h⟩ := q.setErr_eq _
    rw [h]; exact hq
  · split
    · rfl
    · exact hq

/-- Every builder call keeps the table bound to the table model. -/
theorem step_tableBound {q q' : WhereBaseQuery} {c : BaseCall} (hq : q.TableBound)
    (h : q.step c = .ok q') : q'.TableBound := by
  cases c with
  | setTableModel r =>
    cases h
    exact setTableModel_tableBound hq r
  | excludeColumn columns =>
    obtain ⟨_, _, rfl⟩ := step_excludeColumn h
    exact hq
  | whereDeleted | whereAllWithDeleted =>
    cases h
    simp only [BaseQuery.whereDeleted, BaseQuery.whereAllWithDeleted]
    split
    · obtain ⟨err, h⟩ := q.setErr_eq _
      rw [h]; exact hq
    · exact hq
  | _ => cases h; exact hq

theorem Reachable.tableBound {q : WhereBaseQuery} (h : q.Reachable) : q.TableBound :=
  h.induction tableBound_new fun _ _ _ => step_tableBound

/-- Under the binding, `getFields` reads the same table as `getDataFields` and `_getFields`. -/
theorem getFields_of_tableBound {q : BaseQuery} (hq : q.TableBound) :
    q.getFields = match q.table with
      | none => .error nilDereference
      | some t => if (q.columns.getD []).length = 0 then .ok t.fields else q._getFields false := by
  rw [hq]
  unfold BaseQuery.getFields
  cases q.tableModel <;> rfl

/-- Under the binding, the soft-delete branch of `appendWhere`, which tests `q.table`, finds a
table model whose table has a soft-delete field. -/
theorem softDelete_of_tableBound {q : BaseQuery} (hq : q.TableBound) (hs : q.isSoftDelete) :
    ∃ tm f, q.tableModel = some tm ∧ tm.table.softDeleteField = some f := by
  unfold BaseQuery.isSoftDelete at hs
  unfold BaseQuery.TableBound at hq
  cases htm : q.tableModel with
  | none => rw [htm] at hq; rw [hq] at hs; cases hs
  | some tm =>
    rw [htm] at hq
    rw [hq] at hs
    cases hf : tm.table.softDeleteField with
    | none => simp [hf] at hs
    | some f => exact ⟨tm, f, rfl, hf⟩

/-- On every reachable state `q.table` is set exactly when `q.tableModel` is, and is then its
table, so the soft-delete branch of `appendWhere` and `getFields` read the bound table. -/
theorem table_eq_tableModel_table {q : WhereBaseQuery} (h : q.Reachable) :
    q.table = q.tableModel.map (·.table) ∧
    (q.isSoftDelete = true →
      ∃ tm f, q.tableModel = some tm ∧ tm.table.softDeleteField = some f) ∧
    q.getFields = match q.table with
      | none => .error nilDereference
      | some t => if (q.columns.getD []).length = 0 then .ok t.fields else q._getFields false :=
  ⟨h.tableBound, softDelete_of_tableBound h.tableBound, getFields_of_tableBound h.tableBound⟩

/-- A new query with `usersModel` bound. -/
def boundUsers : WhereBaseQuery :=
  { model := some (.table usersModel), tableModel := some usersModel, table := some users }

theorem run_boundUsers :
    ({} : WhereBaseQuery).run [.setTableModel (.ok (.table usersModel))] = .ok boundUsers := rfl

/-- A failed resolution and a model without a table, after `users` was bound, keep the binding. -/
theorem users_binding_survives :
    ∃ q : WhereBaseQuery, ({} : WhereBaseQuery).run [.setTableModel (.ok (.table usersModel)),
        .setTableModel (.error "bun: e"), .setTableModel (.ok .other)] = .ok q ∧
      q.table = some users ∧ q.table = q.tableModel.map (·.table) :=
  ⟨_, rfl, rfl, (table_eq_tableModel_table ⟨[.setTableModel (.ok (.table usersModel)),
    .setTableModel (.error "bun: e"), .setTableModel (.ok .other)], rfl⟩).1⟩

end WhereBaseQuery

end Bun
