import Bun.Proof.StickyError

/-! The table that `CreateIndexQuery.AppendQuery` names.  `appendFirstTable` writes the bound
table's SQL name after ` ON `, without an alias, while `appendWhere` qualifies the soft-delete
column with the table's alias.  When the two differ, the filter names a table that the statement
does not introduce. -/

namespace Bun

namespace BaseQuery

/-- Without `ModelTableExpr`, the first table is the bound table's SQL name. -/
theorem appendFirstTable_of_table {q : BaseQuery} {t : Table} (hz : q.modelTable.isZero)
    (ht : q.table = some t) (fmter : Formatter) (b : String) :
    q.appendFirstTable fmter b = .ok (b ++ fmter.formatQuery t.sqlName) := by
  simp [appendFirstTable, _appendFirstTable, hz, ht]

end BaseQuery

namespace WhereBaseQuery

/-- With no flag set, the soft-delete filter selects the rows that are not deleted. -/
theorem softDeleteFilter_of_flags_zero {q : WhereBaseQuery} {t : Table} {f : Field}
    (h0 : q.flags = 0) (ht : q.table = some t) (hf : t.softDeleteField = some f) :
    q.softDeleteFilter = some (t.alias ++ "." ++ f.sqlName ++ " IS NULL") := by
  simp [softDeleteFilter, ht, hf, h0]

end WhereBaseQuery

namespace CreateIndexQuery

/-- A built create-index query on a soft-delete table without `ModelTableExpr` writes the table's
SQL name after ` ON ` and ends with the filter on the column qualified by the alias. -/
theorem index_on_name_where_alias {calls : List Call} {q : CreateIndexQuery}
    (h : newCreateIndexQuery.run calls = .ok q) {t : Table} {f : Field} (ht : q.table = some t)
    (hz : q.modelTable.isZero) (hf : t.softDeleteField = some f) {fmter : Formatter}
    {b s : String} (hs : q.appendQuery fmter b = .ok s) :
    ∃ pre mid, s = pre ++ " ON " ++ fmter.formatQuery t.sqlName ++ mid ++ t.alias ++ "." ++
      f.sqlName ++ " IS NULL" := by
  have hq := run_tableBound h
  have h0 : q.flags = 0 := run_flags h
  have hn : q.err = none := by
    cases he : q.err with
    | none => rfl
    | some e => simp [appendQuery, he] at hs
  have hsplit : q.stages fmter = (q.stages fmter).take 8 ++
      (fun b => q.appendFirstTable fmter (b ++ " ON ")) ::
        (((q.stages fmter).drop 9).take 4 ++ [q.appendWhere fmter]) := rfl
  have hmid : Appends (runChain ((q.stages fmter).drop 9 |>.take 4)) :=
    appends_runChain fun g hg =>
      stages_appends hq fmter g (List.mem_of_mem_drop (List.mem_of_mem_take hg))
  rw [appendQuery_eq_runChain hn, hsplit, runChain_append] at hs
  obtain ⟨pre, -, hs⟩ := bind_eq_ok.mp hs
  obtain ⟨onText, hon, hs⟩ := bind_eq_ok.mp hs
  rw [runChain_append] at hs
  obtain ⟨cols, hcols, hs⟩ := bind_eq_ok.mp hs
  obtain ⟨where_, hw, hs⟩ := bind_eq_ok.mp hs
  cases hs
  dsimp only at hon
  rw [BaseQuery.appendFirstTable_of_table hz ht] at hon
  cases hon
  obtain ⟨t', rfl⟩ := hmid.eq_append hcols
  obtain ⟨mid, rfl⟩ := WhereBaseQuery.appendWhere_ends_with_filter hq
    (by rw [h0]; rfl) (WhereBaseQuery.softDeleteFilter_of_flags_zero h0 ht hf) hw
  exact ⟨pre, t' ++ mid, by simp only [String.append_assoc]⟩

/-- `users` bound, an index `idx` on `name`. -/
theorem index_on_name_where_alias_users :
    ∃ pre mid, "CREATE INDEX idx ON users (name) WHERE user.deleted_at IS NULL" =
      pre ++ " ON " ++ "users" ++ mid ++ "user" ++ "." ++ "deleted_at" ++ " IS NULL" :=
  @index_on_name_where_alias [.model (.ok (.table usersModel)), .index "idx" none, .column ["name"]]
    _ rfl users ⟨"deleted_at", "deleted_at", false⟩ rfl rfl rfl plainFormatter "" _ rfl

/-- `users`, aliased `user`: the statement indexes `users` and filters on `user.deleted_at`,
a table it does not introduce. -/
theorem index_on_users_filters_user :
    ∃ q : CreateIndexQuery, newCreateIndexQuery.run [.model (.ok (.table usersModel)),
        .index "idx" none, .column ["name"]] = .ok q ∧
      q.appendQuery plainFormatter "" =
        .ok "CREATE INDEX idx ON users (name) WHERE user.deleted_at IS NULL" :=
  ⟨_, rfl, rfl⟩

end CreateIndexQuery

end Bun
