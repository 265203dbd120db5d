import Bun.Query.Base

/-! The tables a statement names.  Three functions of `baseQuery` each decide which source gives
the first table: `_appendFirstTable` writes the `ModelTableExpr`, else the bound table's SQL name,
else the first of `q.tables`; `hasMultiTables` and `appendOtherTables` skip the first of
`q.tables` exactly when `modelHasTableName` is false.  The three agree: `appendFirstTable` writes
the first reference of `tableRefs` and `appendOtherTables` the rest, each once and in order. -/

namespace Bun

/-- A table reference of a query: an expression, as `ModelTableExpr` and `Table` give them, or the
bound table. -/
inductive TableRef where
  | expr (q : QueryWithArgs)
  | name (t : Table)

/-- A reference as `appendFirstTable` and `appendOtherTables` write it: an expression through the
formatter, the bound table by its SQL name. -/
def TableRef.appendQuery (fmter : Formatter) : TableRef → String → Except Fault String
  | .expr q, b => q.appendQuery fmter b
  | .name t, b => .ok (b ++ fmter.formatQuery t.sqlName)

theorem TableRef.noPanic_appendQuery (fmter : Formatter) (r : TableRef) (b : String) :
    NoPanic (r.appendQuery fmter b) := by
  cases r with
  | expr q => exact noPanic_appendResult _ b
  | name t => exact noPanic_ok _

/-- A reference fails only with an error of the formatter. -/
theorem TableRef.appendQuery_ne_error {fmter : Formatter} {msg : String}
    (hf : ∀ x, fmter.appendQuery x ≠ .error msg) (r : TableRef) (b : String) :
    r.appendQuery fmter b ≠ .error (.error msg) := by
  cases r with
  | expr q =>
    show appendResult (fmter.appendQuery q) b ≠ _
    cases h : fmter.appendQuery q with
    | ok s => simp [appendResult]
    | error e => simpa [appendResult, h] using hf q
  | name t => simp [appendQuery]

theorem appendList_map {α β : Type} (sep : String) (f : β → String → Except Fault String)
    (g : α → β) (b : String) (xs : List α) :
    appendList sep f b (xs.map g) = appendList sep (fun x => f (g x)) b xs := by
  cases xs <;> simp [appendList, List.foldlM_map]

namespace BaseQuery

/-- The reference of the model: the `ModelTableExpr` if it is set, else the bound table. -/
def modelTableRef (q : BaseQuery) : Option TableRef :=
  if !q.modelTable.isZero then some (.expr q.modelTable) else q.table.map .name

/-- The tables that the query names, in order: the model's when it has one, then `q.tables`. -/
def tableRefs (q : BaseQuery) : List TableRef := q.modelTableRef.toList ++ q.tables.map .expr

theorem modelTableRef_isSome (q : BaseQuery) : q.modelTableRef.isSome = q.modelHasTableName := by
  unfold modelTableRef modelHasTableName
  cases q.modelTable.isZero <;> cases q.table <;> rfl

theorem hasTables_eq (q : BaseQuery) : q.hasTables = !q.tableRefs.isEmpty := by
  rw [hasTables, ← modelTableRef_isSome, tableRefs]
  cases q.modelTableRef <;> cases q.tables <;> simp

theorem hasMultiTables_eq (q : BaseQuery) : q.hasMultiTables = decide (2 ≤ q.tableRefs.length) := by
  rw [hasMultiTables, ← modelTableRef_isSome, tableRefs]
  cases q.modelTableRef
  · simp only [Option.isSome_none, Bool.false_eq_true, if_false, Option.toList_none,
      List.nil_append, List.length_map, ge_iff_le]
  · simp only [Option.isSome_some, if_true, Option.toList_some, List.singleton_append,
      List.length_cons, List.length_map, ge_iff_le, decide_eq_decide]
    omega

theorem tableRefs_tail (q : BaseQuery) : q.tableRefs.tail =
    if q.modelHasTableName then q.tables.map .expr else (q.tables.map .expr).tail := by
  rw [tableRefs, ← modelTableRef_isSome]
  cases q.modelTableRef <;> rfl

/-- `appendFirstTable` writes the first reference, and fails when there is none. -/
theorem appendFirstTable_eq (q : BaseQuery) (fmter : Formatter) (b : String) :
    q.appendFirstTable fmter b = match q.tableRefs with
      | r :: _ => r.appendQuery fmter b
      | [] => .error (.error "bun: query does not have a table") := by
  unfold appendFirstTable _appendFirstTable tableRefs modelTableRef
  cases q.modelTable.isZero
  · rfl
  · cases q.table <;> cases q.tables <;> rfl

/-- Under `hasMultiTables`, `appendOtherTables` slices in range and writes the references after
the first. -/
theorem appendOtherTables_eq {q : BaseQuery} (h : q.hasMultiTables) (fmter : Formatter)
    (b : String) :
    q.appendOtherTables fmter b =
      appendList ", " (fun r => r.appendQuery fmter) b q.tableRefs.tail := by
  unfold hasMultiTables at h
  unfold appendOtherTables
  rw [tableRefs_tail]
  cases hm : q.modelHasTableName
  · cases ht : q.tables with
    | nil => simp [hm, ht] at h
    | cons t ts => simp only [Bool.not_false, if_true, List.map_cons, List.tail_cons,
        appendList_map, Bool.false_eq_true, if_false]; rfl
  · simp only [Bool.not_true, Bool.false_eq_true, if_false, if_true, appendList_map]; rfl

/-- With no table reference `appendFirstTable` fails; otherwise it and `appendOtherTables`, run
when `hasMultiTables` holds, write every reference of `tableRefs` once and in order. -/
theorem tables_written_once (q : BaseQuery) (fmter : Formatter) (b : String) :
    (q.hasTables = false →
      q.appendFirstTable fmter b = .error (.error "bun: query does not have a table")) ∧
    (q.hasTables = true → ∃ r rs, q.tableRefs = r :: rs ∧
      q.appendFirstTable fmter b = r.appendQuery fmter b ∧
      (q.hasMultiTables = true ↔ rs ≠ []) ∧
      (q.hasMultiTables = true → NoPanic (q.appendOtherTables fmter b) ∧
        q.appendOtherTables fmter b = appendList ", " (fun r => r.appendQuery fmter) b rs)) ∧
    ((∀ x, fmter.appendQuery x ≠ .error "bun: query does not have a table") →
      (q.appendFirstTable fmter b = .error (.error "bun: query does not have a table") ↔
        q.hasTables = false)) := by
  have hfirst := appendFirstTable_eq q fmter b
  have hnone : q.hasTables = false ↔ q.tableRefs = [] := by
    rw [hasTables_eq]; cases q.tableRefs <;> simp
  refine ⟨fun h => by rw [hfirst, hnone.mp h], fun h => ?_, fun hf => ⟨fun he => ?_, fun h => ?_⟩⟩
  · obtain ⟨r, rs, hrs⟩ : ∃ r rs, q.tableRefs = r :: rs := by
      cases hr : q.tableRefs with
      | nil => rw [hnone.mpr hr] at h; cases h
      | cons r rs => exact ⟨r, rs, rfl⟩
    refine ⟨r, rs, hrs, by rw [hfirst, hrs], ?_, fun hm => ?_⟩
    · rw [hasMultiTables_eq, hrs]; cases rs <;> simp
    · rw [appendOtherTables_eq hm, hrs]
      exact ⟨noPanic_appendList (TableRef.noPanic_appendQuery fmter) _ _ _, rfl⟩
  · rw [hnone]
    cases hr : q.tableRefs with
    | nil => rfl
    | cons r rs =>
      rw [hfirst, hr] at he
      exact absurd he (TableRef.appendQuery_ne_error hf r b)
  · rw [hfirst, hnone.mp h]

/-- `users` bound and `logs` added, under a formatter that never fails: `appendFirstTable` writes
`users`, `appendOtherTables` writes `logs`, and neither fails with the error of no table. -/
theorem users_then_logs :
    (({ table := some users, tables := [safeQuery "logs" none] } : BaseQuery).appendFirstTable
        plainFormatter "" = .error (.error "bun: query does not have a table") ↔
      ({ table := some users, tables := [safeQuery "logs" none] } : BaseQuery).hasTables = false) ∧
    ({ table := some users, tables := [safeQuery "logs" none] } : BaseQuery).appendFirstTable
        plainFormatter "" = .ok "users" ∧
    ({ table := some users, tables := [safeQuery "logs" none] } : BaseQuery).appendOtherTables
        plainFormatter "" = .ok "logs" := by
  have h := tables_written_once { table := some users, tables := [safeQuery "logs" none] }
    plainFormatter ""
  obtain ⟨r, rs, hrs, hfirst, -, hother⟩ := h.2.1 rfl
  cases hrs
  exact ⟨h.2.2 (fun _ he => by cases he), hfirst, (hother rfl).2⟩

/-- `appendOtherTables` panics exactly on a query with no table, and writes nothing when
`hasMultiTables` fails. -/
theorem appendOtherTables_panics_iff_no_table (q : BaseQuery) (fmter : Formatter) (b : String) :
    (NoPanic (q.appendOtherTables fmter b) ↔ q.hasTables = true) ∧
    (q.hasTables = true → q.hasMultiTables = false → q.appendOtherTables fmter b = .ok b) := by
  have hq : ∀ ts, NoPanic (appendList ", " (fun table => QueryWithArgs.appendQuery table fmter) b ts) :=
    noPanic_appendList (fun t b => noPanic_appendResult _ b) ", " b
  unfold appendOtherTables hasTables hasMultiTables
  cases hm : q.modelHasTableName
  · cases ht : q.tables with
    | nil =>
      refine ⟨⟨fun h => ?_, fun h => by simp at h⟩, fun h => by simp at h⟩
      obtain ⟨e, he⟩ := h _ rfl
      cases he
    | cons t ts =>
      refine ⟨⟨fun _ => by simp, fun _ => hq ts⟩, fun _ hl => ?_⟩
      cases ts with
      | nil => rfl
      | cons _ _ => simp at hl
  · refine ⟨⟨fun _ => by simp, fun _ => by simpa using hq q.tables⟩, fun _ hl => ?_⟩
    cases ht : q.tables with
    | nil => simp [ht, appendList]
    | cons _ _ => simp [ht] at hl

/-- `logs` alone, with no model: `hasMultiTables` fails, and `appendOtherTables` writes nothing
where a query with no table would panic. -/
theorem logs_other_tables_empty :
    ({ tables := [safeQuery "logs" none] } : BaseQuery).hasTables = true ∧
      ({ tables := [safeQuery "logs" none] } : BaseQuery).hasMultiTables = false ∧
      ({ tables := [safeQuery "logs" none] } : BaseQuery).appendOtherTables plainFormatter "" =
        .ok "" :=
  ⟨rfl, rfl, (appendOtherTables_panics_iff_no_table _ plainFormatter "").2 rfl rfl⟩

end BaseQuery

end Bun
