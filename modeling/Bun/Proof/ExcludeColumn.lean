import Mathlib.Data.List.Nodup
import Bun.Proof.Binding

/-! `ExcludeColumn` on a query with no column list: the list is first filled with the table's
fields, and each excluded name is then removed from it.  For distinct names of the table that
leave some field, the list and the fields that `getFields` and `getDataFields` resolve are the
table's fields without the excluded ones, in table order.  Excluding every field leaves an empty
list that is not `nil`, which `getFields` and `getDataFields` take for no list at all. -/

namespace Bun

/-- The column list of fields: each field's name as a raw identifier. -/
def idents (fs : List Field) : List QueryWithArgs := fs.map fun f => unsafeIdent f.name

theorem Table.field_of_mem {t : Table} {f : Field} (hf : f ∈ t.fields) : t.field f.name = .ok f := by
  unfold Table.field
  cases h : t.fields.find? (·.name == f.name) with
  | none => simp only [List.find?_eq_none] at h; simp at h; exact absurd hf (fun hf => h f hf rfl)
  | some g =>
    have hg : g.name = f.name := by simpa using List.find?_some h
    rw [List.inj_on_of_nodup_map t.names_nodup (List.mem_of_find?_eq_some h) hf hg]

/-- Removing a name of distinct fields from their column list removes that field. -/
theorem removeIdent_idents {fs : List Field} {s : String} (hnd : (fs.map (·.name)).Nodup)
    (hs : s ∈ fs.map (·.name)) :
    removeIdent s (idents fs) = some (idents (fs.filter (·.name != s))) := by
  induction fs with
  | nil => cases hs
  | cons f fs ih =>
    rw [List.map_cons, List.nodup_cons] at hnd
    by_cases hf : f.name = s
    · subst hf
      have hfs : fs.filter (·.name != f.name) = fs :=
        List.filter_eq_self.mpr fun g hg => by
          rw [bne_iff_ne]
          exact fun he => hnd.1 (he ▸ List.mem_map_of_mem (·.name) hg)
      simp [removeIdent, idents, unsafeIdent, hfs]
    · have hs' : s ∈ fs.map (·.name) := by
        rcases List.mem_cons.mp hs with h | h
        · exact absurd h.symm hf
        · exact h
      simp only [removeIdent, idents, List.map_cons, unsafeIdent, Option.isNone_none,
        Bool.true_and, beq_iff_eq, hf, if_false] at ih ⊢
      rw [ih hnd.2 hs']
      simp [hf]

theorem nodup_filter_names {fs : List Field} (hnd : (fs.map (·.name)).Nodup) (p : Field → Bool) :
    ((fs.filter p).map (·.name)).Nodup :=
  hnd.sublist ((List.filter_sublist fs).map _)

namespace BaseQuery

/-- The loop of `excludeColumn` over distinct names of the listed fields removes those fields
and records no error. -/
theorem excludeColumns_idents (p : BaseQuery) {fs : List Field} {S : List String}
    (hnd : (fs.map (·.name)).Nodup) (hSnd : S.Nodup) (hS : ∀ s ∈ S, s ∈ fs.map (·.name)) :
    { p with columns := some (idents fs) }.excludeColumns S =
      { p with columns := some (idents (fs.filter (·.name ∉ S))) } := by
  induction S generalizing fs with
  | nil => simp [excludeColumns]
  | cons s S ih =>
    rw [List.nodup_cons] at hSnd
    have hs' : ∀ s' ∈ S, s' ∈ (fs.filter (·.name != s)).map (·.name) := fun s' h' => by
      obtain ⟨g, hg, rfl⟩ := List.mem_map.mp (hS s' (List.mem_cons_of_mem s h'))
      exact List.mem_map_of_mem _ (List.mem_filter.mpr
        ⟨hg, bne_iff_ne.mpr fun he => hSnd.1 (he ▸ h')⟩)
    rw [excludeColumns, _excludeColumn]
    simp only [Option.some_bind, removeIdent_idents hnd (hS s (List.mem_cons_self s S)),
      Option.map_some']
    rw [ih (nodup_filter_names hnd _) hSnd.2 hs', List.filter_filter]
    congr 3
    apply List.filter_congr
    intro f _
    by_cases h1 : f.name ∈ S <;> by_cases h2 : f.name = s <;> simp [h1, h2]

/-- `excludeColumn` fills a `nil` list with the table's fields before it excludes. -/
theorem excludeColumn_of_none {q : BaseQuery} {t : Table} (hc : q.columns = none)
    (ht : q.table = some t) (hne : t.fields ≠ []) (S : List String) :
    q.excludeColumn S = .ok ({ q with columns := some (idents t.fields) }.excludeColumns S) := by
  simp [excludeColumn, hc, ht, idents, hne]

theorem excludeColumn_of_some {q : BaseQuery} {cols : List QueryWithArgs}
    (hc : q.columns = some cols) (S : List String) : q.excludeColumn S = .ok (q.excludeColumns S) := by
  simp [excludeColumn, hc]

/-- The fields that a column list of the table's fields resolves to: those fields, the
primary-key ones dropped under `omitPK`. -/
theorem getFieldsOf_idents {q : BaseQuery} {t : Table} (ht : q.table = some t) (omitPK : Bool)
    {fs : List Field} (hfs : ∀ f ∈ fs, f ∈ t.fields) :
    q.getFieldsOf omitPK (idents fs) = .ok (fs.filter fun f => !(omitPK && f.isPK)) := by
  induction fs with
  | nil => rfl
  | cons f fs ih =>
    have ih := ih fun g hg => hfs g (List.mem_cons_of_mem f hg)
    simp only [idents, List.map_cons] at ih ⊢
    rw [getFieldsOf]
    simp only [unsafeIdent_args, unsafeIdent_query, Option.isSome_none, Bool.false_eq_true,
      if_false, ht,
      Table.field_of_mem (hfs f (List.mem_cons_self f fs)), ih]
    cases omitPK <;> cases hpk : f.isPK <;> simp [List.filter_cons, hpk]

end BaseQuery

namespace WhereBaseQuery

/-- `ExcludeColumn` calls on a list of distinct fields remove the fields they name, in table
order and with no error. -/
theorem run_excludeColumns_idents (p : WhereBaseQuery) {fs : List Field} {Ss : List (List String)}
    (hnd : (fs.map (·.name)).Nodup) (hSnd : Ss.flatten.Nodup)
    (hS : ∀ s ∈ Ss.flatten, s ∈ fs.map (·.name)) :
    ({ p with columns := some (idents fs) } : WhereBaseQuery).run (Ss.map .excludeColumn) =
      .ok { p with columns := some (idents (fs.filter (·.name ∉ Ss.flatten))) } := by
  induction Ss generalizing fs with
  | nil => simp
  | cons S Ss ih =>
    rw [List.flatten_cons, List.nodup_append] at hSnd
    have hS1 : ∀ s ∈ S, s ∈ fs.map (·.name) := fun s h => hS s (List.mem_append_left _ h)
    have hS2 : ∀ s ∈ Ss.flatten, s ∈ (fs.filter (·.name ∉ S)).map (·.name) := fun s h => by
      obtain ⟨g, hg, rfl⟩ := List.mem_map.mp (hS _ (List.mem_append_right _ h))
      exact List.mem_map_of_mem _ (List.mem_filter.mpr
        ⟨hg, decide_eq_true fun hgS => hSnd.2.2 hgS h⟩)
    have hstep : ({ p with columns := some (idents fs) } : WhereBaseQuery).step (.excludeColumn S) =
        .ok { p with columns := some (idents (fs.filter (·.name ∉ S))) } := by
      show (fun b => _) <$> ({ p.toBaseQuery with columns := some (idents fs) } : BaseQuery).excludeColumn S = _
      rw [BaseQuery.excludeColumn_of_some rfl, BaseQuery.excludeColumns_idents _ hnd hSnd.1 hS1]
      rfl
    rw [List.map_cons, run_cons, hstep, ok_bind, ih (nodup_filter_names hnd _) hSnd.2.1 hS2,
      List.filter_filter]
    congr 5
    apply List.filter_congr
    intro f _
    by_cases h1 : f.name ∈ S <;> by_cases h2 : f.name ∈ Ss.flatten <;> simp [h1, h2]

/-- Excluding distinct names of the bound table that leave some field keeps the table's other
fields in order with no error, and `getFields` and `getDataFields` resolve exactly those. -/
theorem excludeColumn_keeps_other_fields {q q' : WhereBaseQuery} {t : Table}
    {Ss : List (List String)} (hq : q.TableBound) (ht : q.table = some t) (hc : q.columns = none)
    (hne : Ss ≠ []) (hnd : Ss.flatten.Nodup) (hS : ∀ s ∈ Ss.flatten, s ∈ t.fields.map (·.name))
    (hkeep : ∃ f ∈ t.fields, f.name ∉ Ss.flatten) (h : q.run (Ss.map .excludeColumn) = .ok q') :
    q'.err = q.err ∧
      q'.columns = some (idents (t.fields.filter (·.name ∉ Ss.flatten))) ∧
      q'.getFields = .ok (t.fields.filter (·.name ∉ Ss.flatten)) ∧
      q'.getDataFields = .ok ((t.fields.filter (·.name ∉ Ss.flatten)).filter (!·.isPK)) := by
  obtain ⟨S, Ss', rfl⟩ := List.exists_cons_of_ne_nil hne
  obtain ⟨f, hf, hfS⟩ := hkeep
  have hfields : t.fields ≠ [] := List.ne_nil_of_mem hf
  have hfill : q.run ((S :: Ss').map .excludeColumn) =
      ({ q with columns := some (idents t.fields) } : WhereBaseQuery).run
        ((S :: Ss').map .excludeColumn) := by
    simp only [List.map_cons, run_cons, step, BaseQuery.excludeColumn_of_none hc ht hfields]
    rfl
  rw [hfill, run_excludeColumns_idents q t.names_nodup hnd hS] at h
  cases h
  have hmem : f ∈ t.fields.filter (·.name ∉ (S :: Ss').flatten) :=
    List.mem_filter.mpr ⟨hf, decide_eq_true hfS⟩
  have hkept : (idents (t.fields.filter (·.name ∉ (S :: Ss').flatten))).length ≠ 0 := by
    rw [idents, List.length_map]
    exact (List.length_pos_of_mem hmem).ne'
  have hsub : ∀ g ∈ t.fields.filter (·.name ∉ (S :: Ss').flatten), g ∈ t.fields :=
    fun g hg => List.mem_of_mem_filter hg
  refine ⟨rfl, rfl, ?_, ?_⟩
  · show ({ q.toBaseQuery with columns := _ } : BaseQuery).getFields = _
    rw [getFields_of_tableBound (by exact hq)]
    simp only [ht, Option.getD_some, if_neg hkept]
    exact (BaseQuery.getFieldsOf_idents rfl false hsub).trans (by simp)
  · show ({ q.toBaseQuery with columns := _ } : BaseQuery).getDataFields = _
    simp only [BaseQuery.getDataFields, Option.getD_some, if_neg hkept]
    exact (BaseQuery.getFieldsOf_idents (by exact ht) true hsub).trans (by simp)

/-- `users` bound, then `ExcludeColumn("id")` and `ExcludeColumn("name")`: `deleted_at` alone
is left. -/
theorem excludeColumn_keeps_deleted_at :
    ∃ q', boundUsers.run [.excludeColumn ["id"], .excludeColumn ["name"]] = .ok q' ∧
      q'.getFields = .ok [⟨"deleted_at", "deleted_at", false⟩] :=
  ⟨_, rfl, ((@excludeColumn_keeps_other_fields boundUsers _ users [["id"], ["name"]] rfl rfl rfl
    (by decide) (by decide) (by decide) (by decide) rfl).2.2.1).trans rfl⟩

/-- Excluding every column of `users` leaves an empty list that is not `nil`: no error is
recorded, yet `getFields` resolves every field and `getDataFields` every field but the key,
while excluding all but `deleted_at` resolves that field alone. -/
theorem excluding_every_column_selects_all :
    ∃ q : WhereBaseQuery, ({} : WhereBaseQuery).run [.setTableModel (.ok (.table usersModel)),
        .excludeColumn ["id", "name", "deleted_at"]] = .ok q ∧
      q.err = none ∧ q.columns = some [] ∧ q.getFields = .ok users.fields ∧
      q.getDataFields = .ok users.dataFields :=
  ⟨_, rfl, rfl, rfl, rfl, rfl⟩

end WhereBaseQuery

end Bun
