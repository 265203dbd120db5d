import Mathlib.Data.List.Nodup
import Bun.Query.Returning

/-! The values that `customValueQuery.addValue` records.  A value for a column of the table's
`FieldMap` goes to the map `modelValues`, where a later value for the same column replaces the
earlier one; a value for any other column is appended to `extraValues`, repeats included.  The map
is a list of entries and `mapSet` is Go's `m[k] = v`: its keys stay distinct, and `List.lookup`
reads what Go's `m[k]` reads. -/

namespace Bun

theorem lookup_cons_eq (a k : String) (b : QueryWithArgs) (es : List (String × QueryWithArgs)) :
    ((k, b) :: es).lookup a = if a = k then some b else es.lookup a := by
  by_cases h : a = k
  · subst h; simp
  · rw [List.lookup_cons, beq_false_of_ne h, if_neg h]

theorem lookup_map_set (m : List (String × QueryWithArgs)) (k k' : String) (v : QueryWithArgs) :
    (m.map fun e => if e.1 == k then (k, v) else e).lookup k' =
      if k' = k then (if m.any (·.1 == k) then some v else none) else m.lookup k' := by
  induction m with
  | nil => split <;> rfl
  | cons e m ih =>
    obtain ⟨k₀, v₀⟩ := e
    rw [List.map_cons]
    by_cases h₀ : k₀ = k
    · subst h₀
      rw [if_pos (beq_self_eq_true k₀), lookup_cons_eq, ih, lookup_cons_eq]
      by_cases h : k' = k₀ <;> simp [h]
    · rw [if_neg (by simpa using h₀), lookup_cons_eq, ih, lookup_cons_eq]
      by_cases h : k' = k
      · subst h
        rw [if_neg (Ne.symm h₀), if_pos rfl, if_pos rfl, List.any_cons, beq_false_of_ne h₀,
          Bool.false_or]
      · simp [h]

/-- Reading the map after `m[k] = v`. -/
@[simp] theorem lookup_mapSet (m : List (String × QueryWithArgs)) (k k' : String)
    (v : QueryWithArgs) : (mapSet m k v).lookup k' = if k' = k then some v else m.lookup k' := by
  unfold mapSet
  split
  · rename_i h
    rw [lookup_map_set, if_pos h]
  · rename_i h
    rw [List.lookup_append]
    by_cases hk : k' = k
    · subst hk
      have hn : m.lookup k' = none := List.lookup_eq_none_iff.mpr fun p hp => by
        rw [bne_iff_ne]
        rintro rfl
        exact h (List.any_eq_true.mpr ⟨p, hp, beq_self_eq_true _⟩)
      simp [hn]
    · rw [lookup_cons_eq, if_neg hk, List.lookup_nil, Option.or_none, if_neg hk]

theorem keys_mapSet (m : List (String × QueryWithArgs)) (k : String) (v : QueryWithArgs) :
    (mapSet m k v).map (·.1) = if m.any (·.1 == k) then m.map (·.1) else m.map (·.1) ++ [k] := by
  unfold mapSet
  split
  · rw [List.map_map]
    exact List.map_congr_left fun e _ => by
      by_cases h : e.1 = k <;> simp [h]
  · simp

namespace CustomValueQuery

/-- The map holds one entry per column, each for a column of the table. -/
structure Keyed (t : Table) (q : CustomValueQuery) : Prop where
  nodup : (q.modelValues.map (·.1)).Nodup
  fields : ∀ k ∈ q.modelValues.map (·.1), t.fields.any (·.name == k)

theorem keyed_new (t : Table) : ({} : CustomValueQuery).Keyed t := ⟨List.nodup_nil, by simp⟩

/-- `m[column] = v` for a column of the table keeps the map keyed. -/
theorem keyed_mapSet {t : Table} {m : List (String × QueryWithArgs)} (hq : Keyed t ⟨m, []⟩)
    {column : String} (hc : t.fields.any (·.name == column)) (v : QueryWithArgs) :
    Keyed t ⟨mapSet m column v, []⟩ := by
  have hkeys := keys_mapSet m column v
  split at hkeys
  · exact ⟨hkeys ▸ hq.nodup, hkeys ▸ hq.fields⟩
  · rename_i hk
    refine ⟨hkeys ▸ List.nodup_append.mpr ⟨hq.nodup, List.nodup_singleton _, ?_⟩, ?_⟩
    · simpa [List.disjoint_singleton, List.any_eq_true] using hk
    · intro k hk'
      rw [hkeys] at hk'
      rcases List.mem_append.mp hk' with hk' | hk'
      · exact hq.fields k hk'
      · rw [List.mem_singleton.mp hk']; exact hc

theorem addValue_keyed {t : Table} {q : CustomValueQuery} (hq : q.Keyed t) (column value : String)
    (args : Option (List Value)) : (q.addValue t column value args).Keyed t := by
  unfold addValue
  split
  · rename_i hc
    have h := keyed_mapSet (m := q.modelValues) ⟨hq.nodup, hq.fields⟩ hc (safeQuery value args)
    exact ⟨h.nodup, h.fields⟩
  · exact ⟨hq.nodup, hq.fields⟩

theorem run_keyed {t : Table} {q : CustomValueQuery} (hq : q.Keyed t) (calls : List ValueCall) :
    (q.run t calls).Keyed t := by
  induction calls generalizing q with
  | nil => exact hq
  | cons c cs ih => exact ih (addValue_keyed hq _ _ _)

/-- The values for other columns are appended in call order. -/
theorem run_extraValues (q : CustomValueQuery) (t : Table) (calls : List ValueCall) :
    (q.run t calls).extraValues = q.extraValues ++
      (calls.filter fun c => !t.fields.any (·.name == c.column)).map
        fun c => ⟨c.column, safeQuery c.value c.args⟩ := by
  induction calls generalizing q with
  | nil => simp [run]
  | cons c cs ih =>
    rw [run, ih]
    by_cases h : t.fields.any (·.name == c.column) <;> simp [addValue, h]

/-- The value read for a column of the table is that of the last call for it, if any. -/
theorem run_lookup (q : CustomValueQuery) (t : Table) (calls : List ValueCall) (k : String) :
    (q.run t calls).modelValues.lookup k =
      if t.fields.any (·.name == k) then
        ((calls.reverse.find? (·.column == k)).map fun c => safeQuery c.value c.args).or
          (q.modelValues.lookup k)
      else q.modelValues.lookup k := by
  induction calls generalizing q with
  | nil => split <;> rfl
  | cons c cs ih =>
    rw [run, ih, List.reverse_cons, List.find?_append]
    have hstep : (q.addValue t c.column c.value c.args).modelValues.lookup k =
        if t.fields.any (·.name == k) ∧ c.column = k then some (safeQuery c.value c.args)
        else q.modelValues.lookup k := by
      unfold addValue
      by_cases hc : c.column = k
      · subst hc; split <;> simp [*]
      · split <;> simp [hc, Ne.symm hc]
    rw [hstep]
    by_cases hk : t.fields.any (·.name == k) <;> by_cases hc : c.column = k <;>
      cases cs.reverse.find? (·.column == k) <;> simp [hk, hc]

end CustomValueQuery

/-- After any `addValue` calls on a new query, `modelValues` holds for each column of the table
the last value given for it, and `extraValues` the other calls in order, repeats kept. -/
theorem addValue_last_value_wins (t : Table) (calls : List ValueCall) :
    (({} : CustomValueQuery).run t calls).Keyed t ∧
    (∀ column, (({} : CustomValueQuery).run t calls).modelValues.lookup column =
      if t.fields.any (·.name == column) then
        (calls.reverse.find? (·.column == column)).map fun c => safeQuery c.value c.args
      else none) ∧
    (({} : CustomValueQuery).run t calls).extraValues =
      (calls.filter fun c => !t.fields.any (·.name == c.column)).map
        fun c => ⟨c.column, safeQuery c.value c.args⟩ :=
  ⟨CustomValueQuery.run_keyed (CustomValueQuery.keyed_new t) calls,
    fun column => by rw [CustomValueQuery.run_lookup]; simp,
    by rw [CustomValueQuery.run_extraValues]; rfl⟩

end Bun
