import Mathlib
import Bun.Proof.WhereClause

/-! The primary-key predicate that `WherePK` adds.  For a struct it is the conjunction of one
equality per key column; for a slice, the key columns `IN` the list of the elements' key tuples,
a tuple in parentheses exactly when the key has more than one column.  The template formatter
writes `?` for every value and, for a slice, only the first tuple. -/

namespace Bun

/-- `s` in parentheses when `multi`. -/
def parenIf (multi : Bool) (s : String) : String := if multi then "(" ++ s ++ ")" else s

@[simp] theorem parenIf_decide (p : Prop) [Decidable p] (s : String) :
    parenIf (decide p) s = if p then "(" ++ s ++ ")" else s := by
  by_cases h : p <;> simp [parenIf, h]

namespace WhereBaseQuery

theorem checkPKs_of_ne_nil {t : Table} (hk : t.pks ≠ []) : t.checkPKs = none := by
  simp [Table.checkPKs, List.isEmpty_iff, hk]

/-- A key of at least one column passes `CheckPKs`, and a struct gets the equalities. -/
theorem appendWherePK_strct {q : WhereBaseQuery} {t t' : Table} {strct : Row}
    (ht : q.table = some t) (hk : t.pks ≠ []) (hm : q.tableModel = some ⟨t', .strct strct⟩)
    (fmter : Formatter) (b : String) :
    q.appendWherePK fmter b = .ok (appendWherePKStruct t fmter b strct) := by
  simp only [appendWherePK, ht, checkPKs_of_ne_nil hk, hm]

/-- A key of at least one column passes `CheckPKs`, and a slice gets the `IN` list. -/
theorem appendWherePK_slice {q : WhereBaseQuery} {t t' : Table} {slice : List Row}
    (ht : q.table = some t) (hk : t.pks ≠ []) (hm : q.tableModel = some ⟨t', .slice slice⟩)
    (fmter : Formatter) (b : String) :
    q.appendWherePK fmter b = .ok (appendWherePKSlice t fmter b slice) := by
  simp only [appendWherePK, ht, checkPKs_of_ne_nil hk, hm]

/-- Under the template formatter the tuple of an element is that of placeholders, so the
elements written are `min n 1` such tuples. -/
theorem pkTuples_template {t : Table} {fmter : Formatter} (hnop : fmter.isNop = true)
    (slice : List Row) :
    (slice.take 1).map (pkTuple t fmter) = List.replicate (min slice.length 1)
      (parenIf (1 < t.pks.length) (", ".intercalate (List.replicate t.pks.length "?"))) := by
  have hq : ∀ el, pkTuple t fmter el =
      parenIf (1 < t.pks.length) (", ".intercalate (List.replicate t.pks.length "?")) := by
    intro el
    simp only [pkTuple, parenIf, hnop, if_true, List.map_const', gt_iff_lt, decide_eq_true_eq]
  cases slice <;> simp [hq]

/-- The tuples of the elements, outside the template formatter: their key values as literals. -/
theorem pkTuples_of_not_template {t : Table} {fmter : Formatter} (hnop : fmter.isNop = false)
    (slice : List Row) :
    slice.map (pkTuple t fmter) = slice.map fun el => parenIf (1 < t.pks.length)
      (", ".intercalate (t.pks.map fun f => fmter.appendValue (el f.name))) := by
  refine List.map_congr_left fun el _ => ?_
  simp only [pkTuple, parenIf_decide, hnop, Bool.false_eq_true, if_false, gt_iff_lt]

/-- For a key of `k ≥ 1` columns, a struct gives the key's equalities joined by ` AND ` in
parentheses and a slice the key columns ` IN ` the elements' tuples; the template formatter writes
`?` for each value and at most one tuple. -/
theorem appendWherePK_renders_keys {q : WhereBaseQuery} {t : Table} (ht : q.table = some t)
    (hk : t.pks ≠ []) (fmter : Formatter) (b : String) :
    (∀ t' strct, q.tableModel = some ⟨t', .strct strct⟩ →
      q.appendWherePK fmter b = .ok (b ++ "(" ++ " AND ".intercalate (t.pks.map fun f =>
        t.alias ++ "." ++ f.sqlName ++ " = " ++
          if fmter.isNop then "?" else fmter.appendValue (strct f.name)) ++ ")")) ∧
    (∀ t' slice, q.tableModel = some ⟨t', .slice slice⟩ →
      q.appendWherePK fmter b = .ok (b ++
        parenIf (1 < t.pks.length) (", ".intercalate (t.pks.map (qualify t.alias))) ++ " IN (" ++
        ", ".intercalate (if fmter.isNop then
            List.replicate (min slice.length 1)
              (parenIf (1 < t.pks.length) (", ".intercalate (List.replicate t.pks.length "?")))
          else slice.map fun el => parenIf (1 < t.pks.length)
            (", ".intercalate (t.pks.map fun f => fmter.appendValue (el f.name)))) ++ ")")) := by
  refine ⟨fun t' strct hm => ?_, fun t' slice hm => ?_⟩
  · have hmap : t.pks.map (pkEquality t fmter strct) = t.pks.map fun f =>
        t.alias ++ "." ++ f.sqlName ++ " = " ++
          if fmter.isNop then "?" else fmter.appendValue (strct f.name) := rfl
    rw [appendWherePK_strct ht hk hm, appendWherePKStruct_eq, hmap]
    simp only [String.append_assoc]
  · rw [appendWherePK_slice ht hk hm, appendWherePKSlice_eq]
    cases hnop : fmter.isNop
    · simp only [Bool.false_eq_true, if_false, pkTuples_of_not_template hnop, parenIf_decide,
        gt_iff_lt, String.append_assoc]
    · simp only [if_true, pkTuples_template hnop, parenIf_decide, gt_iff_lt, String.append_assoc]

/-- `users`, keyed by `id`: the row with `id` 1 gives `(user.id = 1)`, and a slice of two rows
under the template formatter gives `user.id IN (?)`. -/
theorem users_pk_predicate :
    users.pks ≠ [] ∧
      boundUsers.appendWherePK plainFormatter "" = .ok "(user.id = 1)" ∧
      ({ boundUsers with tableModel := some ⟨users, .slice [fun _ => .int 1, fun _ => .int 2]⟩ } :
        WhereBaseQuery).appendWherePK { plainFormatter with isNop := true } "" =
        .ok "user.id IN (?)" := by
  have hk : users.pks ≠ [] := by decide
  refine ⟨hk, ?_, ?_⟩
  · rw [(appendWherePK_renders_keys (q := boundUsers) rfl hk plainFormatter "").1 users _ rfl]
    rfl
  · rw [(appendWherePK_renders_keys (q := { boundUsers with
      tableModel := some ⟨users, .slice [fun _ => .int 1, fun _ => .int 2]⟩ }) rfl hk
      { plainFormatter with isNop := true } "").2 users _ rfl]
    rfl

end WhereBaseQuery

end Bun
