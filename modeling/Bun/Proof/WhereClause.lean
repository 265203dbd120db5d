import Bun.Proof.Binding

/-! The `WHERE` clause that `appendWhere` writes, from its three parts: the text of the predicate
list, the soft-delete filter, and the primary-key predicate.  A part is joined to what is
already written by ` AND `; the predicate list is written as `_appendWhere` writes it, without
parentheses around it. -/

namespace Bun

theorem length_pos_iff {t : String} : 0 < t.length ↔ t ≠ "" := by
  obtain ⟨data⟩ := t
  show 0 < data.length ↔ _
  rw [List.length_pos, Ne, Ne, String.ext_iff]

/-- Joins a part to the clause written so far: ` AND ` comes only after something. -/
def andThen (acc part : String) : String := if acc = "" then part else acc ++ " AND " ++ part

@[simp] theorem andThen_empty (part : String) : andThen "" part = part := rfl

/-- What `appendWhere` does to join a part: ` AND ` when the buffer grew past ` WHERE `. -/
theorem andThen_append (b acc part : String) :
    (if b.length < (b ++ acc).length then b ++ acc ++ " AND " else b ++ acc) ++ part =
      b ++ andThen acc part := by
  unfold andThen
  by_cases h : acc = "" <;> simp [h, length_pos_iff, String.append_assoc]

/-- A column of `appendColumns`, qualified by the table when one is given. -/
def qualify (table : String) (f : Field) : String :=
  (if table.length > 0 then table ++ "." else "") ++ f.sqlName

theorem appendColumns_eq (b table : String) (fields : List Field) :
    appendColumns b table fields = b ++ ", ".intercalate (fields.map (qualify table)) := by
  rw [← appendEach_eq_intercalate]
  unfold appendColumns qualify
  congr
  funext f b
  split <;> simp [String.append_assoc]

/-- `alias.pk = value` of a struct's key, with `?` for the value under the template formatter. -/
def pkEquality (t : Table) (fmter : Formatter) (strct : Row) (f : Field) : String :=
  t.alias ++ "." ++ f.sqlName ++ " = " ++
    if fmter.isNop then "?" else fmter.appendValue (strct f.name)

/-- The values of an element's key, in parentheses when the key has more than one column. -/
def pkTuple (t : Table) (fmter : Formatter) (el : Row) : String :=
  let values := ", ".intercalate (t.pks.map fun f =>
    if fmter.isNop then "?" else fmter.appendValue (el f.name))
  if t.pks.length > 1 then "(" ++ values ++ ")" else values

namespace WhereBaseQuery

theorem appendWherePKStruct_eq (t : Table) (fmter : Formatter) (b : String) (strct : Row) :
    appendWherePKStruct t fmter b strct =
      b ++ ("(" ++ " AND ".intercalate (t.pks.map (pkEquality t fmter strct)) ++ ")") := by
  unfold appendWherePKStruct
  rw [show (fun (f : Field) b => if fmter.isNop then b ++ t.alias ++ "." ++ f.sqlName ++ " = " ++ "?"
      else f.appendValue fmter (b ++ t.alias ++ "." ++ f.sqlName ++ " = ") strct) =
      fun f b => b ++ pkEquality t fmter strct f from by
    funext f b
    unfold pkEquality Field.appendValue
    split <;> simp [String.append_assoc]]
  simp only [appendEach_eq_intercalate, String.append_assoc]

theorem appendWherePKSlice_eq (t : Table) (fmter : Formatter) (b : String) (slice : List Row) :
    appendWherePKSlice t fmter b slice = b ++
      ((if t.pks.length > 1 then "(" ++ ", ".intercalate (t.pks.map (qualify t.alias)) ++ ")"
        else ", ".intercalate (t.pks.map (qualify t.alias))) ++ " IN (" ++
        ", ".intercalate ((if fmter.isNop then slice.take 1 else slice).map (pkTuple t fmter)) ++
        ")") := by
  have hv : ∀ (el : Row) (f : Field) b, (if fmter.isNop then b ++ "?" else f.appendValue fmter b el) =
      b ++ if fmter.isNop then "?" else fmter.appendValue (el f.name) := by
    intro el f b
    unfold Field.appendValue
    split <;> rfl
  unfold appendWherePKSlice pkTuple
  by_cases hm : t.pks.length > 1 <;>
    simp only [hm, hv, if_true, if_false, appendEach_eq_intercalate, appendColumns_eq,
      String.append_assoc]

end WhereBaseQuery

namespace WhereBaseQuery

/-- The soft-delete filter for `q.table`, `alias.column IS [NOT] NULL`, unless the table has no
soft-delete field or the query selects all rows. -/
def softDeleteFilter (q : WhereBaseQuery) : Option String :=
  match q.table with
  | some t =>
    match t.softDeleteField with
    | some f =>
      if q.flags.has allWithDeletedFlag then none
      else some (t.alias ++ "." ++ f.sqlName ++
        if q.flags.has deletedFlag then " IS NOT NULL" else " IS NULL")
    | none => none
  | none => none

/-- The clause from its parts, for a given soft-delete filter: the predicates, the filter and
the primary-key predicate, joined by `andThen` after ` WHERE `; nothing at all when there is no
part. -/
def renderWhere (q : WhereBaseQuery) (fmter : Formatter) (b : String) (filter : Option String) :
    Except Fault String :=
  if q.where = [] ∧ filter = none ∧ q.flags.has wherePKFlag = false then .ok b
  else
    _appendWhere fmter "" q.where >>= fun user =>
      let acc := match filter with
        | some d => andThen user d
        | none => user
      if q.flags.has wherePKFlag then
        (fun pk => b ++ " WHERE " ++ andThen acc pk) <$> q.appendWherePK fmter ""
      else .ok (b ++ " WHERE " ++ acc)

theorem appends_appendWherePK (q : WhereBaseQuery) (fmter : Formatter) :
    Appends (q.appendWherePK fmter) := fun b => by
  unfold appendWherePK
  split
  · rfl
  · split
    · rfl
    · split <;> simp [appendWherePKStruct_eq, appendWherePKSlice_eq]

theorem appends_appendWhereItem (fmter : Formatter) (w : QueryWithSep) :
    Appends (appendWhereItem fmter w) := fun b => by
  unfold appendWhereItem
  split
  · simp
  · exact ((appends_appendQuery _ fmter).append_const "(").map_append ")" b

theorem appends__appendWhere (fmter : Formatter) (ws : List QueryWithSep) :
    Appends fun b => _appendWhere fmter b ws := by
  cases ws with
  | nil => exact fun b => by simp [_appendWhere]
  | cons w ws =>
    exact (appends_appendWhereItem fmter w).bind
      (appends_foldlM (fun w => (appends_appendWhereItem fmter w).append_const w.sep) ws)

theorem isSoftDelete_eq (q : WhereBaseQuery) : q.isSoftDelete = q.softDeleteFilter.isSome := by
  unfold BaseQuery.isSoftDelete softDeleteFilter
  cases q.table with
  | none => rfl
  | some t =>
    dsimp only
    cases t.softDeleteField with
    | none => rfl
    | some f => by_cases h : q.flags.has allWithDeletedFlag <;> simp [h]

/-- Under the binding of the table, the soft-delete branch finds a table model and writes
`softDeleteFilter` after its alias. -/
theorem softDelete_branch {q : WhereBaseQuery} (hq : q.TableBound) {d : String}
    (hd : q.softDeleteFilter = some d) :
    ∃ tm, q.tableModel = some tm ∧ ∀ b, q.appendWhereSoftDelete (b ++ tm.table.alias) = .ok (b ++ d) := by
  unfold BaseQuery.TableBound at hq
  unfold softDeleteFilter at hd
  unfold appendWhereSoftDelete
  rw [hq] at hd
  cases htm : q.tableModel with
  | none => rw [htm] at hd; cases hd
  | some tm =>
    rw [htm, Option.map_some'] at hd
    refine ⟨tm, rfl, fun b => ?_⟩
    dsimp only at hd ⊢
    cases hf : tm.table.softDeleteField with
    | none => simp [hf] at hd
    | some f =>
      simp only [hf] at hd ⊢
      split at hd
      · cases hd
      · cases hd; simp [String.append_assoc]

/-- `appendWhere` writes the clause from its parts, the soft-delete filter being
`softDeleteFilter`. -/
theorem appendWhere_eq {q : WhereBaseQuery} (hq : q.TableBound) (fmter : Formatter) (b : String) :
    q.appendWhere fmter b = q.renderWhere fmter b q.softDeleteFilter := by
  have hU := appends__appendWhere fmter q.where
  have hP := appends_appendWherePK q fmter
  have hpk : ∀ acc, (fun pk => b ++ " WHERE " ++ andThen acc pk) <$> q.appendWherePK fmter "" =
      q.appendWherePK fmter (if (b ++ " WHERE ").length < (b ++ " WHERE " ++ acc).length
        then b ++ " WHERE " ++ acc ++ " AND " else b ++ " WHERE " ++ acc) := by
    intro acc
    cases hk : q.appendWherePK fmter "" with
    | error e => simp [hP.error hk]
    | ok p =>
      by_cases ha : acc = "" <;>
        simp [hP.ok hk, andThen, ha, length_pos_iff, String.append_assoc]
  unfold appendWhere renderWhere
  rw [isSoftDelete_eq]
  generalize q.flags.has wherePKFlag = pk
  cases hu : _appendWhere fmter "" q.where with
  | error e =>
    have hw : q.where ≠ [] := by rintro h; rw [h] at hu; cases hu
    have hw' : 0 < q.where.length := List.length_pos.mpr hw
    simp [hw, hw', Nat.pos_iff_ne_zero.mp hw', hU.error hu]
  | ok u =>
    have hB : _appendWhere fmter (b ++ " WHERE ") q.where = .ok (b ++ " WHERE " ++ u) := hU.ok hu
    cases hF : q.softDeleteFilter with
    | none =>
      by_cases hw : q.where = []
      · rw [hw] at hu; cases hu
        cases pk <;> simp [hw, hpk]
      · have hw' : 0 < q.where.length := List.length_pos.mpr hw
        cases pk <;> simp [hw, hw', Nat.pos_iff_ne_zero.mp hw', hB, hpk]
    | some d =>
      obtain ⟨tm, htm, hsd⟩ := softDelete_branch hq hF
      by_cases hw : q.where = []
      · rw [hw] at hu; cases hu
        cases pk <;> simp [hw, htm, hsd, hpk]
      · have hw' : 0 < q.where.length := List.length_pos.mpr hw
        cases pk <;> simp only [hw', Nat.pos_iff_ne_zero.mp hw', hB, htm, hsd, hpk, if_false,
          if_true, Bool.false_eq_true, ok_bind, hu, gt_iff_lt, decide_False, Bool.false_and,
          Option.isSome_some, andThen_append, and_false, false_and, pure_eq_ok] <;> simp [hw]

theorem appends_renderWhere (q : WhereBaseQuery) (fmter : Formatter) (filter : Option String) :
    Appends fun b => q.renderWhere fmter b filter := fun b => by
  unfold renderWhere
  split
  · simp
  · cases _appendWhere fmter "" q.where with
    | error e => rfl
    | ok u =>
      simp only [ok_bind]
      split
      · cases q.appendWherePK fmter "" <;> simp [String.append_assoc]
      · simp [String.append_assoc]

/-- Under the binding of the table, `appendWhere` appends. -/
theorem appends_appendWhere {q : WhereBaseQuery} (hq : q.TableBound) (fmter : Formatter) :
    Appends (q.appendWhere fmter) := fun b => by
  rw [appendWhere_eq hq fmter b, appendWhere_eq hq fmter ""]
  exact appends_renderWhere q fmter _ b

/-- Without the primary-key predicate, a clause with a soft-delete filter ends with it. -/
theorem appendWhere_ends_with_filter {q : WhereBaseQuery} (hq : q.TableBound)
    (hpk : q.flags.has wherePKFlag = false) {d : String} (hd : q.softDeleteFilter = some d)
    {fmter : Formatter} {b s : String} (hs : q.appendWhere fmter b = .ok s) :
    ∃ mid, s = b ++ mid ++ d := by
  rw [appendWhere_eq hq, hd] at hs
  unfold renderWhere at hs
  simp only [reduceCtorEq, false_and, and_false, if_false] at hs
  obtain ⟨user, -, hs⟩ := bind_eq_ok.mp hs
  simp only [hpk, Bool.false_eq_true, if_false, Except.ok.injEq] at hs
  subst hs
  unfold andThen
  split
  · exact ⟨" WHERE ", rfl⟩
  · exact ⟨" WHERE " ++ user ++ " AND ", by simp only [String.append_assoc]⟩

theorem noPanic_appendWhereItem (fmter : Formatter) (w : QueryWithSep) (b : String) :
    NoPanic (appendWhereItem fmter w b) := by
  unfold appendWhereItem
  split
  · exact noPanic_ok b
  · exact (noPanic_appendResult _ _).map _

theorem noPanic__appendWhere (fmter : Formatter) (b : String) (ws : List QueryWithSep) :
    NoPanic (_appendWhere fmter b ws) := by
  cases ws with
  | nil => exact noPanic_ok b
  | cons w ws =>
    exact (noPanic_appendWhereItem fmter w b).bind
      (noPanic_foldlM (fun w b => noPanic_appendWhereItem fmter w (b ++ w.sep)) ws)

/-- Without the primary-key predicate, `appendWhere` fails only with the error of a predicate's
formatting. -/
theorem noPanic_appendWhere {q : WhereBaseQuery} (hq : q.TableBound)
    (hpk : q.flags.has wherePKFlag = false) (fmter : Formatter) (b : String) :
    NoPanic (q.appendWhere fmter b) := by
  rw [appendWhere_eq hq]
  unfold renderWhere
  split
  · exact noPanic_ok b
  · refine (noPanic__appendWhere fmter "" q.where).bind fun _ => ?_
    simp only [hpk, Bool.false_eq_true, ite_false]
    exact noPanic_ok _

end WhereBaseQuery

end Bun
