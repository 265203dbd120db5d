import Bun.Proof.WhereClause

/-! The soft-delete flags.  `whereDeleted` and `whereAllWithDeleted` each set their flag and
clear the other, when `checkSoftDelete` passes, and change no flag when it fails.  Along any run
the two flags therefore record the last soft-delete call that passed, and the filter that
`appendWhere` writes follows from that call and from the table bound at the end. -/

namespace Bun

namespace BaseQuery

theorem whereDeleted_flags_of_fail {q : BaseQuery} (h : q.checkSoftDelete.isSome) :
    q.whereDeleted.flags = q.flags := by
  obtain ⟨e, he⟩ := Option.isSome_iff_exists.mp h
  obtain ⟨err, h'⟩ := q.setErr_eq e
  simp only [whereDeleted, he, h']

theorem whereAllWithDeleted_flags_of_fail {q : BaseQuery} (h : q.checkSoftDelete.isSome) :
    q.whereAllWithDeleted.flags = q.flags := by
  obtain ⟨e, he⟩ := Option.isSome_iff_exists.mp h
  obtain ⟨err, h'⟩ := q.setErr_eq e
  simp only [whereAllWithDeleted, he, h']

theorem whereDeleted_flags_of_pass {q : BaseQuery} (h : q.checkSoftDelete = none) :
    q.whereDeleted.flags = (q.flags.set deletedFlag).remove allWithDeletedFlag := by
  simp only [whereDeleted, h]

theorem whereAllWithDeleted_flags_of_pass {q : BaseQuery} (h : q.checkSoftDelete = none) :
    q.whereAllWithDeleted.flags = (q.flags.set allWithDeletedFlag).remove deletedFlag := by
  simp only [whereAllWithDeleted, h]

theorem whereDeleted_has_wherePK (q : BaseQuery) :
    q.whereDeleted.flags.has wherePKFlag = q.flags.has wherePKFlag := by
  cases h : q.checkSoftDelete with
  | none => simp [whereDeleted_flags_of_pass h]
  | some e => rw [whereDeleted_flags_of_fail (by simp [h])]

theorem whereAllWithDeleted_has_wherePK (q : BaseQuery) :
    q.whereAllWithDeleted.flags.has wherePKFlag = q.flags.has wherePKFlag := by
  cases h : q.checkSoftDelete with
  | none => simp [whereAllWithDeleted_flags_of_pass h]
  | some e => rw [whereAllWithDeleted_flags_of_fail (by simp [h])]

end BaseQuery

/-- What a call does to the soft-delete flags at `q`: `some true` for a `whereDeleted` that passes
`checkSoftDelete`, `some false` for such a `whereAllWithDeleted`, `none` for every other call. -/
def BaseCall.softDeleteEvent (q : BaseQuery) : BaseCall → Option Bool
  | .whereDeleted => if q.checkSoftDelete.isNone then some true else none
  | .whereAllWithDeleted => if q.checkSoftDelete.isNone then some false else none
  | _ => none

namespace WhereBaseQuery

/-- The soft-delete calls that pass along a run, in order (`true` for `whereDeleted`). -/
def softDeleteLog (q : WhereBaseQuery) : List BaseCall → List Bool
  | [] => []
  | c :: cs =>
    match q.step c with
    | .ok q' => (c.softDeleteEvent q.toBaseQuery).toList ++ softDeleteLog q' cs
    | .error _ => []

/-- The pair (`deletedFlag`, `allWithDeletedFlag`) of a query. -/
def deletedBits (q : WhereBaseQuery) : Bool × Bool := (q.flags.getLsbD 1, q.flags.getLsbD 2)

/-- A call sets the pair to `(x, !x)` for the soft-delete call `x` that passes, and keeps it
otherwise. -/
theorem step_deletedBits {q q' : WhereBaseQuery} {c : BaseCall} (h : q.step c = .ok q') :
    q'.deletedBits = match c.softDeleteEvent q.toBaseQuery with
      | some x => (x, !x)
      | none => q.deletedBits := by
  cases c with
  | whereDeleted | whereAllWithDeleted =>
    cases h
    cases hc : q.checkSoftDelete with
    | none =>
      simp [BaseCall.softDeleteEvent, hc, deletedBits, BaseQuery.whereDeleted_flags_of_pass hc,
        BaseQuery.whereAllWithDeleted_flags_of_pass hc]
    | some e =>
      have hf : q.checkSoftDelete.isSome := by simp [hc]
      simp [BaseCall.softDeleteEvent, hc, deletedBits, BaseQuery.whereDeleted_flags_of_fail hf,
        BaseQuery.whereAllWithDeleted_flags_of_fail hf]
  | setTableModel r =>
    cases h
    unfold BaseQuery.setTableModel
    split
    · obtain ⟨err, h⟩ := q.setErr_eq _
      rw [h]
      rfl
    · split <;> rfl
  | excludeColumn columns =>
    obtain ⟨_, _, rfl⟩ := step_excludeColumn h
    rfl
  | wherePK => cases h; simp [BaseCall.softDeleteEvent, deletedBits]
  | _ => cases h; rfl

/-- After a run, the pair records the last soft-delete call that passed, or is as it was. -/
theorem run_deletedBits {calls : List BaseCall} {q q' : WhereBaseQuery}
    (h : q.run calls = .ok q') :
    q'.deletedBits = match (q.softDeleteLog calls).getLast? with
      | some x => (x, !x)
      | none => q.deletedBits := by
  induction calls generalizing q with
  | nil => cases h; rfl
  | cons c cs ih =>
    obtain ⟨q₁, h₁, h⟩ := run_cons_ok h
    rw [ih h, softDeleteLog, h₁]
    dsimp only
    rw [step_deletedBits h₁, List.getLast?_append]
    cases (q₁.softDeleteLog cs).getLast? <;> cases c.softDeleteEvent q.toBaseQuery <;> rfl

/-- The soft-delete filter that the specification gives for the table bound at the end of a
run and the last soft-delete call that passed: none without a soft-delete field or after
`whereAllWithDeleted`, `IS NOT NULL` after `whereDeleted`, `IS NULL` when no call passed. -/
def softDeleteConjunct (table : Option Table) (last : Option Bool) : Option String :=
  match table with
  | some t =>
    match t.softDeleteField, last with
    | some f, some true => some (t.alias ++ "." ++ f.sqlName ++ " IS NOT NULL")
    | some f, none => some (t.alias ++ "." ++ f.sqlName ++ " IS NULL")
    | _, _ => none
  | none => none

theorem softDeleteFilter_of_bits {q : WhereBaseQuery} {last : Option Bool}
    (h : q.deletedBits = match last with
      | some x => (x, !x)
      | none => (false, false)) :
    q.softDeleteFilter = softDeleteConjunct q.table last := by
  unfold softDeleteFilter softDeleteConjunct
  simp only [deletedBits] at h
  cases q.table with
  | none => rfl
  | some t =>
    dsimp only
    cases t.softDeleteField with
    | none => cases last <;> rfl
    | some f =>
      rcases last with _ | _ | _ <;> simp only [Prod.mk.injEq] at h <;> simp [h]

/-- Along every run the two soft-delete flags are never both set, and a failing call or `wherePK`
changes neither; `appendWhere` writes the filter of the last soft-delete call that passed. -/
theorem soft_delete_filter_follows_last_call {calls : List BaseCall} {q : WhereBaseQuery}
    (h : ({} : WhereBaseQuery).run calls = .ok q) :
    ¬(q.flags.has deletedFlag = true ∧ q.flags.has allWithDeletedFlag = true) ∧
    (∀ p : BaseQuery, p.checkSoftDelete.isSome →
      p.whereDeleted.flags = p.flags ∧ p.whereAllWithDeleted.flags = p.flags) ∧
    (∀ p : BaseQuery, p.whereDeleted.flags.has wherePKFlag = p.flags.has wherePKFlag ∧
      p.whereAllWithDeleted.flags.has wherePKFlag = p.flags.has wherePKFlag) ∧
    ∀ fmter b, q.appendWhere fmter b = q.renderWhere fmter b
      (softDeleteConjunct q.table (({} : WhereBaseQuery).softDeleteLog calls).getLast?) := by
  have bits := run_deletedBits h
  have bits' : q.deletedBits = match (({} : WhereBaseQuery).softDeleteLog calls).getLast? with
      | some x => (x, !x)
      | none => (false, false) := by
    rw [bits]; cases (({} : WhereBaseQuery).softDeleteLog calls).getLast? <;> rfl
  refine ⟨?_, fun p hp => ⟨BaseQuery.whereDeleted_flags_of_fail hp,
      BaseQuery.whereAllWithDeleted_flags_of_fail hp⟩,
    fun p => ⟨p.whereDeleted_has_wherePK, p.whereAllWithDeleted_has_wherePK⟩, fun fmter b => ?_⟩
  · simp only [deletedBits] at bits'
    simp only [Flag.has_deletedFlag, Flag.has_allWithDeletedFlag]
    split at bits' <;> simp only [Prod.mk.injEq] at bits' <;> simp [bits']
  · rw [appendWhere_eq (Reachable.tableBound ⟨calls, h⟩), softDeleteFilter_of_bits bits']

/-- `whereDeleted`, `whereAllWithDeleted`, then `whereDeleted` again on `users`: the last call
wins, and the clause filters for deleted rows. -/
theorem users_deleted_last_wins :
    ∃ q : WhereBaseQuery, ({} : WhereBaseQuery).run [.setTableModel (.ok (.table usersModel)),
        .whereDeleted, .whereAllWithDeleted, .whereDeleted] = .ok q ∧
      ∀ fmter b, q.appendWhere fmter b =
        q.renderWhere fmter b (some "user.deleted_at IS NOT NULL") :=
  ⟨_, rfl, (@soft_delete_filter_follows_last_call [.setTableModel (.ok (.table usersModel)),
    .whereDeleted, .whereAllWithDeleted, .whereDeleted] _ rfl).2.2.2⟩

end WhereBaseQuery

end Bun
