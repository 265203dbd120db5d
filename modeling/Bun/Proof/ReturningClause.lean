import Bun.Query.Returning
import Bun.Proof.WhereClause

/-! The `RETURNING` clause after any sequence of `addReturning` and `addReturningField` calls.
An expression turns the fields off: `addReturningField` is ignored once one was added, and
`appendReturning` writes the fields only when there is none.  The fields are kept once each, in
the order they were first added, which is `List.eraseDups` of the fields added. -/

namespace Bun

namespace ReturningCall

/-- The expression that an `addReturning` call adds. -/
def ret? : ReturningCall → Option QueryWithArgs
  | .addReturning ret => some ret
  | .addReturningField _ => none

/-- The field that an `addReturningField` call adds. -/
def field? : ReturningCall → Option Field
  | .addReturning _ => none
  | .addReturningField field => some field

end ReturningCall

/-- The expressions of the `addReturning` calls, in call order. -/
def explicitRets (calls : List ReturningCall) : List QueryWithArgs := calls.filterMap (·.ret?)

/-- The fields of the `addReturningField` calls, in call order and with repeats. -/
def addedFields (calls : List ReturningCall) : List Field := calls.filterMap (·.field?)

@[simp] theorem explicitRets_nil : explicitRets [] = [] := rfl

@[simp] theorem explicitRets_ret (ret : QueryWithArgs) (cs : List ReturningCall) :
    explicitRets (.addReturning ret :: cs) = ret :: explicitRets cs := rfl

@[simp] theorem explicitRets_field (field : Field) (cs : List ReturningCall) :
    explicitRets (.addReturningField field :: cs) = explicitRets cs := rfl

@[simp] theorem addedFields_nil : addedFields [] = [] := rfl

@[simp] theorem addedFields_ret (ret : QueryWithArgs) (cs : List ReturningCall) :
    addedFields (.addReturning ret :: cs) = addedFields cs := rfl

@[simp] theorem addedFields_field (field : Field) (cs : List ReturningCall) :
    addedFields (.addReturningField field :: cs) = field :: addedFields cs := rfl

theorem eraseDups_loop_ne_nil {fs acc : List Field} (h : acc ≠ []) :
    List.eraseDups.loop fs acc ≠ [] := by
  induction fs generalizing acc with
  | nil => simpa [List.eraseDups.loop] using h
  | cons f fs ih =>
    unfold List.eraseDups.loop
    split
    · exact ih h
    · exact ih (List.cons_ne_nil _ _)

theorem eraseDups_ne_nil {fs : List Field} (h : fs ≠ []) : fs.eraseDups ≠ [] := by
  obtain ⟨f, fs, rfl⟩ := List.exists_cons_of_ne_nil h
  exact @eraseDups_loop_ne_nil fs [f] (List.cons_ne_nil _ _)

namespace ReturningQuery

@[simp] theorem addReturningField_returning (q : ReturningQuery) (field : Field) :
    (q.addReturningField field).returning = q.returning := by
  unfold addReturningField
  split
  · rfl
  · split <;> rfl

/-- The expressions accumulate in call order. -/
theorem run_returning (q : ReturningQuery) (calls : List ReturningCall) :
    (q.run calls).returning = q.returning ++ explicitRets calls := by
  induction calls generalizing q with
  | nil => simp [run]
  | cons c cs ih => cases c <;> simp [run, step, addReturning, ih]

/-- While there is no expression, the fields are those of `List.eraseDups`'s loop, whose
accumulator holds the fields kept so far, last first. -/
theorem run_returningFields {q : ReturningQuery} (hq : q.returning = [])
    {calls : List ReturningCall} (he : explicitRets calls = []) :
    (q.run calls).returningFields =
      List.eraseDups.loop (addedFields calls) q.returningFields.reverse := by
  induction calls generalizing q with
  | nil => simp [run, List.eraseDups.loop]
  | cons c cs ih =>
    cases c with
    | addReturning ret => simp at he
    | addReturningField field =>
      simp only [explicitRets_field] at he
      have hmem : List.elem field q.returningFields.reverse = q.returningFields.any (· == field) := by
        rw [Bool.eq_iff_iff, List.elem_iff, List.mem_reverse, List.any_beq']
      rw [run, step, addedFields_field, List.eraseDups.loop, hmem]
      unfold addReturningField
      simp only [hq, List.length_nil, gt_iff_lt, Nat.lt_irrefl, if_false]
      by_cases hf : q.returningFields.any (· == field) = true
      · simp only [hf, if_true]
        exact ih hq he
      · simp only [hf, Bool.false_eq_true, if_false]
        rw [ih rfl he, List.reverse_append]
        rfl

/-- From a new query: the expressions added, and, when there is none, the fields added, each
once, in the order of their first addition. -/
theorem run_new (calls : List ReturningCall) :
    (({} : ReturningQuery).run calls).returning = explicitRets calls ∧
      (explicitRets calls = [] →
        (({} : ReturningQuery).run calls).returningFields = (addedFields calls).eraseDups) :=
  ⟨run_returning {} calls, fun he => run_returningFields rfl he⟩

/-- `RETURNING` is written exactly when `hasReturning` holds: `appendReturning` then writes
` RETURNING ` or fails, and otherwise returns the buffer as it was. -/
theorem hasReturning_iff (q : ReturningQuery) (fmter : Formatter) (b : String) :
    q.hasReturning = true ↔ q.appendReturning fmter b ≠ .ok b := by
  unfold appendReturning
  cases q.hasReturning
  · simp
  · simp only [Bool.not_true, Bool.false_eq_true, if_false, true_iff]
    intro h
    obtain ⟨s, hs, h⟩ := bind_eq_ok.mp h
    obtain ⟨t, rfl⟩ := (appends_appendList (fun r => appends_appendQuery r fmter) ", "
      q.returning).eq_append hs
    have hlen : ∀ u, b ++ " RETURNING " ++ t ++ u ≠ b := fun u he => by
      have := congrArg String.length he
      simp only [String.length_append] at this
      have : " RETURNING ".length = 11 := rfl
      omega
    split at h
    · exact hlen "" (by simpa using h)
    · rw [pure_eq_ok, appendColumns_eq] at h
      exact hlen _ (Except.ok.inj h)

/-- Without expressions, `appendReturning` writes the fields' SQL names when there is one. -/
theorem appendReturning_of_fields {q : ReturningQuery} (hr : q.returning = [])
    (hf : q.returningFields ≠ []) (fmter : Formatter) (b : String) :
    q.appendReturning fmter b =
      .ok (b ++ " RETURNING " ++ ", ".intercalate (q.returningFields.map (·.sqlName))) := by
  obtain ⟨f, fs, hfs⟩ := List.exists_cons_of_ne_nil hf
  have hq : q.hasReturning = true := by simp [hasReturning, hr, hfs]
  simp only [appendReturning, hq, hr, Bool.not_true, Bool.false_eq_true, if_false, appendList,
    ok_bind, List.length_nil, gt_iff_lt, Nat.lt_irrefl, pure_eq_ok, appendColumns_eq]
  have hqual : qualify "" = (·.sqlName) := funext fun f => by simp [qualify]
  rw [hqual]

/-- With expressions, other than a single `null` or `NULL`, `appendReturning` writes them. -/
theorem appendReturning_of_rets {q : ReturningQuery} (hr : q.returning ≠ [])
    (hn : ∀ r, q.returning = [r] → r.query ≠ "null" ∧ r.query ≠ "NULL") (fmter : Formatter)
    (b : String) :
    q.appendReturning fmter b =
      appendList ", " (fun r => r.appendQuery fmter) (b ++ " RETURNING ") q.returning := by
  have hq : q.hasReturning = true := by
    unfold hasReturning
    split
    · rename_i r h; simp [hn r h]
    · simp [List.length_pos.mpr hr]
  simp only [appendReturning, hq, Bool.not_true, Bool.false_eq_true, if_false,
    List.length_pos.mpr hr, if_true, pure_eq_ok, bind_ok]

/-- After any returning calls, `appendReturning` writes nothing (nothing added, or a lone `null`),
else the expressions in call order, else the added fields once each; `hasReturning` holds exactly
when it writes. -/
theorem appendReturning_after_calls {calls : List ReturningCall} {q : ReturningQuery}
    (h : ({} : ReturningQuery).run calls = q) (fmter : Formatter) (b : String) :
    (explicitRets calls = [] → addedFields calls = [] → q.appendReturning fmter b = .ok b) ∧
    (∀ r, explicitRets calls = [r] → (r.query = "null" ∨ r.query = "NULL") →
      q.appendReturning fmter b = .ok b) ∧
    (explicitRets calls ≠ [] →
      (∀ r, explicitRets calls = [r] → r.query ≠ "null" ∧ r.query ≠ "NULL") →
      q.appendReturning fmter b = appendList ", " (fun r => r.appendQuery fmter)
        (b ++ " RETURNING ") (explicitRets calls)) ∧
    (explicitRets calls = [] → addedFields calls ≠ [] →
      q.appendReturning fmter b = .ok (b ++ " RETURNING " ++
        ", ".intercalate ((addedFields calls).eraseDups.map (·.sqlName)))) ∧
    (q.hasReturning = true ↔ q.appendReturning fmter b ≠ .ok b) := by
  subst h
  obtain ⟨hrets, hfields⟩ := run_new calls
  refine ⟨fun he hf => ?_, fun r he hn => ?_, fun he hn => ?_, fun he hf => ?_,
    hasReturning_iff _ fmter b⟩
  · have hq : (({} : ReturningQuery).run calls).hasReturning = false := by
      simp [hasReturning, hrets, hfields he, he, hf, List.eraseDups, List.eraseDups.loop]
    simp [appendReturning, hq]
  · have hq : (({} : ReturningQuery).run calls).hasReturning = false := by
      rcases hn with hn | hn <;> simp [hasReturning, hrets, he, hn]
    simp [appendReturning, hq]
  · rw [← hrets] at he hn ⊢
    exact appendReturning_of_rets he hn fmter b
  · rw [appendReturning_of_fields (hrets.trans he) (hfields he ▸ eraseDups_ne_nil hf), hfields he]

/-- The fields `id`, `name` and `id` again: ` RETURNING id, name`. -/
theorem returning_id_name_once :
    explicitRets [.addReturningField ⟨"id", "id", true⟩, .addReturningField ⟨"name", "name", false⟩,
        .addReturningField ⟨"id", "id", true⟩] = [] ∧
      (({} : ReturningQuery).run [.addReturningField ⟨"id", "id", true⟩,
        .addReturningField ⟨"name", "name", false⟩, .addReturningField ⟨"id", "id", true⟩]).appendReturning
        plainFormatter "" = .ok " RETURNING id, name" := by
  refine ⟨rfl, ?_⟩
  rw [(@appendReturning_after_calls [.addReturningField ⟨"id", "id", true⟩,
    .addReturningField ⟨"name", "name", false⟩, .addReturningField ⟨"id", "id", true⟩] _ rfl
    plainFormatter "").2.2.2.1 rfl (by simp)]
  exact congrArg Except.ok (by decide)

end ReturningQuery

end Bun
