import Bun.Proof.WhereTree

/-! The guard of `mustAppendWhere`, which `Update` and `Delete` queries render their clause with.
It tests the length of the list of predicates, not what the list renders: an entry with empty
text and `nil` arguments is written as nothing, like the markers of a group.  When every
predicate that `Where` and `WhereOr` add has text, a list is empty exactly when it holds no
entry that is written, and the guard then rejects exactly the clauses with no predicate and no
primary-key restriction. -/

namespace Bun

/-- An entry that `_appendWhere` writes nothing for: empty text and `nil` arguments. -/
def QueryWithSep.isMarker (w : QueryWithSep) : Bool := w.query == "" && w.args.isNone

/-- Every predicate that the calls add, inside groups too, has text. -/
def WhereCalls.allText : WhereCalls → Bool
  | .done => true
  | .where query _ next => query != "" && next.allText
  | .whereOr query _ next => query != "" && next.allText
  | .whereGroup _ fn next => fn.allText && next.allText

/-- The predicates that a builder call adds, if any, have text. -/
def BaseCall.allText : BaseCall → Bool
  | .where query _ => query != ""
  | .whereOr query _ => query != ""
  | .whereGroup _ fn => fn.allText
  | _ => true

/-- A list that is empty or holds an entry that is written. -/
def HoldsPredicate (ws : List QueryWithSep) : Prop := ws = [] ∨ ∃ w ∈ ws, w.isMarker = false

theorem isMarker_of_text {query : String} (hq : query ≠ "") (args : Option (List Value))
    (sep : String) : (safeQueryWithSep query args sep).isMarker = false := by
  simp [QueryWithSep.isMarker, safeQueryWithSep, safeQuery, hq]

namespace WhereCalls

/-- Calls whose predicates have text add nothing, or an entry that is written. -/
theorem holdsPredicate_flatten {c : WhereCalls} (ht : c.allText) : HoldsPredicate c.flatten := by
  induction c with
  | done => exact .inl rfl
  | «where» query args next | whereOr query args next =>
    simp only [allText, Bool.and_eq_true, bne_iff_ne, ne_eq] at ht
    exact .inr ⟨_, List.mem_cons_self _ _, isMarker_of_text ht.1 args _⟩
  | whereGroup sep fn next ihfn ih =>
    simp only [allText, Bool.and_eq_true] at ht
    rw [flatten]
    cases hf : fn.flatten with
    | nil => exact ih ht.2
    | cons w ws =>
      dsimp only
      rcases ihfn ht.1 with h | ⟨v, hv, hm⟩
      · rw [hf] at h; cases h
      · rw [hf] at hv
        rcases List.mem_cons.mp hv with rfl | hv
        · exact .inr ⟨{ v with sep := "" }, by simp, hm⟩
        · exact .inr ⟨v, by simp [hv], hm⟩

end WhereCalls

namespace WhereBaseQuery

theorem step_holdsPredicate {q q' : WhereBaseQuery} {c : BaseCall} (ht : c.allText)
    (hq : HoldsPredicate q.where) (h : q.step c = .ok q') : HoldsPredicate q'.where := by
  have hadd : ∀ ws, HoldsPredicate ws → HoldsPredicate (q.where ++ ws) := by
    rintro ws (rfl | ⟨w, hw, hm⟩)
    · simpa using hq
    · exact .inr ⟨w, List.mem_append_right _ hw, hm⟩
  cases c with
  | «where» query args | whereOr query args =>
    cases h
    have hne : query ≠ "" := by simpa [BaseCall.allText] using ht
    exact hadd _ (.inr ⟨_, List.mem_singleton_self _, isMarker_of_text hne _ _⟩)
  | whereGroup sep fn =>
    cases h
    have hw := WhereCalls.run_where (.whereGroup sep fn .done) q.toWhereQuery
    rw [WhereCalls.run, WhereCalls.run] at hw
    show HoldsPredicate (q.toWhereQuery.addWhereGroup sep fn.run).where
    rw [hw]
    exact hadd _ (WhereCalls.holdsPredicate_flatten
      (by simpa [WhereCalls.allText, BaseCall.allText] using ht))
  | excludeColumn columns =>
    obtain ⟨_, _, rfl⟩ := step_excludeColumn h
    exact hq
  | _ => cases h; exact hq

theorem run_holdsPredicate {calls : List BaseCall} {q : WhereBaseQuery}
    (h : ({} : WhereBaseQuery).run calls = .ok q) (ht : ∀ c ∈ calls, c.allText) :
    HoldsPredicate q.where :=
  run_preserves_on (fun _ _ _ hc hq h => step_holdsPredicate hc hq h) ht (.inl rfl) h

/-- On a state that calls whose predicates have text reach, the list is empty exactly when it
holds no entry that is written. -/
theorem where_eq_nil_iff_all_markers {calls : List BaseCall} {q : WhereBaseQuery}
    (h : ({} : WhereBaseQuery).run calls = .ok q) (ht : ∀ c ∈ calls, c.allText) :
    q.where = [] ↔ q.where.all (·.isMarker) := by
  refine ⟨fun h0 => by rw [h0]; rfl, fun hall => ?_⟩
  rcases run_holdsPredicate h ht with h0 | ⟨w, hw, hm⟩
  · exact h0
  · simpa [hm] using List.all_eq_true.mp hall w hw

/-- On every state that builder calls whose predicates have text reach, `mustAppendWhere`
returns its error exactly when no entry of the list is written and the primary-key predicate is
off, and otherwise writes the clause as `appendWhere` does. -/
theorem mustAppendWhere_rejects_no_predicate {calls : List BaseCall} {q : WhereBaseQuery}
    (h : ({} : WhereBaseQuery).run calls = .ok q) (ht : ∀ c ∈ calls, c.allText)
    (fmter : Formatter) (b : String) :
    q.mustAppendWhere fmter b =
      if q.where.all (·.isMarker) ∧ q.flags.has wherePKFlag = false then
        .error (.error "bun: Update and Delete queries require Where clause (try WherePK)")
      else q.appendWhere fmter b := by
  rw [mustAppendWhere]
  simp only [← where_eq_nil_iff_all_markers h ht]
  simp

/-- `Where("a")` alone: the guard passes and the clause is written. -/
theorem mustAppendWhere_writes_predicate :
    ∃ q : WhereBaseQuery, ({} : WhereBaseQuery).run [.where "a" none] = .ok q ∧
      q.mustAppendWhere plainFormatter "" = .ok " WHERE (a)" :=
  ⟨_, rfl, (@mustAppendWhere_rejects_no_predicate [.where "a" none] _ rfl (by decide)
    plainFormatter "").trans rfl⟩

/-- `Where("")` adds an entry that is written as nothing, yet it passes the guard of `Update` and
`Delete`: alone it gives the empty clause ` WHERE `, and on `users` the soft-delete filter only. -/
theorem empty_where_passes_guard :
    (∃ q : WhereBaseQuery, ({} : WhereBaseQuery).run [.where "" none] = .ok q ∧
      q.where.all (·.isMarker) ∧ q.flags.has wherePKFlag = false ∧
      q.mustAppendWhere plainFormatter "" = .ok " WHERE ") ∧
    ∃ q : WhereBaseQuery, ({} : WhereBaseQuery).run [.setTableModel (.ok (.table usersModel)),
        .where "" none] = .ok q ∧
      q.where.all (·.isMarker) ∧ q.flags.has wherePKFlag = false ∧
      q.mustAppendWhere plainFormatter "" = .ok " WHERE user.deleted_at IS NULL" :=
  ⟨⟨_, rfl, rfl, rfl, rfl⟩, ⟨_, rfl, rfl, rfl, rfl⟩⟩

end WhereBaseQuery

end Bun
