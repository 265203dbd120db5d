import Bun.Query.Where

/-! The builder calls that change a `whereBaseQuery`, and the runs of such calls from a new
query.  These are the methods of `baseQuery` and `WhereQuery` that the query types call, the
assignment of `modelTable` that `ModelTableExpr` makes, and the flag that `WherePK` sets.  A run
stops at the first call that panics. -/

namespace Bun

/-- A builder call on a `whereBaseQuery`. -/
inductive BaseCall where
  | setTableModel (resolved : Except String Model)
  | whereDeleted
  | whereAllWithDeleted
  | addWith (w : WithQuery)
  | addTable (table : QueryWithArgs)
  | addColumn (column : QueryWithArgs)
  | excludeColumn (columns : List String)
  | setModelTable (table : QueryWithArgs)
  | wherePK
  | where (query : String) (args : Option (List Value))
  | whereOr (query : String) (args : Option (List Value))
  | whereGroup (sep : String) (fn : WhereCalls)

namespace WhereBaseQuery

/-- One builder call. -/
def step (q : WhereBaseQuery) : BaseCall → Except Fault WhereBaseQuery
  | .setTableModel resolved => .ok { q with toBaseQuery := q.toBaseQuery.setTableModel resolved }
  | .whereDeleted => .ok { q with toBaseQuery := q.toBaseQuery.whereDeleted }
  | .whereAllWithDeleted => .ok { q with toBaseQuery := q.toBaseQuery.whereAllWithDeleted }
  | .addWith w => .ok { q with toBaseQuery := q.toBaseQuery.addWith w }
  | .addTable table => .ok { q with toBaseQuery := q.toBaseQuery.addTable table }
  | .addColumn column => .ok { q with toBaseQuery := q.toBaseQuery.addColumn column }
  | .excludeColumn columns =>
    (fun b => { q with toBaseQuery := b }) <$> q.toBaseQuery.excludeColumn columns
  | .setModelTable table => .ok { q with modelTable := table }
  | .wherePK => .ok { q with flags := q.flags.set wherePKFlag }
  | .where query args =>
    .ok { q with toWhereQuery := q.toWhereQuery.addWhere (safeQueryWithSep query args " AND ") }
  | .whereOr query args =>
    .ok { q with toWhereQuery := q.toWhereQuery.addWhere (safeQueryWithSep query args " OR ") }
  | .whereGroup sep fn => .ok { q with toWhereQuery := q.toWhereQuery.addWhereGroup sep fn.run }

/-- `excludeColumn`, when it completes, changes only the columns and the error. -/
theorem step_excludeColumn {q q' : WhereBaseQuery} {columns : List String}
    (h : q.step (.excludeColumn columns) = .ok q') :
    ∃ cols err, q' = { q with columns := cols, err } := by
  obtain ⟨b, hb, h⟩ := bind_eq_ok.mp h
  cases h
  obtain ⟨cols, err, rfl⟩ := BaseQuery.excludeColumn_eq hb
  exact ⟨cols, err, rfl⟩

/-- The calls one after another, up to the first panic. -/
def run (q : WhereBaseQuery) : List BaseCall → Except Fault WhereBaseQuery
  | [] => .ok q
  | c :: cs => q.step c >>= fun q => q.run cs

/-- The states that some run from a new query reaches. -/
def Reachable (q : WhereBaseQuery) : Prop := ∃ calls, run {} calls = .ok q

@[simp] theorem run_nil (q : WhereBaseQuery) : q.run [] = .ok q := rfl

theorem run_cons (q : WhereBaseQuery) (c : BaseCall) (cs : List BaseCall) :
    q.run (c :: cs) = q.step c >>= fun q => q.run cs := rfl

theorem run_append (q : WhereBaseQuery) (cs ds : List BaseCall) :
    q.run (cs ++ ds) = q.run cs >>= fun q => q.run ds := by
  induction cs generalizing q with
  | nil => rfl
  | cons c cs ih =>
    simp only [List.cons_append, run_cons, ih]
    cases q.step c <;> rfl

/-- A run that completes passes through a completed step at each call. -/
theorem run_cons_ok {q q' : WhereBaseQuery} {c : BaseCall} {cs : List BaseCall}
    (h : q.run (c :: cs) = .ok q') : ∃ q₁, q.step c = .ok q₁ ∧ q₁.run cs = .ok q' := by
  rw [run_cons] at h
  cases hc : q.step c with
  | error e => rw [hc] at h; cases h
  | ok q₁ => rw [hc] at h; exact ⟨q₁, rfl, h⟩

/-- A property that every completed step keeps is kept by every completed run. -/
theorem run_preserves {P : WhereBaseQuery → Prop}
    (step : ∀ q q' c, P q → q.step c = .ok q' → P q') :
    ∀ {calls : List BaseCall} {q q' : WhereBaseQuery}, P q → q.run calls = .ok q' → P q'
  | [], _, _, hq, h => by cases h; exact hq
  | _ :: _, _, _, hq, h =>
    let ⟨_, h₁, h⟩ := run_cons_ok h
    run_preserves step (step _ _ _ hq h₁) h

/-- A property that every completed step of an admitted call keeps is kept by every completed
run of admitted calls. -/
theorem run_preserves_on {P : WhereBaseQuery → Prop} {admitted : BaseCall → Prop}
    (step : ∀ q q' c, admitted c → P q → q.step c = .ok q' → P q') :
    ∀ {calls : List BaseCall} {q q' : WhereBaseQuery}, (∀ c ∈ calls, admitted c) → P q →
      q.run calls = .ok q' → P q'
  | [], _, _, _, hq, h => by cases h; exact hq
  | c :: _, _, _, hc, hq, h =>
    let ⟨_, h₁, h⟩ := run_cons_ok h
    run_preserves_on step (fun c' h' => hc c' (List.mem_cons_of_mem c h'))
      (step _ _ _ (hc c (List.mem_cons_self _ _)) hq h₁) h

/-- A property of a new query that every completed step keeps holds of every reachable
state. -/
theorem Reachable.induction {P : WhereBaseQuery → Prop} (init : P {})
    (step : ∀ q q' c, P q → q.step c = .ok q' → P q') {q : WhereBaseQuery}
    (h : q.Reachable) : P q :=
  let ⟨_, h⟩ := h
  run_preserves step init h

end WhereBaseQuery

end Bun
