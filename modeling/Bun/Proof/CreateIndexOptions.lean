import Bun.Proof.StickyError

/-! The options of `CreateIndexQuery` that `AppendQuery` writes around the table and the columns.
`Unique`, `Concurrently` and `IfNotExists` only ever set their flag, `Index` and `Using` assign
their fragment, and `Include` and `IncludeExpr` append to the included columns.  So after any
run a flag is on exactly when some call set it, the index name and `USING` are those of the last
call that set them, and the included columns are those of every such call, in order.  No method
sets `fulltext` or `spatial`, so the statement never says `FULLTEXT` or `SPATIAL`.  These methods
read nothing, so one of them gives the same query wherever it stands among calls that do not write
its option. -/

namespace Bun

namespace CreateIndexQuery

/-- The index name that a call sets: `Index`'s. -/
def Call.index? : Call → Option QueryWithArgs
  | .index query args => some (safeQuery query args)
  | _ => none

/-- The `USING` fragment that a call sets: `Using`'s. -/
def Call.using? : Call → Option QueryWithArgs
  | .using query args => some (safeQuery query args)
  | _ => none

/-- The columns that a call includes: `Include`'s raw identifiers, `IncludeExpr`'s fragment. -/
def Call.included : Call → List QueryWithArgs
  | .include columns => columns.map unsafeIdent
  | .includeExpr query args => [safeQuery query args]
  | _ => []

/-- The options that `AppendQuery` writes and methods set. -/
structure Options where
  unique : Bool
  concurrently : Bool
  ifNotExists : Bool
  index : QueryWithArgs
  «using» : QueryWithArgs
  «include» : List QueryWithArgs

/-- The options of a query. -/
def options (q : CreateIndexQuery) : Options :=
  ⟨q.unique, q.concurrently, q.ifNotExists, q.index, q.using, q.include⟩

/-- The options after the calls, from options `o`: a flag is on when it was or some call sets
it, a fragment is the last one set, and the included columns grow in call order. -/
def Options.after (o : Options) (calls : List Call) : Options :=
  ⟨o.unique || calls.any (· matches .unique),
    o.concurrently || calls.any (· matches .concurrently),
    o.ifNotExists || calls.any (· matches .ifNotExists),
    (calls.filterMap Call.index?).getLastD o.index,
    (calls.filterMap Call.using?).getLastD o.using,
    o.include ++ calls.flatMap Call.included⟩

@[simp] theorem Options.after_nil (o : Options) : o.after [] = o := by
  simp [after]

theorem Options.after_cons (o : Options) (c : Call) (cs : List Call) :
    o.after (c :: cs) = (o.after [c]).after cs := by
  have hlast : ∀ (f : Call → Option QueryWithArgs) (d : QueryWithArgs),
      ((c :: cs).filterMap f).getLastD d = (cs.filterMap f).getLastD (([c].filterMap f).getLastD d) :=
    fun f d => by
      cases hc : f c <;>
        simp only [List.filterMap_cons, List.filterMap_nil, hc, List.getLastD_cons, List.getLastD_nil]
  simp only [after, hlast, List.any_cons, List.any_nil, Bool.or_false, Bool.or_assoc,
    List.flatMap_cons, List.flatMap_nil, List.append_nil, List.append_assoc]

/-- A method sets the options as `Options.after` says, and leaves `fulltext` and `spatial`. -/
theorem step_options {q q' : CreateIndexQuery} {c : Call} (h : q.step c = .ok q') :
    q'.options = q.options.after [c] ∧ q'.fulltext = q.fulltext ∧ q'.spatial = q.spatial := by
  cases c with
  | excludeColumn columns =>
    cases hb : q.toBaseQuery.excludeColumn columns with
    | error e => simp [step, hb] at h
    | ok b =>
      simp only [step, hb, map_ok, Except.ok.injEq] at h
      subst h
      simp [options, Options.after, Call.index?, Call.using?, Call.included]
  | _ => cases h; simp [options, Options.after, Call.index?, Call.using?, Call.included]

/-- For every run of methods that completes, from any query: the options are those that
`Options.after` computes from the calls, and `fulltext` and `spatial` are unchanged. -/
theorem options_after_calls {calls : List Call} {q q' : CreateIndexQuery}
    (h : q.run calls = .ok q') :
    q'.options = q.options.after calls ∧ q'.fulltext = q.fulltext ∧ q'.spatial = q.spatial := by
  induction calls generalizing q with
  | nil => cases h; simp
  | cons c cs ih =>
    obtain ⟨q₁, h₁, h⟩ := bind_eq_ok.mp h
    obtain ⟨ho₁, hf₁, hs₁⟩ := step_options h₁
    obtain ⟨ho, hf, hs⟩ := ih h
    exact ⟨by rw [ho, ho₁, ← Options.after_cons], hf.trans hf₁, hs.trans hs₁⟩

/-- `Index("a")`, `Unique()`, `Index("b")`, `Include("x")`, `IncludeExpr("y")`: the index is
`b`, unique, with `x` and `y` included. -/
theorem last_index_wins :
    ∃ q : CreateIndexQuery, newCreateIndexQuery.run [.index "a" none, .unique, .index "b" none,
        .include ["x"], .includeExpr "y" none] = .ok q ∧
      q.options = ⟨true, false, false, safeQuery "b" none, ⟨"", none⟩,
        [unsafeIdent "x", safeQuery "y" none]⟩ ∧
      q.options = newCreateIndexQuery.options.after [.index "a" none, .unique, .index "b" none,
        .include ["x"], .includeExpr "y" none] :=
  ⟨_, rfl, rfl, (options_after_calls (q := newCreateIndexQuery) (by rfl)).1⟩

/-- The words that `AppendQuery` writes between `CREATE ` and the index name, as the calls set
them. -/
def headWords (calls : List Call) : String :=
  (if calls.any (· matches .unique) then "UNIQUE " else "") ++ "INDEX " ++
    (if calls.any (· matches .concurrently) then "CONCURRENTLY " else "") ++
    (if calls.any (· matches .ifNotExists) then "IF NOT EXISTS " else "")

theorem if_append (b t : String) (c : Bool) : (if c then b ++ t else b) = b ++ if c then t else "" := by
  cases c <;> simp

/-- After any run from a new query, a statement starts with `CREATE `, the `headWords` of the
calls, the name of the last `Index` call and ` ON `. -/
theorem statement_head_follows_calls {calls : List Call} {q : CreateIndexQuery}
    (h : newCreateIndexQuery.run calls = .ok q) {fmter : Formatter} {b s : String}
    (hs : q.appendQuery fmter b = .ok s) :
    ∃ name rest,
      fmter.appendQuery ((calls.filterMap Call.index?).getLastD ⟨"", none⟩) = .ok name ∧
      s = b ++ "CREATE " ++ headWords calls ++ name ++ " ON " ++ rest := by
  obtain ⟨ho, hfull, hspat⟩ := options_after_calls h
  have hfull : q.fulltext = false := hfull
  have hspat : q.spatial = false := hspat
  simp only [options, Options.after, Options.mk.injEq] at ho
  obtain ⟨hu, hc, hi, hidx, -, -⟩ := ho
  have hu : q.unique = calls.any (· matches .unique) := hu
  have hc : q.concurrently = calls.any (· matches .concurrently) := hc
  have hi : q.ifNotExists = calls.any (· matches .ifNotExists) := hi
  have hidx : q.index = (calls.filterMap Call.index?).getLastD ⟨"", none⟩ := hidx
  have hn : q.err = none := by
    cases he : q.err with
    | none => rfl
    | some e => simp [appendQuery, he] at hs
  have hsplit : q.stages fmter = (q.stages fmter).take 7 ++ q.index.appendQuery fmter ::
      (fun b => q.appendFirstTable fmter (b ++ " ON ")) :: (q.stages fmter).drop 9 := rfl
  have hhead : runChain ((q.stages fmter).take 7) b = .ok (b ++ "CREATE " ++
      (if q.unique then "UNIQUE " else "") ++ "INDEX " ++
      (if q.concurrently then "CONCURRENTLY " else "") ++
      (if q.ifNotExists then "IF NOT EXISTS " else "")) := by
    simp only [stages, List.take, runChain, ok_bind, hfull, hspat, if_append, Bool.false_eq_true,
      ↓reduceIte, String.append_empty]
  have hrest : Appends (runChain ((q.stages fmter).drop 9)) :=
    appends_runChain fun g hg => stages_appends (run_tableBound h) fmter g (List.mem_of_mem_drop hg)
  rw [appendQuery_eq_runChain hn, hsplit, runChain_append, hhead, ok_bind, runChain] at hs
  obtain ⟨withName, hw, hs⟩ := bind_eq_ok.mp hs
  cases hname : fmter.appendQuery q.index with
  | error e => simp [QueryWithArgs.appendQuery, appendResult, hname] at hw
  | ok name =>
    simp only [QueryWithArgs.appendQuery, appendResult, hname, Except.ok.injEq] at hw
    subst hw
    obtain ⟨withTable, hon, hs⟩ := bind_eq_ok.mp hs
    obtain ⟨tableText, rfl⟩ := (BaseQuery.appends_appendFirstTable _ fmter).eq_append hon
    obtain ⟨tail, rfl⟩ := hrest.eq_append hs
    refine ⟨name, tableText ++ tail, hidx ▸ hname, ?_⟩
    rw [headWords, ← hu, ← hc, ← hi]
    simp only [String.append_assoc]

/-- `users`, `Unique()`, `Concurrently()`, an index `idx` on `name`. -/
theorem unique_concurrent_head :
    ∃ q : CreateIndexQuery, newCreateIndexQuery.run [.model (.ok (.table usersModel)), .unique,
        .concurrently, .index "idx" none, .column ["name"]] = .ok q ∧
      q.appendQuery plainFormatter "" =
        .ok "CREATE UNIQUE INDEX CONCURRENTLY idx ON users (name) WHERE user.deleted_at IS NULL" ∧
      headWords [.model (.ok (.table usersModel)), .unique, .concurrently, .index "idx" none,
        .column ["name"]] = "UNIQUE INDEX CONCURRENTLY " ∧
      ∃ name rest, plainFormatter.appendQuery ((([.model (.ok (.table usersModel)), .unique,
          .concurrently, .index "idx" none, .column ["name"]] : List Call).filterMap
            Call.index?).getLastD ⟨"", none⟩) = .ok name ∧
        "CREATE UNIQUE INDEX CONCURRENTLY idx ON users (name) WHERE user.deleted_at IS NULL" =
          "" ++ "CREATE " ++ headWords [.model (.ok (.table usersModel)), .unique, .concurrently,
            .index "idx" none, .column ["name"]] ++ name ++ " ON " ++ rest :=
  ⟨_, rfl, rfl, rfl, statement_head_follows_calls (by rfl) (by rfl)⟩

/-- The methods that set an option: the flags, `Index`, `Using`, `Include` and `IncludeExpr`. -/
def Call.isOption : Call → Bool
  | .unique | .concurrently | .ifNotExists | .index .. | .using .. | .include _ | .includeExpr .. =>
    true
  | _ => false

/-- Whether two calls write the same option in a way whose order shows: both `Index`, both
`Using`, or both add included columns. -/
def Call.setsSameOption : Call → Call → Bool
  | .index .., .index .. | .using .., .using .. => true
  | .include _, .include _ | .include _, .includeExpr .. | .includeExpr .., .include _
  | .includeExpr .., .includeExpr .. => true
  | _, _ => false

/-- A method that sets an option reads nothing and writes only its option, so it commutes with
every call that does not write the same option, a panicking one included. -/
theorem step_option_comm {c d : Call} (hc : c.isOption) (hd : c.setsSameOption d = false)
    (q : CreateIndexQuery) :
    (q.step c >>= fun q => q.step d) = (q.step d >>= fun q => q.step c) := by
  cases c <;> simp only [Call.isOption, Bool.false_eq_true] at hc <;> cases d <;>
    simp only [Call.setsSameOption, Bool.true_eq_false] at hd <;> first
    | rfl
    | (simp only [step, ok_bind]; cases q.toBaseQuery.excludeColumn _ <;> rfl)

/-- An option call gives the same result, a panic included, wherever it stands among calls that
do not write its option. -/
theorem option_call_moves_freely {c : Call} (hc : c.isOption) {calls₁ : List Call}
    (hd : ∀ d ∈ calls₁, c.setsSameOption d = false) (q : CreateIndexQuery) (calls₂ : List Call) :
    q.run (calls₁ ++ c :: calls₂) = q.run (c :: calls₁ ++ calls₂) := by
  induction calls₁ generalizing q with
  | nil => rfl
  | cons d ds ih =>
    have ih' : ∀ q₁ : CreateIndexQuery, q₁.run (ds ++ c :: calls₂) = q₁.run (c :: ds ++ calls₂) :=
      ih fun d' h => hd d' (List.mem_cons_of_mem _ h)
    calc q.run (d :: ds ++ c :: calls₂)
        = q.step d >>= fun q₁ => q₁.step c >>= fun q₂ => q₂.run (ds ++ calls₂) := by
          rw [List.cons_append, run]
          simp only [ih']
          rfl
      _ = q.step c >>= fun q₁ => q₁.step d >>= fun q₂ => q₂.run (ds ++ calls₂) := by
          rw [← bind_assoc, ← step_option_comm hc (hd d (List.mem_cons_self _ _)), bind_assoc]
      _ = q.run (c :: d :: ds ++ calls₂) := rfl

/-- `Unique()` after `Index("a")` and `Model(users)`, or before them: the same query. -/
theorem unique_early_or_late :
    Call.unique.isOption ∧
      (∀ d ∈ [Call.index "a" none, .model (.ok (.table usersModel))],
        Call.unique.setsSameOption d = false) ∧
      newCreateIndexQuery.run ([.index "a" none, .model (.ok (.table usersModel))] ++
          .unique :: [.column ["name"]]) =
        newCreateIndexQuery.run (.unique :: [.index "a" none, .model (.ok (.table usersModel))] ++
          [.column ["name"]]) := by
  have hd : ∀ d ∈ [Call.index "a" none, .model (.ok (.table usersModel))],
      Call.unique.setsSameOption d = false := by
    simp [Call.setsSameOption]
  exact ⟨rfl, hd, option_call_moves_freely (c := .unique) rfl hd _ _⟩

end CreateIndexQuery

end Bun
