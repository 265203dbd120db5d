/-! The fragments of SQL that a query collects (`sqlfmt.QueryWithArgs` and
`sqlfmt.QueryWithSep`), the formatter they are rendered through, and the two ways a call of the Go
code ends without returning normally.  The formatter is the dialect's and is not part of this
package: it is a parameter, and the theorems hold for every formatter.  Every appender threads the
buffer `b` as the Go code does; `Appends` says that an appender only adds to the end of it. -/

namespace Bun

/-- A Go value passed as an argument of a fragment, or read from a field of a model. -/
inductive Value where
  | null
  | int (n : Int)
  | str (s : String)
  deriving DecidableEq, Repr

/-- `sqlfmt.QueryWithArgs`: a fragment of SQL and its arguments.  `args = none` is Go's `nil`
slice; package `sqlfmt` is not under `src/`, and the model assumes that with text this is a raw
identifier (`UnsafeIdent`) and with empty text a punctuation marker. -/
structure QueryWithArgs where
  query : String
  args : Option (List Value)
  deriving DecidableEq, Repr

/-- `QueryWithArgs.IsZero`, assumed (its source is not under `src/`) to mean empty text and `nil`
arguments. -/
def QueryWithArgs.isZero (q : QueryWithArgs) : Bool := q.query == "" && q.args.isNone

/-- `sqlfmt.SafeQuery`, assumed (its source is not under `src/`) to keep the arguments as given,
`nil` included, so that `ColumnExpr` or `TableExpr` without arguments gives a raw identifier. -/
def safeQuery (query : String) (args : Option (List Value)) : QueryWithArgs := ⟨query, args⟩

/-- `sqlfmt.UnsafeIdent`, assumed (its source is not under `src/`) to be the name with `nil`
arguments. -/
def unsafeIdent (ident : String) : QueryWithArgs := ⟨ident, none⟩

@[simp] theorem unsafeIdent_query (ident : String) : (unsafeIdent ident).query = ident := rfl

@[simp] theorem unsafeIdent_args (ident : String) : (unsafeIdent ident).args = none := rfl

/-- `sqlfmt.QueryWithSep`: a fragment with the separator written before it in a list. -/
structure QueryWithSep extends QueryWithArgs where
  sep : String
  deriving DecidableEq, Repr

/-- `sqlfmt.SafeQueryWithSep`. -/
def safeQueryWithSep (query : String) (args : Option (List Value)) (sep : String) :
    QueryWithSep :=
  { safeQuery query args with sep }

@[simp] theorem safeQueryWithSep_sep (query : String) (args : Option (List Value)) (sep : String) :
    (safeQueryWithSep query args sep).sep = sep := rfl

/-- Go's `%q` of a string whose characters are printable. -/
def quote (s : String) : String :=
  "\"" ++ String.join (s.toList.map fun c =>
    if c = '"' then "\\\"" else if c = '\\' then "\\\\" else c.toString) ++ "\""

/-- How a call ends when it does not return normally: with the `error` it returns, or with a Go
run-time panic and the message Go prints for it. -/
inductive Fault where
  | error (msg : String)
  | runtimeError (msg : String)
  deriving DecidableEq, Repr

/-- The panic of a dereference of a `nil` pointer, or of a method call on a `nil` interface. -/
def nilDereference : Fault :=
  .runtimeError "runtime error: invalid memory address or nil pointer dereference"

/-- The dialect's formatter (`sqlfmt.QueryFormatter`), by what each of its uses appends. -/
structure Formatter where
  /-- `fmter.FormatQuery(b, query)` for a query without arguments. -/
  formatQuery : String → String
  /-- What `QueryWithArgs.AppendQuery(fmter, b)` appends, or the error it returns. -/
  appendQuery : QueryWithArgs → Except String String
  /-- `sqlfmt.AppendIdent(fmter, b, name)`. -/
  appendIdent : String → String
  /-- The literal that a field's `AppendValue(fmter, b, strct)` appends for its value. -/
  appendValue : Value → String
  /-- `sqlfmt.IsNopFormatter(fmter)`: the template formatter, which writes `?` for values. -/
  isNop : Bool

/-- A formatter for the examples: fragments written as their text, identifiers in double quotes
and values as literals. -/
def plainFormatter : Formatter where
  formatQuery := id
  appendQuery q := .ok q.query
  appendIdent s := "\"" ++ s ++ "\""
  appendValue
    | .null => "NULL"
    | .int n => toString n
    | .str s => "\x27" ++ s ++ "\x27"
  isNop := false

/-- Append what a collaborator wrote, or return the error it returned. -/
def appendResult (r : Except String String) (b : String) : Except Fault String :=
  match r with
  | .ok s => .ok (b ++ s)
  | .error e => .error (.error e)

/-- `QueryWithArgs.AppendQuery(fmter, b)`. -/
def QueryWithArgs.appendQuery (q : QueryWithArgs) (fmter : Formatter) (b : String) :
    Except Fault String :=
  appendResult (fmter.appendQuery q) b

/-- The loop the query types write for every list they render:
`for i, x := range xs { if i > 0 { b = append(b, sep...) }; b, err = f(b, x) ... }`, which
returns the first error of `f`. -/
def appendList (sep : String) (f : α → String → Except Fault String) (b : String) :
    List α → Except Fault String
  | [] => .ok b
  | x :: xs => f x b >>= fun b => xs.foldlM (fun b x => f x (b ++ sep)) b

/-- The same loop for an `f` that cannot fail. -/
def appendEach (sep : String) (f : α → String → String) (b : String) : List α → String
  | [] => b
  | x :: xs => xs.foldl (fun b x => f x (b ++ sep)) (f x b)

/-! ### Appenders -/

/-- `f` appends to the buffer what it writes into an empty one, or fails whatever the buffer:
it never reads or rewrites what is already there. -/
def Appends (f : String → Except Fault String) : Prop :=
  ∀ b, f b = (b ++ ·) <$> f ""

@[simp] theorem ok_bind (a : α) (f : α → Except ε β) : (Except.ok a >>= f) = f a := rfl

@[simp] theorem error_bind (e : ε) (f : α → Except ε β) :
    (Except.error e >>= f : Except ε β) = .error e := rfl

@[simp] theorem pure_eq_ok (a : α) : (pure a : Except ε α) = .ok a := rfl

@[simp] theorem bind_ok (x : Except ε α) : (x >>= Except.ok) = x := by cases x <;> rfl

theorem bind_eq_ok {x : Except ε α} {f : α → Except ε β} {r : β} :
    (x >>= f) = .ok r ↔ ∃ a, x = .ok a ∧ f a = .ok r := by
  cases x <;> simp

@[simp] theorem map_ok (g : α → β) (a : α) : (g <$> (Except.ok a : Except ε α)) = .ok (g a) := rfl

@[simp] theorem map_error (g : α → β) (e : ε) :
    (g <$> (Except.error e : Except ε α)) = .error e := rfl

theorem Appends.ok {f : String → Except Fault String} (h : Appends f) {b s : String}
    (hs : f "" = .ok s) : f b = .ok (b ++ s) := by
  rw [h b, hs]; rfl

theorem Appends.error {f : String → Except Fault String} (h : Appends f) {b : String} {e : Fault}
    (he : f "" = .error e) : f b = .error e := by
  rw [h b, he]; rfl

/-- The result of an appender extends its buffer. -/
theorem Appends.eq_append {f : String → Except Fault String} (h : Appends f) {b s : String}
    (hs : f b = .ok s) : ∃ t, s = b ++ t := by
  rw [h b] at hs
  cases hf : f "" with
  | error e => rw [hf] at hs; cases hs
  | ok t => rw [hf] at hs; cases hs; exact ⟨t, rfl⟩

theorem appends_pure (t : String) : Appends fun b => .ok (b ++ t) := fun b => by simp

theorem appends_okIf (c : Bool) (t : String) : Appends fun b => .ok (if c then b ++ t else b) :=
  fun b => by cases c <;> simp

/-- An appender run under a condition, the buffer left as it is otherwise. -/
theorem Appends.ite_ok {f : String → Except Fault String} (hf : Appends f) (c : Prop)
    [Decidable c] : Appends fun b => if c then f b else .ok b := fun b => by
  split
  · exact hf b
  · simp

theorem appends_appendResult (r : Except String String) : Appends (appendResult r) := fun b => by
  cases r <;> simp [appendResult]

theorem appends_appendQuery (q : QueryWithArgs) (fmter : Formatter) :
    Appends (q.appendQuery fmter) :=
  appends_appendResult _

/-- Running one appender after another appends. -/
theorem Appends.bind {f g : String → Except Fault String} (hf : Appends f) (hg : Appends g) :
    Appends fun b => f b >>= g := fun b => by
  cases hs : f "" with
  | error e => simp only [hf.error hs, hs]; rfl
  | ok s =>
    show f b >>= g = (b ++ ·) <$> (f "" >>= g)
    rw [hs, hf.ok hs]
    show g (b ++ s) = (b ++ ·) <$> g s
    cases ht : g "" with
    | error e => rw [hg.error ht, hg.error ht]; rfl
    | ok t => rw [hg.ok ht, hg.ok ht]; simp [String.append_assoc]

theorem Appends.append_const {f : String → Except Fault String} (hf : Appends f) (t : String) :
    Appends fun b => f (b ++ t) := fun b => by
  cases hs : f "" with
  | error e => simp only [hf.error hs]; rfl
  | ok s => simp only [hf.ok hs, String.empty_append]; simp [String.append_assoc]

theorem Appends.map_append {f : String → Except Fault String} (hf : Appends f) (t : String) :
    Appends fun b => (· ++ t) <$> f b := fun b => by
  cases hs : f "" with
  | error e => simp only [hf.error hs, hs]; rfl
  | ok s => simp only [hf.ok hs, hs, map_ok, String.append_assoc, String.empty_append]

theorem appends_foldlM {f : α → String → Except Fault String} (hf : ∀ x, Appends (f x))
    (xs : List α) : Appends fun b => xs.foldlM (fun b x => f x b) b := by
  induction xs with
  | nil => exact fun b => by simp
  | cons x xs ih =>
    simp only [List.foldlM_cons]
    exact (hf x).bind ih

theorem appends_appendList {f : α → String → Except Fault String} (hf : ∀ x, Appends (f x))
    (sep : String) (xs : List α) : Appends fun b => appendList sep f b xs := by
  cases xs with
  | nil => exact fun b => by simp [appendList]
  | cons x xs => exact (hf x).bind (appends_foldlM (fun x => (hf x).append_const sep) xs)

/-! ### Statements as chains of appenders -/

/-- Appenders run one after another on a buffer: the first that fails fails the whole. -/
def runChain : List (String → Except Fault String) → String → Except Fault String
  | [], b => .ok b
  | f :: fs, b => f b >>= fun b => runChain fs b

/-- A result that fails only with an error the Go code returns, never with a panic. -/
def NoPanic (r : Except Fault α) : Prop := ∀ f, r = .error f → ∃ e, f = .error e

theorem appends_runChain {fs : List (String → Except Fault String)} (h : ∀ f ∈ fs, Appends f) :
    Appends (runChain fs) := by
  induction fs with
  | nil => exact fun b => by simp [runChain]
  | cons f fs ih =>
    exact (h f (List.mem_cons_self f fs)).bind (ih fun g hg => h g (List.mem_cons_of_mem f hg))

theorem runChain_append (fs gs : List (String → Except Fault String)) (b : String) :
    runChain (fs ++ gs) b = runChain fs b >>= runChain gs := by
  induction fs generalizing b with
  | nil => rfl
  | cons f fs ih =>
    show (f b >>= fun b => runChain (fs ++ gs) b) = (f b >>= fun b => runChain fs b) >>= runChain gs
    cases f b with
    | error e => rfl
    | ok a => exact ih a

theorem noPanic_ok (a : α) : NoPanic (Except.ok a : Except Fault α) := fun _ h => by cases h

theorem noPanic_appendResult (r : Except String String) (b : String) :
    NoPanic (appendResult r b) := by
  intro f h
  cases r with
  | ok s => cases h
  | error e => cases h; exact ⟨e, rfl⟩

theorem NoPanic.bind {r : Except Fault α} {k : α → Except Fault β} (hr : NoPanic r)
    (hk : ∀ a, NoPanic (k a)) : NoPanic (r >>= k) := by
  intro f h
  cases r with
  | error e => exact hr f (by simpa using h)
  | ok a => exact hk a f h

theorem noPanic_ite_ok {r : Except Fault String} (hr : NoPanic r) (c : Prop) [Decidable c]
    (b : String) : NoPanic (if c then r else .ok b) := by
  split
  · exact hr
  · exact noPanic_ok b

theorem NoPanic.map {r : Except Fault α} (hr : NoPanic r) (g : α → β) : NoPanic (g <$> r) :=
  hr.bind fun a => noPanic_ok (g a)

theorem noPanic_foldlM {f : α → String → Except Fault String} (hf : ∀ x b, NoPanic (f x b))
    (xs : List α) (b : String) : NoPanic (xs.foldlM (fun b x => f x b) b) := by
  induction xs generalizing b with
  | nil => exact noPanic_ok b
  | cons x xs ih => exact (hf x b).bind ih

theorem noPanic_appendList {f : α → String → Except Fault String} (hf : ∀ x b, NoPanic (f x b))
    (sep : String) (b : String) (xs : List α) : NoPanic (appendList sep f b xs) := by
  cases xs with
  | nil => exact noPanic_ok b
  | cons x xs => exact (hf x b).bind (noPanic_foldlM (fun x b => hf x (b ++ sep)) xs)

theorem noPanic_runChain {fs : List (String → Except Fault String)}
    (h : ∀ f ∈ fs, ∀ b, NoPanic (f b)) (b : String) : NoPanic (runChain fs b) := by
  induction fs generalizing b with
  | nil => exact noPanic_ok b
  | cons f fs ih =>
    exact (h f (List.mem_cons_self f fs) b).bind
      (ih fun g hg => h g (List.mem_cons_of_mem f hg))

theorem foldl_append_sep (sep : String) (g : α → String) (b t : String) (xs : List α) :
    xs.foldl (fun b x => b ++ sep ++ g x) (b ++ t) =
      b ++ xs.foldl (fun b x => b ++ sep ++ g x) t := by
  induction xs generalizing t with
  | nil => rfl
  | cons x xs ih =>
    rw [List.foldl_cons, List.foldl_cons, ← ih]
    simp only [String.append_assoc]

theorem intercalate_go_eq (acc sep : String) (l : List String) :
    String.intercalate.go acc sep l = l.foldl (fun r a => r ++ sep ++ a) acc := by
  induction l generalizing acc with
  | nil => rfl
  | cons a l ih => exact ih _

@[simp] theorem intercalate_singleton (sep a : String) : sep.intercalate [a] = a := rfl

theorem intercalate_cons_cons (sep a b : String) (l : List String) :
    sep.intercalate (a :: b :: l) = a ++ sep ++ sep.intercalate (b :: l) := by
  simp only [String.intercalate, intercalate_go_eq, List.foldl_cons]
  exact foldl_append_sep sep id (a ++ sep) b l

/-- A loop that appends a piece per element writes the pieces joined by the separator. -/
theorem appendEach_eq_intercalate (sep : String) (g : α → String) (b : String) (xs : List α) :
    appendEach sep (fun x b => b ++ g x) b xs = b ++ sep.intercalate (xs.map g) := by
  cases xs with
  | nil => simp [appendEach, String.intercalate]
  | cons x xs =>
    simp only [appendEach, List.map_cons, String.intercalate, intercalate_go_eq, List.foldl_map]
    exact foldl_append_sep sep g b (g x) xs

end Bun
