import Bun.Proof.WhereClause

/-! The predicates that `Where`, `WhereOr` and `WhereGroup` add, as the tree their calls form,
and the rendering that the specification gives for that tree: a predicate in parentheses, a
non-empty group as its elements in parentheses, the elements of one level each after its own
separator but the first.  `addWhereGroup` keeps the opening parenthesis of a group in the
separator of its first marker, and `_appendWhere` writes no separator for the first entry of the
list, so a group that comes first, at the top or first inside another group, loses it. -/

namespace Bun

namespace WhereCalls

/-- The entries that the calls add: a predicate with its separator, and a non-empty group as its
entries, the first with its separator cleared, between the markers `sep + "("` and `")"`. -/
def flatten : WhereCalls → List QueryWithSep
  | .done => []
  | .where query args next => safeQueryWithSep query args " AND " :: next.flatten
  | .whereOr query args next => safeQueryWithSep query args " OR " :: next.flatten
  | .whereGroup sep fn next =>
    match fn.flatten with
    | [] => next.flatten
    | w :: ws =>
      safeQueryWithSep "" none (sep ++ "(") :: ({ w with sep := "" } :: ws) ++
        safeQueryWithSep "" none ")" :: next.flatten

/-- The calls append their entries to the query's. -/
theorem run_where (c : WhereCalls) (q : WhereQuery) : (c.run q).where = q.where ++ c.flatten := by
  induction c generalizing q with
  | done => simp [run, flatten]
  | «where» query args next ih | whereOr query args next ih =>
    simp [run, flatten, ih, WhereQuery.addWhere]
  | whereGroup sep fn next ihfn ih =>
    rw [run, ih, flatten]
    have hfn : (fn.run {}).where = fn.flatten := by simpa using ihfn {}
    unfold WhereQuery.addWhereGroup
    rw [hfn]
    cases fn.flatten <;> simp [WhereQuery.addWhere]

end WhereCalls

/-- A piece of the reference rendering: text, or a predicate written in parentheses. -/
inductive Piece where
  | text (s : String)
  | pred (q : QueryWithArgs)

/-- Write a piece after `b`. -/
def Piece.render (fmter : Formatter) : Piece → String → Except Fault String
  | .text s, b => .ok (b ++ s)
  | .pred q, b => (· ++ ")") <$> q.appendQuery fmter (b ++ "(")

/-- Write pieces one after another, up to the first that fails. -/
def renderPieces (fmter : Formatter) (b : String) (ps : List Piece) : Except Fault String :=
  ps.foldlM (fun b p => p.render fmter b) b

/-- The elements of one level, each after its separator. -/
def sepJoin (es : List (String × List Piece)) : List Piece :=
  es.flatMap fun e => .text e.1 :: e.2

/-- The elements of one level joined: the first without its separator. -/
def joinElements : List (String × List Piece) → List Piece
  | [] => []
  | (_, ps) :: es => ps ++ sepJoin es

namespace WhereCalls

/-- The elements of one level with their separators, as the specification renders them: a
predicate in parentheses, a non-empty group as its own elements joined in parentheses, and an
empty group not at all. -/
def elements : WhereCalls → List (String × List Piece)
  | .done => []
  | .where query args next => (" AND ", [.pred (safeQuery query args)]) :: next.elements
  | .whereOr query args next => (" OR ", [.pred (safeQuery query args)]) :: next.elements
  | .whereGroup sep fn next =>
    match fn.elements with
    | [] => next.elements
    | es => (sep, .text "(" :: joinElements es ++ [.text ")"]) :: next.elements

/-- The reference rendering of the calls. -/
def reference (c : WhereCalls) : List Piece := joinElements c.elements

/-- Every predicate has text, and inside every group the first element that adds an entry is a
predicate; with `first`, so is the first such element of this level. -/
def wellLed : Bool → WhereCalls → Bool
  | _, .done => true
  | _, .where query _ next => query != "" && next.wellLed false
  | _, .whereOr query _ next => query != "" && next.wellLed false
  | first, .whereGroup _ fn next =>
    fn.wellLed true &&
      if fn.flatten.isEmpty then next.wellLed first else !first && next.wellLed false

theorem flatten_eq_nil_iff (c : WhereCalls) : c.flatten = [] ↔ c.elements = [] := by
  induction c with
  | done | «where» | whereOr => simp [flatten, elements]
  | whereGroup sep fn next ihfn ih =>
    unfold flatten elements
    cases hf : fn.flatten with
    | nil => rw [ihfn.mp hf]; exact ih
    | cons w ws =>
      have he : fn.elements ≠ [] := fun he => by simp [ihfn.mpr he] at hf
      split
      · contradiction
      · simp

end WhereCalls

namespace WhereBaseQuery

/-- `_appendWhere`'s loop after its first entry: every entry after its separator. -/
def appendSepItems (fmter : Formatter) (b : String) (ws : List QueryWithSep) :
    Except Fault String :=
  ws.foldlM (fun b w => appendWhereItem fmter w (b ++ w.sep)) b

theorem _appendWhere_cons (fmter : Formatter) (b : String) (w : QueryWithSep)
    (ws : List QueryWithSep) :
    _appendWhere fmter b (w :: ws) = appendWhereItem fmter w b >>= (appendSepItems fmter · ws) :=
  rfl

theorem appendSepItems_append (fmter : Formatter) (b : String) (ws vs : List QueryWithSep) :
    appendSepItems fmter b (ws ++ vs) =
      appendSepItems fmter b ws >>= (appendSepItems fmter · vs) :=
  List.foldlM_append _ _ _ _

/-- The first entry of a group, its separator cleared, is written as `_appendWhere` writes a
first entry. -/
theorem appendSepItems_clear (fmter : Formatter) (b : String) (w : QueryWithSep)
    (ws : List QueryWithSep) :
    appendSepItems fmter b ({ w with sep := "" } :: ws) = _appendWhere fmter b (w :: ws) := by
  show appendWhereItem fmter w (b ++ "") >>= _ = _
  rw [String.append_empty]
  rfl

theorem appendSepItems_cons (fmter : Formatter) (b : String) (w : QueryWithSep)
    (ws : List QueryWithSep) :
    appendSepItems fmter b (w :: ws) =
      appendWhereItem fmter w (b ++ w.sep) >>= (appendSepItems fmter · ws) :=
  rfl

/-- A marker writes nothing. -/
@[simp] theorem appendWhereItem_marker (fmter : Formatter) (s b : String) :
    appendWhereItem fmter (safeQueryWithSep "" none s) b = .ok b := rfl

/-- A predicate with text is written in parentheses. -/
theorem appendWhereItem_pred (fmter : Formatter) {query : String} (hq : query ≠ "")
    (args : Option (List Value)) (sep b : String) :
    appendWhereItem fmter (safeQueryWithSep query args sep) b =
      (Piece.pred (safeQuery query args)).render fmter b := by
  simp [appendWhereItem, safeQueryWithSep, safeQuery, Piece.render, hq]

end WhereBaseQuery

@[simp] theorem renderPieces_nil (fmter : Formatter) (b : String) : renderPieces fmter b [] = .ok b :=
  rfl

theorem renderPieces_cons (fmter : Formatter) (b : String) (p : Piece) (ps : List Piece) :
    renderPieces fmter b (p :: ps) = p.render fmter b >>= (renderPieces fmter · ps) :=
  rfl

theorem renderPieces_append (fmter : Formatter) (b : String) (ps qs : List Piece) :
    renderPieces fmter b (ps ++ qs) = renderPieces fmter b ps >>= (renderPieces fmter · qs) :=
  List.foldlM_append _ _ _ _

theorem sepJoin_cons (sep : String) (ps : List Piece) (es : List (String × List Piece)) :
    sepJoin ((sep, ps) :: es) = .text sep :: ps ++ sepJoin es := rfl

namespace WhereCalls

open WhereBaseQuery

/-- The loop over the entries of well-led calls writes their elements each after its separator,
and `_appendWhere` over them, with the first element a predicate, writes the reference
rendering. -/
theorem render_flatten (fmter : Formatter) (c : WhereCalls) :
    ∀ b, (c.wellLed false → appendSepItems fmter b c.flatten =
        renderPieces fmter b (sepJoin c.elements)) ∧
      (c.wellLed true → _appendWhere fmter b c.flatten = renderPieces fmter b c.reference) := by
  induction c with
  | done => exact fun b => ⟨fun _ => rfl, fun _ => rfl⟩
  | «where» query args next ih | whereOr query args next ih =>
    intro b
    simp only [wellLed, Bool.and_eq_true, bne_iff_ne, ne_eq] at ih ⊢
    refine ⟨fun ⟨hq, hn⟩ => ?_, fun ⟨hq, hn⟩ => ?_⟩
    · rw [flatten, appendSepItems_cons, appendWhereItem_pred fmter hq, elements, sepJoin_cons,
        List.cons_append, renderPieces_cons, Piece.render, ok_bind, List.singleton_append,
        renderPieces_cons]
      congr 1; funext b; exact (ih b).1 hn
    · rw [flatten, _appendWhere_cons, appendWhereItem_pred fmter hq, reference, elements,
        joinElements, List.singleton_append, renderPieces_cons]
      congr 1; funext b; exact (ih b).1 hn
  | whereGroup sep fn next ihfn ih =>
    intro b
    cases hf : fn.flatten with
    | nil =>
      have hw : ∀ first, (whereGroup sep fn next).wellLed first → next.wellLed first := by
        intro first h; simp [wellLed, hf] at h; exact h.2
      rw [reference, flatten, elements, hf, (flatten_eq_nil_iff fn).mp hf]
      exact ⟨fun h => (ih b).1 (hw _ h), fun h => (ih b).2 (hw _ h)⟩
    | cons w ws =>
      obtain ⟨e, es, hes⟩ := List.exists_cons_of_ne_nil (show fn.elements ≠ [] from fun he => by
        simp [(flatten_eq_nil_iff fn).mpr he] at hf)
      simp only [wellLed, hf, List.isEmpty_cons, Bool.false_eq_true, if_false, Bool.not_true,
        Bool.false_and, Bool.and_false, false_implies, and_true, Bool.not_false, Bool.true_and,
        Bool.and_eq_true]
      rintro ⟨hfn, hn⟩
      have hin : ∀ x, _appendWhere fmter x (w :: ws) = renderPieces fmter x fn.reference :=
        fun x => hf ▸ (ihfn x).2 hfn
      have ihA : ∀ x, appendSepItems fmter x next.flatten =
          renderPieces fmter x (sepJoin next.elements) := fun x => (ih x).1 hn
      rw [flatten, elements, hf, hes]
      dsimp only
      rw [sepJoin_cons, List.cons_append, appendSepItems_cons, appendWhereItem_marker,
        ok_bind, appendSepItems_append, appendSepItems_clear, hin, ← hes]
      simp only [appendSepItems_cons, appendWhereItem_marker, ok_bind, ihA, reference,
        renderPieces_cons, renderPieces_append, Piece.render, List.cons_append,
        List.singleton_append, String.append_assoc, renderPieces_nil, bind_assoc,
        safeQueryWithSep_sep]

/-- When every predicate has text and the first element of the list and of every group is a
predicate, `_appendWhere` over the predicates that the calls add to a new query writes their
reference rendering. -/
theorem wellLed_renders_reference {c : WhereCalls} (h : c.wellLed true) (fmter : Formatter)
    (b : String) : _appendWhere fmter b (c.run {}).where = renderPieces fmter b c.reference := by
  rw [run_where]
  exact (render_flatten fmter c b).2 h

/-- `Where("a")`, then a group of `Where("b")` and `WhereOr("c")` after `" OR "`. -/
theorem wellLed_renders_group_after_predicate :
    (WhereCalls.where "a" none
        (.whereGroup " OR " (.where "b" none (.whereOr "c" none .done)) .done)).wellLed true ∧
      _appendWhere plainFormatter "" ((WhereCalls.where "a" none
        (.whereGroup " OR " (.where "b" none (.whereOr "c" none .done)) .done)).run {}).where =
        .ok "(a) OR ((b) OR (c))" :=
  ⟨rfl, (wellLed_renders_reference (by rfl) plainFormatter "").trans rfl⟩

/-- A group that comes first loses its opening parenthesis: alone it is written `(a) OR (b))`,
and first inside a group `(x) AND ((a) AND (b)) AND (c))`. -/
theorem first_group_loses_open_paren :
    _appendWhere plainFormatter "" ((WhereCalls.whereGroup " AND "
        (.where "a" none (.whereOr "b" none .done)) .done).run {}).where = .ok "(a) OR (b))" ∧
      renderPieces plainFormatter "" (WhereCalls.whereGroup " AND "
        (.where "a" none (.whereOr "b" none .done)) .done).reference = .ok "((a) OR (b))" ∧
      _appendWhere plainFormatter "" ((WhereCalls.where "x" none (.whereGroup " AND "
        (.whereGroup " AND " (.where "a" none (.where "b" none .done)) (.where "c" none .done))
        .done)).run {}).where = .ok "(x) AND ((a) AND (b)) AND (c))" ∧
      renderPieces plainFormatter "" (WhereCalls.where "x" none (.whereGroup " AND "
        (.whereGroup " AND " (.where "a" none (.where "b" none .done)) (.where "c" none .done))
        .done)).reference = .ok "(x) AND (((a) AND (b)) AND (c))" :=
  ⟨rfl, rfl, rfl, rfl⟩

end WhereCalls

end Bun
