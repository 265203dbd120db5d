import Bun.Proof.WhereTree

/-! The parentheses of the text that `_appendWhere` writes for the predicates of `Where`,
`WhereOr` and `WhereGroup` calls.  Every predicate is written in parentheses and every non-empty
group between `sep + "("` and `")"`, but the opening parenthesis of a group is kept in the
separator of its first marker, which is not written when the group adds the first entry of its
level: at the top, because `_appendWhere` writes no separator for the first entry, and inside a
group, because `addWhereGroup` clears the first separator.  So, when the predicates and the group
separators are balanced, the text lacks exactly one opening parenthesis for each such group, and
it is balanced exactly when there is none. -/

namespace Bun

/-- Opening minus closing parentheses in a text. -/
def parenBalance (s : String) : Int := (s.data.count '(' : Int) - s.data.count ')'

@[simp] theorem parenBalance_append (s t : String) :
    parenBalance (s ++ t) = parenBalance s + parenBalance t := by
  simp only [parenBalance, String.data_append, List.count_append]
  omega

@[simp] theorem parenBalance_open : parenBalance "(" = 1 := rfl

@[simp] theorem parenBalance_close : parenBalance ")" = -1 := rfl

namespace WhereCalls

/-- The formatter writes every predicate of the calls with balanced parentheses, and every group
separator is balanced. -/
def BalancedUnder (fmter : Formatter) : WhereCalls → Prop
  | .done => True
  | .where query args next | .whereOr query args next =>
    (∀ t, fmter.appendQuery (safeQuery query args) = .ok t → parenBalance t = 0) ∧
      next.BalancedUnder fmter
  | .whereGroup sep fn next =>
    parenBalance sep = 0 ∧ fn.BalancedUnder fmter ∧ next.BalancedUnder fmter

/-- The non-empty groups that add the first entry of their level, at the top or first inside the
group around them; `first` says that no entry of this level was added before. -/
def leadingGroups : Bool → WhereCalls → Nat
  | _, .done => 0
  | _, .where _ _ next | _, .whereOr _ _ next => next.leadingGroups false
  | first, .whereGroup _ fn next =>
    if fn.flatten.isEmpty then next.leadingGroups first
    else (if first then 1 else 0) + fn.leadingGroups true + next.leadingGroups false

end WhereCalls

namespace WhereBaseQuery

/-- A predicate that the formatter writes balanced is written balanced, in its parentheses, and a
marker writes nothing. -/
theorem parenBalance_appendWhereItem {fmter : Formatter} {query : String}
    {args : Option (List Value)}
    (hp : ∀ t, fmter.appendQuery (safeQuery query args) = .ok t → parenBalance t = 0)
    {sep b s : String} (h : appendWhereItem fmter (safeQueryWithSep query args sep) b = .ok s) :
    parenBalance s = parenBalance b := by
  unfold appendWhereItem at h
  split at h
  · cases h; rfl
  · change (· ++ ")") <$> appendResult (fmter.appendQuery (safeQuery query args)) (b ++ "(") =
      .ok s at h
    cases ht : fmter.appendQuery (safeQuery query args) with
    | error e => rw [ht] at h; cases h
    | ok t =>
      rw [ht] at h
      cases h
      simp only [parenBalance_append, parenBalance_open, parenBalance_close, hp t ht]
      omega

end WhereBaseQuery

namespace WhereCalls

open WhereBaseQuery

/-- The balance of what the loop writes for the entries of the calls: one opening parenthesis
short for each leading group, counting this level's first entry as leading only for
`_appendWhere`. -/
theorem parenBalance_flatten (fmter : Formatter) (c : WhereCalls) (hc : c.BalancedUnder fmter) :
    ∀ b s, (appendSepItems fmter b c.flatten = .ok s →
        parenBalance s = parenBalance b - c.leadingGroups false) ∧
      (_appendWhere fmter b c.flatten = .ok s →
        parenBalance s = parenBalance b - c.leadingGroups true) := by
  induction c with
  | done =>
    intro b s
    refine ⟨fun h => ?_, fun h => ?_⟩ <;> cases h <;> simp [leadingGroups]
  | «where» query args next ih | whereOr query args next ih =>
    obtain ⟨hp, hn⟩ := hc
    intro b s
    refine ⟨fun h => ?_, fun h => ?_⟩
    · rw [flatten, appendSepItems_cons] at h
      obtain ⟨b₁, h₁, h⟩ := bind_eq_ok.mp h
      have h₁ := parenBalance_appendWhereItem hp h₁
      have h := (ih hn b₁ s).1 h
      simp only [safeQueryWithSep_sep, parenBalance_append] at h₁
      rw [leadingGroups, h, h₁]
      simp [parenBalance]
    · rw [flatten, _appendWhere_cons] at h
      obtain ⟨b₁, h₁, h⟩ := bind_eq_ok.mp h
      rw [leadingGroups, (ih hn b₁ s).1 h, parenBalance_appendWhereItem hp h₁]
  | whereGroup sep fn next ihfn ih =>
    obtain ⟨hsep, hfn, hn⟩ := hc
    intro b s
    cases hf : fn.flatten with
    | nil =>
      simp only [flatten, hf, leadingGroups, List.isEmpty_nil, if_true]
      exact ih hn b s
    | cons w ws =>
      have hrest : ∀ b s, appendSepItems fmter b
          (({ w with sep := "" } :: ws) ++ safeQueryWithSep "" none ")" :: next.flatten) = .ok s →
          parenBalance s = parenBalance b - 1 - fn.leadingGroups true - next.leadingGroups false := by
        intro b s h
        rw [appendSepItems_append, appendSepItems_clear] at h
        obtain ⟨b₁, h₁, h⟩ := bind_eq_ok.mp h
        rw [appendSepItems_cons, appendWhereItem_marker, ok_bind, safeQueryWithSep_sep] at h
        have h₁ := (ihfn hfn b b₁).2 (hf ▸ h₁)
        have h := (ih hn _ s).1 h
        simp only [parenBalance_append, parenBalance_close] at h
        omega
      simp only [flatten, hf, leadingGroups, List.isEmpty_cons, Bool.false_eq_true, if_false,
        if_true]
      refine ⟨fun h => ?_, fun h => ?_⟩
      · rw [List.cons_append, appendSepItems_cons, appendWhereItem_marker, ok_bind,
          safeQueryWithSep_sep] at h
        have h := hrest _ s h
        simp only [parenBalance_append, parenBalance_open, hsep] at h
        omega
      · rw [List.cons_append, _appendWhere_cons, appendWhereItem_marker, ok_bind] at h
        have h := hrest _ s h
        omega

end WhereCalls

namespace WhereBaseQuery

/-- Under a formatter that writes balanced predicates, the text of `_appendWhere` lacks one opening
parenthesis for each non-empty group that adds the first entry of its level, and no other. -/
theorem where_parens_short_by_leading_groups {c : WhereCalls} {fmter : Formatter}
    (hc : c.BalancedUnder fmter) {b s : String} (h : _appendWhere fmter b (c.run {}).where = .ok s) :
    parenBalance s = parenBalance b - c.leadingGroups true := by
  rw [WhereCalls.run_where] at h
  exact (WhereCalls.parenBalance_flatten fmter c hc b s).2 h

/-- The group of `Where("a")` and `WhereOr("b")` as the only call: `(a) OR (b))`, one opening
parenthesis short. -/
theorem leading_group_one_paren_short :
    (WhereCalls.whereGroup " AND " (.where "a" none (.whereOr "b" none .done)) .done).BalancedUnder
        plainFormatter ∧
      _appendWhere plainFormatter "" ((WhereCalls.whereGroup " AND "
        (.where "a" none (.whereOr "b" none .done)) .done).run {}).where = .ok "(a) OR (b))" ∧
      parenBalance "(a) OR (b))" = parenBalance "" -
        (WhereCalls.whereGroup " AND " (.where "a" none (.whereOr "b" none .done)) .done).leadingGroups
          true := by
  have hc : (WhereCalls.whereGroup " AND " (.where "a" none (.whereOr "b" none .done))
      .done).BalancedUnder plainFormatter :=
    ⟨rfl, ⟨fun t ht => by cases ht; rfl, fun t ht => by cases ht; rfl, trivial⟩, trivial⟩
  exact ⟨hc, rfl, where_parens_short_by_leading_groups hc rfl⟩

end WhereBaseQuery

end Bun
