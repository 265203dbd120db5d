import Bun.Proof.WhereClause

/-! The text of a `WHERE` clause read as a boolean formula under SQL precedence: `AND` binds
tighter than `OR`, a parenthesised fragment is one atom, and so is a bare predicate such as the
soft-delete filter.  `appendWhere` joins the soft-delete filter and the primary-key predicate to
the predicates with a bare ` AND `, so under this reading they restrict only the last `OR` branch
of the predicates. -/

namespace Bun

/-- A boolean formula over the atoms of a clause, each atom named by its text. -/
inductive Formula where
  | atom (text : String)
  | and (p q : Formula)
  | or (p q : Formula)
  deriving DecidableEq, Repr

/-- The value of a formula when each atom has the value that `v` gives its text. -/
def Formula.eval (v : String → Bool) : Formula → Bool
  | .atom text => v text
  | .and p q => p.eval v && q.eval v
  | .or p q => p.eval v || q.eval v

/-- A token of a clause: an atom, or a connective outside parentheses. -/
inductive Token where
  | atom (text : String)
  | and
  | or
  deriving DecidableEq, Repr

namespace Token

/-- The atom of the characters read since the last connective, kept reversed; none if there
are none. -/
def flush (cur : List Char) : List Token :=
  if cur = [] then [] else [.atom (String.mk cur.reverse)]

/-- The tokens of a text, with `fuel` steps: `depth` counts the open parentheses, and ` AND `
and ` OR ` are connectives only outside them.  Each step reads at least one character. -/
def lex : Nat → Nat → List Char → List Char → List Token
  | 0, _, cur, _ => flush cur
  | _ + 1, _, cur, [] => flush cur
  | fuel + 1, depth, cur, c :: cs =>
    if depth = 0 ∧ " AND ".data.isPrefixOf (c :: cs) then
      flush cur ++ .and :: lex fuel 0 [] (cs.drop 4)
    else if depth = 0 ∧ " OR ".data.isPrefixOf (c :: cs) then
      flush cur ++ .or :: lex fuel 0 [] (cs.drop 3)
    else if c = '(' then lex fuel (depth + 1) (c :: cur) cs
    else if c = ')' then lex fuel (depth - 1) (c :: cur) cs
    else lex fuel depth (c :: cur) cs

end Token

/-- The disjunction read so far closed by the conjunction being read. -/
def closeDisjunct : Option Formula → Formula → Formula
  | none, conj => conj
  | some disj, conj => .or disj conj

/-- SQL precedence over the tokens after a first atom: `atom (AND atom)* (OR atom (AND atom)*)*`,
with the disjuncts read so far and the conjunction being read. -/
def parseFrom (disj : Option Formula) (conj : Formula) : List Token → Option Formula
  | [] => some (closeDisjunct disj conj)
  | .and :: .atom a :: rest => parseFrom disj (.and conj (.atom a)) rest
  | .or :: .atom a :: rest => parseFrom (some (closeDisjunct disj conj)) (.atom a) rest
  | _ => none

/-- The formula a clause's text reads as, if it is one. -/
def readClause (s : String) : Option Formula :=
  match Token.lex (s.length + 1) 0 [] s.data with
  | .atom a :: rest => parseFrom none (.atom a) rest
  | _ => none

namespace WhereBaseQuery

/-- `Where("a")` then `WhereOr("b")` on `users` give `(a) OR (b) AND user.deleted_at IS NULL`,
which reads as `(a) OR ((b) AND user.deleted_at IS NULL)`: a deleted row that satisfies `a`
passes. -/
theorem soft_delete_filter_binds_last_or_branch :
    ∃ q : WhereBaseQuery, ({} : WhereBaseQuery).run [.setTableModel (.ok (.table usersModel)),
        .where "a" none, .whereOr "b" none] = .ok q ∧
      q.appendWhere plainFormatter "" = .ok " WHERE (a) OR (b) AND user.deleted_at IS NULL" ∧
      _appendWhere plainFormatter "" q.where = .ok "(a) OR (b)" ∧
      readClause "(a) OR (b) AND user.deleted_at IS NULL" =
        some (.or (.atom "(a)") (.and (.atom "(b)") (.atom "user.deleted_at IS NULL"))) ∧
      readClause "(a) OR (b)" = some (.or (.atom "(a)") (.atom "(b)")) ∧
      (Formula.or (.atom "(a)") (.and (.atom "(b)") (.atom "user.deleted_at IS NULL"))).eval
          (· == "(a)") = true ∧
      (Formula.and (.or (.atom "(a)") (.atom "(b)")) (.atom "user.deleted_at IS NULL")).eval
          (· == "(a)") = false :=
  ⟨_, rfl, rfl, rfl, by decide, by decide, rfl, rfl⟩

end WhereBaseQuery

end Bun
