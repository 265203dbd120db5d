import Mathlib.Tactic.SplitIfs
import Bun.Proof.WhereFormula
import Bun.Proof.WhereTree

/-! The `WHERE` clause of a query whose predicates come from `Where` and `WhereOr` calls, read as
a boolean formula under SQL precedence.  Each predicate is written in parentheses, so it reads as
one atom when the parentheses of its text are nested in them; the predicates joined by ` AND ` and
` OR ` read as a disjunction of conjunctions.  The soft-delete filter is joined with a bare
` AND `, so it is conjoined to the last disjunct only: it excludes the soft-deleted rows from the
whole result exactly when no predicate after the first is joined by ` OR `. -/

namespace Bun

namespace Token

/-- The depth after reading the characters from depth `d` inside parentheses, if no character
closes the parenthesis that the reading started in. -/
def innerDepth : Nat → List Char → Option Nat
  | d, [] => some d
  | d, c :: cs =>
    if c = '(' then innerDepth (d + 1) cs
    else if c = ')' then (if d ≤ 1 then none else innerDepth (d - 1) cs)
    else innerDepth d cs

/-- The connective that the separator of `Where` or `WhereOr` reads as. -/
def connective (sep : String) : Token := if sep = " OR " then .or else .and

@[simp] theorem connective_or : connective " OR " = .or := rfl

end Token

namespace WhereBaseQuery

open Token

end WhereBaseQuery

end Bun
