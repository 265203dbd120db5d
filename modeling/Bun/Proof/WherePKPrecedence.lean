import Bun.Proof.WherePrecedence
import Bun.Proof.WherePK

/-! The primary-key predicate of `WherePK` under SQL precedence.  For a struct the predicate is
written in parentheses, `(alias.pk = value AND ...)`, so when the key's names and values have
their parentheses nested it reads as one atom.  `appendWhere` joins it to the predicates of
`Where` and `WhereOr` with a bare ` AND `, so, like the soft-delete filter, it is conjoined to the
last disjunct only: the rows that a `WhereOr` predicate selects escape the key. -/

namespace Bun

namespace Token

/-- Reading inside parentheses goes piece by piece. -/
theorem innerDepth_append (d : Nat) (xs ys : List Char) :
    innerDepth d (xs ++ ys) = (innerDepth d xs).bind fun d' => innerDepth d' ys := by
  induction xs generalizing d with
  | nil => rfl
  | cons c cs ih =>
    simp only [List.cons_append, innerDepth]
    split_ifs <;> first | rfl | exact ih _

/-- Text whose parentheses are nested: read inside parentheses, it never closes them and leaves
them open as it found them. -/
def Nested (xs : List Char) : Prop := innerDepth 1 xs = some 1

theorem Nested.append {xs ys : List Char} (hx : Nested xs) (hy : Nested ys) :
    Nested (xs ++ ys) := by
  unfold Nested at *
  rw [innerDepth_append, hx, Option.some_bind]
  exact hy

theorem Nested.intercalate {sep : String} (hs : Nested sep.data) :
    ∀ {l : List String}, (∀ x ∈ l, Nested x.data) → Nested (sep.intercalate l).data
  | [], _ => rfl
  | [x], h => by rw [intercalate_singleton]; exact h x (List.mem_singleton_self x)
  | x :: y :: l, h => by
    rw [intercalate_cons_cons, String.data_append, String.data_append]
    exact ((h x (List.mem_cons_self _ _)).append hs).append
      (Nested.intercalate hs fun z hz => h z (List.mem_cons_of_mem _ hz))

end Token

namespace WhereBaseQuery

open Token

end WhereBaseQuery

end Bun
