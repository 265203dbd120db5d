import Bun.Schema.Scan

/-! What the integer scanners store.  A destination of an integer kind receives the low bits of
a 64-bit value, so it holds the source's value modulo `2 ^ width`, read with the kind's sign:
the value itself exactly when the kind's range holds it.  Only decimal text that `ParseInt`
(`ParseUint`) rejects, because it is not decimal or does not fit 64 bits, and values of other
types are errors. -/

namespace Bun

/-- A decimal digit. -/
def isDecimal (c : Char) : Bool := '0' ≤ c ∧ c ≤ '9'

/-- The value of decimal digits, after the value `n` of the digits before them. -/
def digitsValue (n : Nat) (cs : List Char) : Nat :=
  cs.foldl (fun n c => n * 10 + (c.toNat - '0'.toNat)) n

/-- The value of one or more decimal digits. -/
def digits? (cs : List Char) : Option Nat :=
  if cs ≠ [] ∧ cs.all isDecimal then some (digitsValue 0 cs) else none

/-- The value of decimal text: one or more digits, after a sign `+` or `-` when `signed`. -/
def decimalValue (signed : Bool) : List Char → Option Int
  | '+' :: cs => if signed then (digits? cs).map fun (n : Nat) => (n : Int) else none
  | '-' :: cs => if signed then (digits? cs).map fun (n : Nat) => -(n : Int) else none
  | cs => (digits? cs).map fun (n : Nat) => (n : Int)

theorem digitsValue_cons (n : Nat) (c : Char) (cs : List Char) :
    digitsValue n (c :: cs) = digitsValue (n * 10 + (c.toNat - '0'.toNat)) cs := rfl

theorem le_digitsValue (n : Nat) (cs : List Char) : n ≤ digitsValue n cs := by
  induction cs generalizing n with
  | nil => exact Nat.le_refl n
  | cons c cs ih =>
    exact Nat.le_trans (by omega : n ≤ n * 10 + (c.toNat - '0'.toNat)) (ih _)

/-- The digit loop succeeds exactly on decimal digits whose value fits 64 bits, and returns
that value. -/
theorem parseUintLoop_ok_iff {n m : Nat} {cs : List Char} (hn : n ≤ maxUint64) :
    parseUintLoop n cs = .ok m ↔
      cs.all isDecimal ∧ digitsValue n cs ≤ maxUint64 ∧ m = digitsValue n cs := by
  induction cs generalizing n with
  | nil => simp [parseUintLoop, digitsValue, hn, eq_comm]
  | cons c cs ih =>
    have hge := le_digitsValue (n * 10 + (c.toNat - '0'.toNat)) cs
    rw [parseUintLoop, digitsValue_cons]
    by_cases hc : '0' ≤ c ∧ c ≤ '9'
    · have hd : isDecimal c = true := by simp [isDecimal, hc]
      rw [if_pos hc]
      split
      · simp only [reduceCtorEq, false_iff, not_and]
        intro _ h; unfold maxUint64 at *; omega
      · split
        · simp only [reduceCtorEq, false_iff, not_and]
          intro _ h; omega
        · rw [ih (by omega)]
          simp [hd]
    · have hd : isDecimal c = false := by simp [isDecimal, hc]
      rw [if_neg hc]
      simp [hd]

/-- The values of a 64-bit integer: of `int64` when `signed`, of `uint64` otherwise. -/
def Fits64 (signed : Bool) (x : Int) : Prop :=
  if signed then -2 ^ 63 ≤ x ∧ x < 2 ^ 63 else 0 ≤ x ∧ x ≤ maxUint64

theorem decimalValue_false (l : List Char) :
    decimalValue false l = (digits? l).map fun (n : Nat) => (n : Int) := by
  unfold decimalValue
  split <;> simp [digits?, isDecimal]

theorem decimalValue_true (l : List Char) :
    decimalValue true l = (digits? (splitSign l).2).map fun (n : Nat) =>
      if (splitSign l).1 then -(n : Int) else (n : Int) := by
  unfold decimalValue splitSign
  split <;> simp

theorem digits?_of_loop {cs : List Char} {n : Nat} (hne : cs ≠ [])
    (h : parseUintLoop 0 cs = .ok n) : digits? cs = some n ∧ n ≤ maxUint64 := by
  obtain ⟨hall, hle, rfl⟩ := (parseUintLoop_ok_iff (Nat.zero_le _)).mp h
  exact ⟨by simp [digits?, hne, hall], hle⟩

/-- When the digit loop fails, the text is not decimal or its value does not fit 64 bits. -/
theorem digits?_of_loop_error {cs : List Char} {e : NumErr} (h : parseUintLoop 0 cs = .error e)
    {n : Nat} (hd : digits? cs = some n) : maxUint64 < n := by
  simp only [digits?] at hd
  split at hd
  · cases hd
    rename_i hc
    by_contra hle
    have := (@parseUintLoop_ok_iff 0 (digitsValue 0 cs) cs (Nat.zero_le _)).mpr
      ⟨hc.2, by omega, rfl⟩
    rw [h] at this; cases this
  · cases hd

theorem toInt_ofNat_of_lt {n : Nat} (h : n < 2 ^ 63) : (BitVec.ofNat 64 n).toInt = n := by
  rw [BitVec.toInt_ofNat, Int.bmod_def]
  have h1 : (n : Int) % ((2 ^ 64 : Nat) : Int) = n := Int.emod_eq_of_lt (by omega) (by simp; omega)
  rw [h1, if_pos (by omega)]

theorem toInt_neg_ofNat_of_le {n : Nat} (h : n ≤ 2 ^ 63) : (-BitVec.ofNat 64 n).toInt = -n := by
  rw [BitVec.toInt_eq_toNat_bmod, BitVec.toNat_neg, BitVec.toNat_ofNat, Int.bmod_def]
  rcases Nat.eq_zero_or_pos n with rfl | hn
  · simp
  · have h1 : n % 2 ^ 64 = n := Nat.mod_eq_of_lt (by omega)
    have h2 : (2 ^ 64 - n) % 2 ^ 64 = 2 ^ 64 - n := Nat.mod_eq_of_lt (by omega)
    have h3 : ((2 ^ 64 - n : Nat) : Int) % ((2 ^ 64 : Nat) : Int) = ((2 ^ 64 - n : Nat) : Int) :=
      Int.emod_eq_of_lt (by omega) (by omega)
    rw [h1, h2, h3, if_neg (by omega)]
    omega

/-- `ParseUint` returns the value of decimal digits that fit 64 bits. -/
theorem parseUint_ok {s : String} {y : BitVec 64} (h : parseUint s = .ok y) :
    decimalValue false s.data = some y.toNat := by
  unfold parseUint at h
  split at h
  · cases h
  · rename_i h0
    split at h
    · rename_i n hl
      cases h
      obtain ⟨hd, hle⟩ := digits?_of_loop h0 hl
      rw [decimalValue_false, hd, BitVec.toNat_ofNat,
        Nat.mod_eq_of_lt (by unfold maxUint64 at hle; omega)]
      rfl
    · cases h

/-- `ParseUint` fails only on text that is not decimal digits or does not fit 64 bits. -/
theorem parseUint_error {s : String} {e : String} (h : parseUint s = .error e) {x : Int}
    (hx : decimalValue false s.data = some x) : ¬Fits64 false x := by
  rw [decimalValue_false] at hx
  cases hn : digits? s.data with
  | none => rw [hn] at hx; cases hx
  | some n =>
    rw [hn] at hx
    cases hx
    unfold parseUint at h
    split at h
    · rename_i h0; simp [digits?, h0] at hn
    · split at h
      · cases h
      · rename_i hl
        have := digits?_of_loop_error hl hn
        simp only [Fits64, Bool.false_eq_true, if_false, Option.map_some']
        omega

/-- `ParseInt` returns the value of decimal digits after an optional sign that fits `int64`. -/
theorem parseInt_ok {s : String} {y : BitVec 64} (h : parseInt s = .ok y) :
    decimalValue true s.data = some y.toInt := by
  unfold parseInt at h
  split at h
  · cases h
  · rw [decimalValue_true]
    revert h
    generalize splitSign s.data = p
    obtain ⟨neg, digits⟩ := p
    intro h
    dsimp only at h ⊢
    by_cases hd : digits = []
    · rw [if_pos hd] at h; cases h
    · rw [if_neg hd] at h
      cases hl : parseUintLoop 0 digits with
      | error e => rw [hl] at h; cases e <;> cases neg <;> simp [maxUint64] at h
      | ok un =>
        obtain ⟨hdig, hle⟩ := digits?_of_loop hd hl
        simp only [hl] at h
        rw [hdig, Option.map_some']
        cases neg
        · simp only [Bool.not_false, Bool.true_and, decide_eq_true_eq, Bool.false_and,
            Bool.false_eq_true, if_false] at h
          split at h
          · cases h
          · cases h
            rw [toInt_ofNat_of_lt (by omega)]
            rfl
        · simp only [Bool.not_true, Bool.false_and, Bool.false_eq_true, if_false, Bool.true_and,
            decide_eq_true_eq, if_true] at h
          split at h
          · cases h
          · cases h
            rw [toInt_neg_ofNat_of_le (by omega)]
            rfl

/-- `ParseInt` fails only on text that is not decimal digits after an optional sign, or whose
value does not fit `int64`. -/
theorem parseInt_error {s : String} {e : String} (h : parseInt s = .error e) {x : Int}
    (hx : decimalValue true s.data = some x) : ¬Fits64 true x := by
  rw [decimalValue_true] at hx
  unfold parseInt at h
  split at h
  · rename_i h0; rw [h0] at hx; simp [splitSign, digits?] at hx
  · revert h hx
    generalize splitSign s.data = p
    obtain ⟨neg, digits⟩ := p
    intro hx h
    dsimp only at h hx
    cases hn : digits? digits with
    | none => rw [hn] at hx; cases hx
    | some n =>
      rw [hn, Option.map_some'] at hx
      cases hx
      have hd : digits ≠ [] := by rintro rfl; simp [digits?] at hn
      rw [if_neg hd] at h
      simp only [Fits64, if_true]
      cases hl : parseUintLoop 0 digits with
      | error e' =>
        have := digits?_of_loop_error hl hn
        unfold maxUint64 at this
        cases neg <;> simp <;> omega
      | ok un =>
        obtain ⟨hdig, -⟩ := digits?_of_loop hd hl
        rw [hdig] at hn
        cases hn
        simp only [hl] at h
        cases neg
        · simp only [Bool.not_false, Bool.true_and, decide_eq_true_eq, Bool.false_and,
            Bool.false_eq_true, if_false] at h
          split at h
          · simp; omega
          · cases h
        · simp only [Bool.not_true, Bool.false_and, Bool.false_eq_true, if_false, Bool.true_and,
            decide_eq_true_eq, if_true] at h
          split at h
          · simp; omega
          · cases h

/-- The mathematical value of a source, decimal text read with a sign when `signed`: none for
text that is not decimal and for values of other types. -/
def Src.value (signed : Bool) : Src → Option Int
  | .null => some 0
  | .int64 x => some x.toInt
  | .uint64 x => some x.toNat
  | .bytes s => decimalValue signed s.data
  | .other _ => none

namespace Kind

/-- The value that a destination of kind `k` holds: its bits, read with the kind's sign. -/
def value (k : Kind) (v : BitVec k.width) : Int := if k.isSigned then v.toInt else v.toNat

/-- A value taken modulo `2 ^ width` into the values of the kind. -/
def wrap (k : Kind) (x : Int) : Int :=
  if k.isSigned then x.bmod (2 ^ k.width) else x % 2 ^ k.width

/-- The values of the kind. -/
def holds (k : Kind) (x : Int) : Prop :=
  if k.isSigned then -2 ^ (k.width - 1) ≤ x ∧ x < 2 ^ (k.width - 1) else 0 ≤ x ∧ x < 2 ^ k.width

theorem width_le (k : Kind) : k.width ≤ 64 := by
  cases k <;> decide

/-- Wrapping leaves a value alone exactly when the kind holds it. -/
theorem wrap_eq_self_iff (k : Kind) (x : Int) : k.wrap x = x ↔ k.holds x := by
  cases k <;> simp only [wrap, holds, isSigned, width, if_true, if_false, Bool.false_eq_true] <;>
    first | (rw [Int.bmod_def]; split <;> omega) | omega

end Kind

/-- Bits whose value is `x` modulo `2 ^ 64`, stored in a destination of kind `k`, hold `x`
wrapped to the kind. -/
theorem value_setWidth (k : Kind) {x : BitVec 64} {X : Int} (hX : X % 2 ^ 64 = x.toNat) :
    k.value (x.setWidth k.width) = k.wrap X := by
  have hn : ((x.setWidth k.width).toNat : Int) = X % 2 ^ k.width := by
    have hdvd : (2 : Int) ^ k.width ∣ 2 ^ 64 := by exact_mod_cast Nat.pow_dvd_pow 2 k.width_le
    rw [BitVec.toNat_setWidth, Int.ofNat_emod, ← hX, Int.natCast_pow]
    exact Int.emod_emod_of_dvd _ hdvd
  unfold Kind.value Kind.wrap
  split
  · rw [BitVec.toInt_eq_toNat_bmod, hn]
    have := Int.emod_bmod_congr X (2 ^ k.width)
    rwa [Int.natCast_pow] at this
  · exact hn

theorem toNat_emod (x : BitVec 64) : (x.toNat : Int) % 2 ^ 64 = x.toNat :=
  Int.emod_eq_of_lt (Int.ofNat_nonneg _) (by have := x.isLt; omega)

theorem toInt_emod (x : BitVec 64) : x.toInt % 2 ^ 64 = x.toNat := by
  have h : (x.toNat : Int).bmod (2 ^ 64) % 2 ^ 64 = (x.toNat : Int) % 2 ^ 64 := by
    exact_mod_cast @Int.bmod_emod (x.toNat : Int) (2 ^ 64)
  rw [BitVec.toInt_eq_toNat_bmod, h, toNat_emod]

section ScanInteger

variable {set : (k : Kind) → BitVec 64 → BitVec k.width}
  {parse : String → Except String (BitVec 64)} {signed : Bool}

/-- A value stored by the body of the integer scanners is the source's value wrapped to the
kind, when the setter keeps the low bits and the parser returns a value of the text. -/
theorem scanInteger_ok (hset : ∀ k x, set k x = x.setWidth k.width)
    (hparse : ∀ s y, parse s = .ok y →
      ∃ X, decimalValue signed s.data = some X ∧ X % 2 ^ 64 = y.toNat)
    {typ : GoType} {src : Src} {v : BitVec typ.kind.width}
    (h : scanInteger set parse typ src = .ok v) :
    ∃ X, src.value signed = some X ∧ typ.kind.value v = typ.kind.wrap X := by
  cases src with
  | null => cases h; exact ⟨0, rfl, by rw [hset]; exact value_setWidth _ rfl⟩
  | int64 x => cases h; exact ⟨x.toInt, rfl, by rw [hset]; exact value_setWidth _ (toInt_emod x)⟩
  | uint64 x => cases h; exact ⟨x.toNat, rfl, by rw [hset]; exact value_setWidth _ (toNat_emod x)⟩
  | bytes s =>
    simp only [scanInteger] at h
    cases hp : parse s with
    | error e => rw [hp] at h; cases h
    | ok y =>
      rw [hp] at h
      cases h
      obtain ⟨X, hX, hmod⟩ := hparse s y hp
      exact ⟨X, hX, by simp only [hset]; exact value_setWidth _ hmod⟩
  | other => cases h

/-- The body of the integer scanners fails only on text that the parser rejects and on values
of other types. -/
theorem scanInteger_error
    (hparse : ∀ s e, parse s = .error e →
      ∀ x, decimalValue signed s.data = some x → ¬Fits64 signed x)
    {typ : GoType} {src : Src} {e : String} (h : scanInteger set parse typ src = .error e) :
    (∃ s, src = .bytes s ∧ ∀ x, decimalValue signed s.data = some x → ¬Fits64 signed x) ∨
      ∃ v, src = .other v := by
  cases src with
  | bytes s =>
    simp only [scanInteger] at h
    cases hp : parse s with
    | error e' => exact .inl ⟨s, rfl, hparse s e' hp⟩
    | ok y => rw [hp] at h; cases h
  | other v => exact .inr ⟨v, rfl⟩
  | _ => cases h

end ScanInteger

/-- A type that implements no `sql.Scanner`, directly or through a pointer, and is not
`time.Time` gets the scanner of its kind. -/
theorem scanner_plain {typ : GoType} (hs : typ.implementsScanner = false)
    (hp : typ.ptrImplementsScanner = false) (ht : typ.isTime = false) :
    scanner typ = scanners typ.kind := by
  simp [scanner, hs, hp, ht]

theorem scanners_signed {k : Kind} (h : k.isSigned = true) : scanners k = some .scanInt64 := by
  cases k <;> first | rfl | cases h

theorem scanners_unsigned {k : Kind} (h : k.isUnsigned = true) :
    scanners k = some .scanUint64 := by
  cases k <;> first | rfl | cases h

theorem isSigned_of_isUnsigned {k : Kind} (h : k.isUnsigned = true) : k.isSigned = false := by
  cases k <;> first | rfl | cases h

/-- For an integer kind whose type has no `Scan` method and is not `time.Time`, `Scanner` picks
`scanInt64` for a signed kind and `scanUint64` for an unsigned one.  These store the source's value
wrapped to the kind, and fail only on text that the parser rejects and on values of other types. -/
theorem scan_stores_wrapped_value {typ : GoType}
    (hint : typ.kind.isSigned = true ∨ typ.kind.isUnsigned = true)
    (hs : typ.implementsScanner = false) (hp : typ.ptrImplementsScanner = false)
    (ht : typ.isTime = false) (src : Src) :
    scanner typ = some (if typ.kind.isSigned then .scanInt64 else .scanUint64) ∧
      (∀ v, (if typ.kind.isSigned then scanInt64 typ else scanUint64 typ) src = .ok v →
        ∃ x, src.value typ.kind.isSigned = some x ∧
          typ.kind.value v = typ.kind.wrap x ∧ (typ.kind.value v = x ↔ typ.kind.holds x)) ∧
      (∀ e, (if typ.kind.isSigned then scanInt64 typ else scanUint64 typ) src = .error e →
        (∃ s, src = .bytes s ∧ ∀ x, decimalValue typ.kind.isSigned s.data = some x →
          ¬Fits64 typ.kind.isSigned x) ∨ ∃ v, src = .other v) := by
  rw [scanner_plain hs hp ht]
  have exact_iff : ∀ {v : BitVec typ.kind.width} {x : Int}, typ.kind.value v = typ.kind.wrap x →
      (typ.kind.value v = x ↔ typ.kind.holds x) := fun hv => by
    rw [hv]; exact Kind.wrap_eq_self_iff _ _
  rcases hint with hsg | hun
  · rw [hsg, if_pos rfl, if_pos rfl, scanners_signed hsg]
    refine ⟨rfl, fun v h => ?_, fun e h => ?_⟩
    · obtain ⟨x, hx, hv⟩ := scanInteger_ok (fun _ _ => rfl)
        (fun s y hy => ⟨y.toInt, parseInt_ok hy, toInt_emod y⟩) h
      exact ⟨x, hx, hv, exact_iff hv⟩
    · exact scanInteger_error (fun s e he x hx => parseInt_error he hx) h
  · rw [isSigned_of_isUnsigned hun, if_neg Bool.false_ne_true, if_neg Bool.false_ne_true,
      scanners_unsigned hun]
    refine ⟨rfl, fun v h => ?_, fun e h => ?_⟩
    · obtain ⟨x, hx, hv⟩ := scanInteger_ok (fun _ _ => rfl)
        (fun s y hy => ⟨y.toNat, parseUint_ok hy, toNat_emod y⟩) h
      exact ⟨x, hx, hv, exact_iff hv⟩
    · exact scanInteger_error (fun s e he x hx => parseUint_error he hx) h

/-- An `int8` field scanned from the text `300`: `Scanner` picks `scanInt64`, `ParseInt` accepts
the text, and the field holds 44, the value wrapped to eight bits. -/
theorem scan_stores_wrapped_value_int8 :
    scanner ⟨"int8", .int8, false, false, false⟩ = some .scanInt64 ∧
      ∀ v, scanInt64 ⟨"int8", .int8, false, false, false⟩ (.bytes "300") = .ok v →
        Kind.value .int8 v = 44 := by
  obtain ⟨hsel, hok, -⟩ := @scan_stores_wrapped_value
    ⟨"int8", .int8, false, false, false⟩ (.inl rfl) rfl rfl rfl (.bytes "300")
  refine ⟨hsel, fun v hv => ?_⟩
  obtain ⟨x, hx, hval, -⟩ := hok v hv
  have h300 : x = 300 := by
    have : decimalValue true "300".data = some 300 := by decide
    exact Option.some.inj (hx.symm.trans this)
  rw [hval, h300]
  decide

/-- An `int8` field scanned from the `int64` 300 holds 44, and a `uint64` field scanned from
the `int64` -1 holds 2 ^ 64 - 1: neither is an error. -/
theorem scan_wraps_out_of_range :
    scanner ⟨"int8", .int8, false, false, false⟩ = some .scanInt64 ∧
      (∃ v, scanInt64 ⟨"int8", .int8, false, false, false⟩ (.int64 300) = .ok v ∧
        Kind.value .int8 v = 44) ∧
      scanner ⟨"uint64", .uint64, false, false, false⟩ = some .scanUint64 ∧
      (∃ v, scanUint64 ⟨"uint64", .uint64, false, false, false⟩ (.int64 (-1)) = .ok v ∧
        Kind.value .uint64 v = 2 ^ 64 - 1) :=
  ⟨rfl, ⟨_, rfl, by decide⟩, rfl, ⟨_, rfl, by decide⟩⟩

end Bun
