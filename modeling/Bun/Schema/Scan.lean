import Mathlib
import Bun.Sqlfmt

/-! `Scanner` of package `schema`: the scanner function chosen for a field's Go type, and the
two that scan integers, `scanInt64` and `scanUint64`, with the `strconv` parsers they call.  A
destination of an integer kind holds its kind's width of bits; `reflect.Value.SetInt` and
`SetUint` store the low bits of the 64-bit value they are given. -/

namespace Bun

/-- `reflect.Kind`. -/
inductive Kind where
  | invalid | bool | int | int8 | int16 | int32 | int64 | uint | uint8 | uint16 | uint32
  | uint64 | uintptr | float32 | float64 | complex64 | complex128 | array | chan | func
  | interface | map | ptr | slice | string | struct | unsafePointer
  deriving DecidableEq, Repr

namespace Kind

/-- The width in bits of the values of an integer kind; `int`, `uint` and `uintptr` have 64
bits, as on 64-bit platforms. -/
def width : Kind → Nat
  | .int8 | .uint8 => 8
  | .int16 | .uint16 => 16
  | .int32 | .uint32 => 32
  | _ => 64

/-- The signed integer kinds. -/
def isSigned : Kind → Bool
  | .int | .int8 | .int16 | .int32 | .int64 => true
  | _ => false

/-- The unsigned integer kinds. -/
def isUnsigned : Kind → Bool
  | .uint | .uint8 | .uint16 | .uint32 | .uint64 | .uintptr => true
  | _ => false

end Kind

/-- The scanner functions of the package, by name; `addrScanScanner` is
`addrScanner(scanScanner)`. -/
inductive ScannerFunc where
  | scanBool | scanInt64 | scanUint64 | scanFloat64 | scanJSON | scanString | scanTime
  | scanScanner | addrScanScanner
  deriving DecidableEq, Repr

/-- `scanners`, indexed by kind: `none` for a `nil` entry and for `Invalid`, which has none. -/
def scanners : Kind → Option ScannerFunc
  | .bool => some .scanBool
  | .int | .int8 | .int16 | .int32 | .int64 => some .scanInt64
  | .uint | .uint8 | .uint16 | .uint32 | .uint64 | .uintptr => some .scanUint64
  | .float32 | .float64 => some .scanFloat64
  | .map | .slice => some .scanJSON
  | .string => some .scanString
  | _ => none

/-- What `Scanner` and the scanners read of a Go type: its name as `%s` prints it, its kind,
whether it and a pointer to it implement `sql.Scanner`, and whether it is `time.Time`. -/
structure GoType where
  name : String
  kind : Kind
  implementsScanner : Bool
  ptrImplementsScanner : Bool
  isTime : Bool

/-- `Scanner`: the type's own `Scan`, then that of a pointer to it unless the type is a
pointer, then `scanTime` for `time.Time`, and otherwise the entry of its kind. -/
def scanner (typ : GoType) : Option ScannerFunc :=
  if typ.implementsScanner then some .scanScanner
  else if typ.kind != .ptr && typ.ptrImplementsScanner then some .addrScanScanner
  else if typ.isTime then some .scanTime
  else scanners typ.kind

/-- A value that the driver hands a scanner: `nil`, an `int64` or a `uint64` (each as its 64
bits), a `[]byte`, or a value of another type, as `%#v` prints it. -/
inductive Src where
  | null
  | int64 (x : BitVec 64)
  | uint64 (x : BitVec 64)
  | bytes (s : String)
  | other (goSyntax : String)

/-- `strconv.NumError.Error()`. -/
def numError (fn num err : String) : String :=
  "strconv." ++ fn ++ ": parsing " ++ quote num ++ ": " ++ err

/-- The largest `uint64`. -/
def maxUint64 : Nat := 2 ^ 64 - 1

/-- The errors that the parsers tell apart: `ErrSyntax` and `ErrRange`. -/
inductive NumErr where
  | errSyntax
  | errRange
  deriving DecidableEq, Repr

/-- The text of `ErrSyntax` and `ErrRange`. -/
def NumErr.text : NumErr → String
  | .errSyntax => "invalid syntax"
  | .errRange => "value out of range"

/-- The digit loop of `strconv.ParseUint(s, 10, 64)`, from the value `n` of the digits before:
a character that is not a decimal digit is a syntax error, and a digit that takes the value
past `maxUint64` a range error at once. -/
def parseUintLoop (n : Nat) : List Char → Except NumErr Nat
  | [] => .ok n
  | c :: cs =>
    if '0' ≤ c ∧ c ≤ '9' then
      if n ≥ maxUint64 / 10 + 1 then .error .errRange
      else if n * 10 + (c.toNat - '0'.toNat) > maxUint64 then .error .errRange
      else parseUintLoop (n * 10 + (c.toNat - '0'.toNat)) cs
    else .error .errSyntax

/-- `strconv.ParseUint(s, 10, 64)`. -/
def parseUint (s : String) : Except String (BitVec 64) :=
  if s.data = [] then .error (numError "ParseUint" s NumErr.errSyntax.text)
  else
    match parseUintLoop 0 s.data with
    | .ok n => .ok (BitVec.ofNat 64 n)
    | .error e => .error (numError "ParseUint" s e.text)

/-- The sign of `strconv.ParseInt` and the text after it. -/
def splitSign : List Char → Bool × List Char
  | '+' :: cs => (false, cs)
  | '-' :: cs => (true, cs)
  | cs => (false, cs)

/-- `strconv.ParseInt(s, 10, 64)`: a leading sign, then `ParseUint` of the rest, whose range
error gives way to the range check of `int64`. -/
def parseInt (s : String) : Except String (BitVec 64) :=
  if s.data = [] then .error (numError "ParseInt" s NumErr.errSyntax.text)
  else
    let (neg, digits) := splitSign s.data
    match (if digits = [] then .error .errSyntax else parseUintLoop 0 digits : Except NumErr Nat) with
    | .error .errSyntax => .error (numError "ParseInt" s NumErr.errSyntax.text)
    | r =>
      let un := match r with
        | .ok n => n
        | .error _ => maxUint64
      if !neg && un ≥ 2 ^ 63 then .error (numError "ParseInt" s NumErr.errRange.text)
      else if neg && un > 2 ^ 63 then .error (numError "ParseInt" s NumErr.errRange.text)
      else .ok (if neg then -BitVec.ofNat 64 un else BitVec.ofNat 64 un)

/-- `reflect.Value.SetInt` on a destination of kind `k`: the low bits of the value. -/
def setInt (k : Kind) (x : BitVec 64) : BitVec k.width := x.setWidth k.width

/-- `reflect.Value.SetUint` on a destination of kind `k`: the low bits of the value. -/
def setUint (k : Kind) (x : BitVec 64) : BitVec k.width := x.setWidth k.width

/-- The body that `scanInt64` and `scanUint64` share, with the setter and the parser of the
text: `nil` stores 0, an `int64` or a `uint64` its bits converted to the setter's type, a
`[]byte` what the parser returns, and any other value is an error. -/
def scanInteger (set : (k : Kind) → BitVec 64 → BitVec k.width)
    (parse : String → Except String (BitVec 64)) (typ : GoType) :
    Src → Except String (BitVec typ.kind.width)
  | .null => .ok (set typ.kind 0)
  | .int64 x => .ok (set typ.kind x)
  | .uint64 x => .ok (set typ.kind x)
  | .bytes s => (set typ.kind ·) <$> parse s
  | .other v => .error ("bun: can't scan " ++ v ++ " into " ++ typ.name)

/-- `scanInt64`: `SetInt`, and `strconv.ParseInt` for text; a `uint64` is converted by
`int64(src)`, which keeps its bits. -/
def scanInt64 (typ : GoType) : Src → Except String (BitVec typ.kind.width) :=
  scanInteger setInt parseInt typ

/-- `scanUint64`: `SetUint`, and `strconv.ParseUint` for text; an `int64` is converted by
`uint64(src)`, which keeps its bits. -/
def scanUint64 (typ : GoType) : Src → Except String (BitVec typ.kind.width) :=
  scanInteger setUint parseUint typ

/-- What the scanner functions that scan integers do to a destination of type `typ`; the
others are not modelled. -/
def ScannerFunc.scanIntegers (f : ScannerFunc) (typ : GoType) :
    Option (Src → Except String (BitVec typ.kind.width)) :=
  match f with
  | .scanInt64 => some (Bun.scanInt64 typ)
  | .scanUint64 => some (Bun.scanUint64 typ)
  | _ => none

end Bun
