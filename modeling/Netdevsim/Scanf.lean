import Netdevsim.Kernel

/-!
# `vsscanf`

The conversions of the kernel's `vsscanf` that the driver uses.  The values are those that were
assigned, in their order: how many there are is what `vsscanf` returns.
-/

namespace Netdevsim

/-! ## Characters -/

/-- `isspace`. -/
def isspace (c : UInt8) : Bool := (9 ≤ c && c ≤ 13) || c = 32 || c = 160

/-- `skip_spaces`. -/
def skipSpaces (str : Bytes) : Bytes := str.dropWhile isspace

/-- `isdigit`, or `isxdigit` for the base 16. -/
def isDigitOf (base : ℕ) (c : UInt8) : Bool := (digitValue c).any (· < base)

/-! ## Numbers -/

/-- `simple_strntoull`: the value and the rest of the string, where at most `maxChars` characters
are taken. -/
def simpleStrntoull (str : Bytes) (maxChars base : ℕ) : ℕ × Bytes :=
  let digits := (parseIntegerFixupRadix base str).2
  let prefixChars := str.length - digits.length
  if prefixChars < maxChars then
    let (value, taken, _) := parseInteger base (digits.take (maxChars - prefixChars)) 0 0
    (value, digits.drop taken)
  else (0, str.drop maxChars)

/-- `simple_strntoll`. -/
def simpleStrntoll (str : Bytes) (maxChars base : ℕ) : ℤ × Bytes :=
  match str with
  | 45 :: rest =>
    if 1 < maxChars then
      let (value, rest) := simpleStrntoull rest (maxChars - 1) base
      (-value, rest)
    else
      let (value, rest) := simpleStrntoull str maxChars base
      (value, rest)
  | _ =>
    let (value, rest) := simpleStrntoull str maxChars base
    (value, rest)

/-! ## Formats -/

/-- What stands in a format: white space, a character that must match, or a conversion, with the
width of its field. -/
inductive ScanDirective where
  | space
  | char (c : UInt8)
  /-- `%u` and `%x`. -/
  | uint (base : ℕ) (width : ℕ)
  /-- `%d`. -/
  | int
  /-- `%s`. -/
  | str
  deriving DecidableEq, Repr

/-- A value that was assigned. -/
inductive Scanned where
  | uint (val : UInt32) | int (val : Int32) | str (token : Bytes)
  deriving DecidableEq, Repr

def INT_MAX : ℕ := 2147483647
def SHRT_MAX : ℕ := 32767

/-- Whether a number of this base follows, and its string if so. -/
def scanNumber (base : ℕ) (signed : Bool) (str : Bytes) : Option Bytes :=
  match skipSpaces str with
  | 45 :: c :: rest =>
    if signed && isDigitOf base c then some (45 :: c :: rest) else none
  | c :: rest => if isDigitOf base c then some (c :: rest) else none
  | [] => none

/-- `vsscanf`. -/
def vsscanf : List ScanDirective → Bytes → List Scanned
  | [], _ => []
  | .space :: format, str => vsscanf format (skipSpaces str)
  | .char c :: format, str =>
    match str with
    | d :: str => if c = d then vsscanf format str else []
    | [] => []
  | _, [] => []
  | .uint base width :: format, str =>
    match scanNumber base false str with
    | none => []
    | some str =>
      let (value, rest) := simpleStrntoull str width base
      .uint (UInt32.ofNat value) :: vsscanf format rest
  | .int :: format, str =>
    match scanNumber 10 true str with
    | none => []
    | some str =>
      let (value, rest) := simpleStrntoll str INT_MAX 10
      .int (Int32.ofInt value) :: vsscanf format rest
  | .str :: format, str =>
    let str := skipSpaces str
    let token := (str.take SHRT_MAX).takeWhile (!isspace ·)
    .str token :: vsscanf format (str.drop token.length)

/-- `sscanf`. -/
def sscanf (buf : Bytes) (format : List ScanDirective) : List Scanned := vsscanf format (cstr buf)

/-- The conversion `%u`. -/
def ScanDirective.u : ScanDirective := .uint 10 INT_MAX

example : sscanf (ascii "12 0000:00:01.0 -3\n") [.u, .space, .str, .space, .int, .space, .u] =
    [.uint 12, .str (ascii "0000:00:01.0"), .int (-3)] := by decide

end Netdevsim
