import RmsGate.Go.Values

/-!
# `fmt.Sscanf` with the verb `%d`

`parseTimeString` reads its number with `fmt.Sscanf(numStr, "%d", &num)` into an `int`, and
`MCPingConn` reads the port with `fmt.Sscanf(portStr, "%d", &port)` into a `uint16`.  This is
fmt's scanner on those two calls, as fmt/scan.go has it: `SkipSpace` in the mode of `Sscanf`,
where a newline is not space; an optional sign for a signed operand; at least one decimal digit;
`strconv.ParseInt` or `ParseUint` on the token, with their range checks.  Nothing after the
digits is read, and `Sscanf` does not report leftover input.
A string is the list of its characters.  The error values of `Sscanf` are read by neither
caller beyond the test against nil, so a failed scan is `none`.
-/

namespace RmsGate.Go

/-- The white space of fmt's scanner: the table `space` of code point ranges. -/
def space : List (Nat × Nat) :=
  [(0x0009, 0x000d), (0x0020, 0x0020), (0x0085, 0x0085), (0x00a0, 0x00a0), (0x1680, 0x1680),
    (0x2000, 0x200a), (0x2028, 0x2029), (0x202f, 0x202f), (0x205f, 0x205f), (0x3000, 0x3000)]

def isSpace (r : Char) : Bool := space.any fun range => range.1 ≤ r.toNat && r.toNat ≤ range.2

/-- `SkipSpace` as `Sscanf` runs it: the input after the white space, or `none` for the error
"unexpected newline".  A carriage return right before a newline is skipped, and the newline
then fails. -/
def skipSpace : List Char → Option (List Char)
  | [] => some []
  | r :: rest =>
      if r = '\n' ∨ (r = '\r' ∧ rest.head? = some '\n') then none
      else if isSpace r then skipSpace rest
      else some (r :: rest)

def digitsValue (digits : List Char) : Nat :=
  digits.foldl (fun n d => 10 * n + (d.toNat - '0'.toNat)) 0

/-- `strconv.ParseInt(tok, 10, 64)` on a sign and the digits after it; `none` for the error
"value out of range". -/
def parseInt (negative : Bool) (digits : List Char) : Option Int :=
  let n : Int := if negative then -(digitsValue digits : Int) else digitsValue digits
  if -2 ^ 63 ≤ n ∧ n < 2 ^ 63 then some n else none

def acceptSign : List Char → Bool × List Char
  | '+' :: rest => (false, rest)
  | '-' :: rest => (true, rest)
  | input => (false, input)

/-- `fmt.Sscanf(str, "%d", &n)` for an `int` `n`: the value it stores, or `none` when it returns
an error. -/
def scanInt (str : List Char) : Option Int := do
  let input ← skipSpace str
  let (negative, unsigned) := acceptSign input
  let digits := unsigned.takeWhile Char.isDigit
  if digits = [] then none else parseInt negative digits

/-- `fmt.Sscanf(str, "%d", &n)` for a `uint16` `n`: no sign, `ParseUint`, then the check that
the value fits in 16 bits. -/
def scanUint16 (str : List Char) : Option (BitVec 16) := do
  let input ← skipSpace str
  let digits := input.takeWhile Char.isDigit
  if digits = [] ∨ 2 ^ 16 ≤ digitsValue digits then none
  else some (BitVec.ofNat 16 (digitsValue digits))

example : scanInt " +42s".toList = some 42 := by decide
example : scanInt "\n42".toList = none := by decide
example : scanUint16 "70000".toList = none := by decide

/-! ## A run of digits -/

theorem isSpace_of_isDigit {d : Char} (digit : d.isDigit) : isSpace d = false := by
  simp only [Char.isDigit, Bool.and_eq_true, decide_eq_true_eq] at digit
  have : 48 ≤ d.toNat ∧ d.toNat ≤ 57 := digit
  simp only [isSpace, space, List.any_cons, List.any_nil, Bool.or_false, Bool.or_eq_false_iff,
    Bool.and_eq_false_imp, decide_eq_true_eq, decide_eq_false_iff_not]
  omega

theorem skipSpace_of_isDigit {d : Char} (digit : d.isDigit) (rest : List Char) :
    skipSpace (d :: rest) = some (d :: rest) := by
  have : d ≠ '\n' ∧ d ≠ '\r' := by
    constructor <;> rintro rfl <;> simp [Char.isDigit] at digit
  simp [skipSpace, this, isSpace_of_isDigit digit]

theorem takeWhile_isDigit_append {digits tail : List Char} (all : ∀ d ∈ digits, d.isDigit)
    (stops : ∀ c ∈ tail.head?, c.isDigit = false) :
    (digits ++ tail).takeWhile Char.isDigit = digits := by
  rw [List.takeWhile_append_of_pos all]
  cases tail with
  | nil => simp
  | cons c rest => simp [List.takeWhile_cons, stops c rfl]

theorem acceptSign_of_isDigit {d : Char} (digit : d.isDigit) (rest : List Char) :
    acceptSign (d :: rest) = (false, d :: rest) := by
  have : d ≠ '+' ∧ d ≠ '-' := by
    constructor <;> rintro rfl <;> simp [Char.isDigit] at digit
  unfold acceptSign
  split <;> simp_all

/-- `%d` on a run of digits followed by anything that does not start with a digit: the value of
the digits, when it fits in an `int`. -/
theorem scanInt_digits {digits tail : List Char} (nonempty : digits ≠ [])
    (all : ∀ d ∈ digits, d.isDigit) (stops : ∀ c ∈ tail.head?, c.isDigit = false)
    (small : digitsValue digits < 2 ^ 63) :
    scanInt (digits ++ tail) = some (digitsValue digits) := by
  obtain ⟨d, rest, rfl⟩ := List.exists_cons_of_ne_nil nonempty
  have digit := all d (List.mem_cons_self d rest)
  have took := takeWhile_isDigit_append all stops
  simp only [List.cons_append] at took ⊢
  simp only [scanInt, skipSpace_of_isDigit digit, acceptSign_of_isDigit digit, took, parseInt,
    Option.bind_eq_bind, Option.some_bind, List.cons_ne_nil, if_false, Bool.false_eq_true]
  rw [if_pos (by omega)]
  rfl

theorem scanUint16_digits {digits tail : List Char} (nonempty : digits ≠ [])
    (all : ∀ d ∈ digits, d.isDigit) (stops : ∀ c ∈ tail.head?, c.isDigit = false)
    (small : digitsValue digits < 2 ^ 16) :
    scanUint16 (digits ++ tail) = some (BitVec.ofNat 16 (digitsValue digits)) := by
  obtain ⟨d, rest, rfl⟩ := List.exists_cons_of_ne_nil nonempty
  have digit := all d (List.mem_cons_self d rest)
  have took := takeWhile_isDigit_append all stops
  simp only [List.cons_append] at took ⊢
  simp only [scanUint16, skipSpace_of_isDigit digit, took, Option.bind_eq_bind, Option.some_bind]
  rw [if_neg (by simp only [List.cons_ne_nil, false_or]; omega)]

end RmsGate.Go
