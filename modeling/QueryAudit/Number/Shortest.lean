import QueryAudit.Number.Binary64

/-! The shortest decimal of a binary64 number, and its text. The decimal has the fewest digits
that read back as the number; of two such decimals the nearer one is taken. -/
namespace QueryAudit.Binary64

/-- `digits * 10 ^ exponent`. -/
structure Decimal where
  digits : Nat
  exponent : Int
deriving DecidableEq, Repr

/-- The exact decimal of `mantissa * 2 ^ exponent`. -/
def exact (mantissa : Nat) (exponent : Int) : Decimal :=
  if exponent < 0 then ⟨mantissa * Nat.pow 5 (-exponent).toNat, exponent⟩
  else ⟨mantissa * Nat.pow 2 exponent.toNat, 0⟩

/-- The two neighbours of a decimal once its last `dropped` digits are cut, the nearer first. -/
def neighbours (value : Decimal) (dropped : Nat) : List Decimal :=
  let unit := Nat.pow 10 dropped
  let below := value.digits / unit
  let rest := value.digits % unit
  let exponent := value.exponent + dropped
  let up := 2 * rest > unit ∨ (2 * rest = unit ∧ below % 2 = 1)
  if rest = 0 then [⟨below, exponent⟩]
  else if up then [⟨below + 1, exponent⟩, ⟨below, exponent⟩]
  else [⟨below, exponent⟩, ⟨below + 1, exponent⟩]

def readsBack (mantissa : Nat) (exponent : Int) (value : Decimal) : Bool :=
  ofDecimal false value.digits value.exponent = finite false mantissa exponent

/-- Tries ever fewer dropped digits; nothing dropped always reads back. -/
def shortestFrom (mantissa : Nat) (exponent : Int) (value : Decimal) : Nat → Decimal
  | 0 => value
  | dropped + 1 =>
    match (neighbours value (dropped + 1)).find? (readsBack mantissa exponent) with
    | some found => found
    | none => shortestFrom mantissa exponent value dropped

def shortest (mantissa : Nat) (exponent : Int) : Decimal :=
  let value := exact mantissa exponent
  let length := (Nat.toDigits 10 value.digits).length
  shortestFrom mantissa exponent value (length - 1)

/-- Which exponents are written positionally, for `d.ddd * 10 ^ exponent`. -/
def isPositional (exponent : Int) : Bool := -4 ≤ exponent && exponent < 16

def exponentText (exponent : Int) : String :=
  let sign := if exponent < 0 then "-" else "+"
  let magnitude := toString exponent.natAbs
  sign ++ (if magnitude.length < 2 then "0" ++ magnitude else magnitude)

/-- Cuts the zeros at the end of a digit string. -/
def trimZeros (digits : List Char) : List Char :=
  (digits.reverse.dropWhile (· == '0')).reverse

/-- Digits with a point, or with one digit before the point and an exponent. -/
def decimalText (value : Decimal) : String :=
  let digits := Nat.toDigits 10 value.digits
  let scientific : Int := value.exponent + digits.length - 1
  let digits := trimZeros digits
  if isPositional scientific then
    if scientific < 0 then
      "0." ++ String.ofList (List.replicate (-scientific - 1).toNat '0' ++ digits)
    else
      let whole := scientific.toNat + 1
      let before := digits.take whole ++ List.replicate (whole - digits.length) '0'
      let behind := digits.drop whole
      String.ofList before ++ "." ++ (if behind.isEmpty then "0" else String.ofList behind)
  else
    let behind := digits.drop 1
    String.ofList (digits.take 1) ++ (if behind.isEmpty then "" else "." ++ String.ofList behind)
      ++ "e" ++ exponentText scientific

/-- The text of a number; the two words for numbers that are not finite are given. -/
def text (nanText infinityText : String) : Binary64 → String
  | nan => nanText
  | infinite negative => (if negative then "-" else "") ++ infinityText
  | finite negative 0 _ => if negative then "-0.0" else "0.0"
  | finite negative mantissa exponent =>
    (if negative then "-" else "") ++ decimalText (shortest mantissa exponent)

end QueryAudit.Binary64
