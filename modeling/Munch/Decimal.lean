/-!
# The shortest decimal text of a number

A binary floating-point number stands for all real numbers that round to it. Its **shortest
decimal** is a decimal in that interval with the fewest digits, and among those the nearest one to
the number. All arithmetic here is on exact natural numbers.
-/

namespace Munch.Decimal

/-- A positive number `mantissa * 2 ^ exponent` with the reals that round to it, in quarters of the
last place: from `below` quarters under it to two above it, ends included if the mantissa is even.
-/
structure Binary where
  mantissa : Nat
  exponent : Int
  below : Nat

/-- The fields of a finite, positive number in the 64-bit format. -/
def Binary.ofBits (bits : UInt64) : Binary :=
  let fraction : Nat := bits.toNat % Nat.pow 2 52
  let biased : Nat := bits.toNat / Nat.pow 2 52 % Nat.pow 2 11
  if biased = 0 then ⟨fraction, -1074, 2⟩
  else ⟨Nat.pow 2 52 + fraction, (biased : Int) - 1075, if fraction = 0 ∧ 1 < biased then 1 else 2⟩

/-- `base ^ e` as a fraction. -/
def power (base : Nat) (e : Int) : Nat × Nat :=
  if 0 ≤ e then (base.pow e.toNat, 1) else (1, base.pow (-e).toNat)

/-- `quarters * 2 ^ (exponent - 2) / 10 ^ p` as a fraction. -/
def Binary.scaled (b : Binary) (quarters : Nat) (p : Int) : Nat × Nat :=
  let (n2, d2) := power 2 (b.exponent - 2)
  let (n10, d10) := power 10 p
  (quarters * n2 * d10, d2 * n10)

/-- Whether `digits * 10 ^ p` rounds to the number. -/
def Binary.roundsTo (b : Binary) (digits : Nat) (p : Int) : Bool :=
  let (lo, den) := b.scaled (4 * b.mantissa - b.below) p
  let (hi, _) := b.scaled (4 * b.mantissa + 2) p
  if b.mantissa % 2 = 0 then lo ≤ digits * den && digits * den ≤ hi
  else lo < digits * den && digits * den < hi

/-- The decimal that rounds to the number among the two neighbours of the number on the grid of
multiples of `10 ^ p`, the nearer one if both do; a tie goes to the even one. -/
def Binary.onGrid (b : Binary) (p : Int) : Option Nat :=
  let (num, den) := b.scaled (4 * b.mantissa) p
  let low := num / den
  let rest := num % den
  match b.roundsTo low p, b.roundsTo (low + 1) p with
  | true, true =>
    some (if 2 * rest < den || (2 * rest == den && low % 2 == 0) then low else low + 1)
  | true, false => some low
  | false, true => some (low + 1)
  | false, false => none

/-- The exponent of the first decimal digit, searched for from `e` downwards. -/
def Binary.leading (b : Binary) : Nat → Int → Int
  | 0, e => e
  | n + 1, e =>
    let (num, den) := b.scaled (4 * b.mantissa) e
    if den ≤ num then e else b.leading n (e - 1)

/-- The first grid with a decimal that rounds to the number, from coarse to fine. -/
def Binary.search (b : Binary) : Nat → Int → Nat × Int
  | 0, p => ((b.onGrid p).getD 0, p)
  | n + 1, p =>
    match b.onGrid p with
    | some d => (d, p)
    | none => b.search n (p - 1)

/-- Drops zeros at the end of a decimal. -/
def dropZeros : Nat → Nat → Int → Nat × Int
  | 0, d, p => (d, p)
  | n + 1, d, p => if d % 10 = 0 ∧ d ≠ 0 then dropZeros n (d / 10) (p + 1) else (d, p)

/-- The shortest decimal, as digits and the exponent of the last one. -/
def Binary.shortest (b : Binary) : Nat × Int :=
  let (d, p) := b.search 20 (b.leading 640 309)
  dropZeros 20 d p

/-- A decimal with a point: positional from `10 ^ -5` to below `10 ^ 16`, else with an exponent that
has a sign. -/
def layout (digits : Nat) (p : Int) : String :=
  let ds := Nat.toDigits 10 digits
  let e : Int := p + ds.length - 1
  if -5 ≤ e ∧ e < 16 then
    if 0 ≤ p then .ofList (ds ++ List.replicate p.toNat '0' ++ ['.', '0'])
    else if 0 ≤ e then .ofList (ds.take (e.toNat + 1) ++ '.' :: ds.drop (e.toNat + 1))
    else .ofList ('0' :: '.' :: List.replicate ((-e).toNat - 1) '0' ++ ds)
  else
    let point := if ds.length = 1 then ds else ds.take 1 ++ '.' :: ds.drop 1
    let sign := if e < 0 then '-' else '+'
    .ofList (point ++ 'e' :: sign :: Nat.toDigits 10 e.natAbs)

/-- The text of a finite number. -/
def ofFloat (x : Float) : String :=
  let bits := x.toBits
  let magnitude := bits.toNat % Nat.pow 2 63
  let text :=
    if magnitude = 0 then "0.0"
    else
      let (d, p) := (Binary.ofBits (.ofNat magnitude)).shortest
      layout d p
  if bits.toNat < Nat.pow 2 63 then text else "-" ++ text

end Munch.Decimal
