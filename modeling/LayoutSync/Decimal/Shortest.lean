/-!
Shortest decimals: of the decimals that read back as a given double, one with the fewest digits,
and among those the nearest.
-/

namespace LayoutSync.Decimal

-- Powers are those of the core library, whatever else is imported.
attribute [local instance(high)] instPowNat

/-- A positive double as `mantissa * 2 ^ exponent`. -/
structure Binary where
  mantissa : Nat
  exponent : Int
  narrowBelow : Bool

namespace Binary

def ofBits (bits : Nat) : Binary :=
  let fraction : Nat := bits % 2 ^ (52 : Nat)
  let e : Nat := bits / 2 ^ (52 : Nat) % 2 ^ (11 : Nat)
  if e = 0 then ⟨fraction, -1074, false⟩
  else ⟨fraction + 2 ^ (52 : Nat), (e : Int) - 1075, fraction = 0 && 1 < e⟩

/-- Four times the mantissa, over the power of two that makes the value whole. -/
def scaled (b : Binary) : Nat × Nat :=
  if 2 ≤ b.exponent then (2 ^ (b.exponent - 2).toNat, 1) else (1, 2 ^ (2 - b.exponent).toNat)

def holds (b : Binary) (n d : Nat) : Bool :=
  let (up, down) := b.scaled
  let x := n * down
  let lo := (4 * b.mantissa - if b.narrowBelow then 1 else 2) * up * d
  let hi := (4 * b.mantissa + 2) * up * d
  if b.mantissa % 2 = 0 then lo ≤ x && x ≤ hi else lo < x && x < hi

end Binary

structure Value where
  digits : Nat
  exponent : Int
deriving DecidableEq, Repr

def powerOfTen (k : Int) : Nat × Nat := (10 ^ k.toNat, 10 ^ (-k).toNat)

def onGrid? (b : Binary) (k : Int) : Option Nat :=
  let (up, down) := b.scaled
  let (tens, tenths) := powerOfTen k
  let n := 4 * b.mantissa * up * tenths
  let d := down * tens
  let below := n / d
  let hit (x : Nat) : Bool := b.holds (x * tens) tenths
  match hit below, hit (below + 1) with
  | true, true =>
    let r := 2 * (n % d)
    some (if r < d || (r = d && below % 2 = 0) then below else below + 1)
  | true, false => some below
  | false, true => some (below + 1)
  | false, false => none

def leadingExponent (b : Binary) : Nat → Int → Int
  | 0, k => k
  | fuel + 1, k =>
    let (up, down) := b.scaled
    let (tens, tenths) := powerOfTen k
    if down * tens ≤ 4 * b.mantissa * up * tenths then k else leadingExponent b fuel (k - 1)

def searchGrid (b : Binary) : Nat → Int → Value
  | 0, k => ⟨(onGrid? b k).getD 0, k⟩
  | fuel + 1, k =>
    match onGrid? b k with
    | some d => ⟨d, k⟩
    | none => searchGrid b fuel (k - 1)

def Value.trim (d : Value) : Nat → Value
  | 0 => d
  | fuel + 1 =>
    if d.digits ≠ 0 && d.digits % 10 = 0 then trim ⟨d.digits / 10, d.exponent + 1⟩ fuel else d

def shortest (b : Binary) : Value := (searchGrid b 17 (leadingExponent b 700 309)).trim 20

end LayoutSync.Decimal
