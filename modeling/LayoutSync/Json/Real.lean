import LayoutSync.Decimal.Shortest

namespace LayoutSync.Json

-- Powers are those of the core library, whatever else is imported.
attribute [local instance(high)] instPowNat

def zeros (n : Nat) : List Char := List.replicate n '0'

def positional (digits : List Char) (point : Int) : List Char :=
  if point ≤ 0 then "0.".toList ++ zeros (-point).toNat ++ digits
  else
    let n := point.toNat
    if digits.length ≤ n then digits ++ zeros (n - digits.length) ++ ".0".toList
    else digits.take n ++ '.' :: digits.drop n

def exponential (digits : List Char) (point : Int) : List Char :=
  let e := point - 1
  let mantissa :=
    match digits with
    | [] => []
    | [d] => [d]
    | d :: ds => d :: '.' :: ds
  mantissa ++ 'e' :: (if e < 0 then '-' else '+') :: Nat.toDigits 10 e.natAbs

def realDigits (x : Float) : List Char :=
  let bits := x.toBits.toNat % 2 ^ (63 : Nat)
  if bits = 0 then "0.0".toList
  else
    let d := Decimal.shortest (Decimal.Binary.ofBits bits)
    let digits := Nat.toDigits 10 d.digits
    let point := d.exponent + digits.length
    if -5 < point ∧ point ≤ 16 then positional digits point else exponential digits point

def realText (x : Float) : List Char :=
  if 2 ^ (63 : Nat) ≤ x.toBits.toNat then '-' :: realDigits x else realDigits x

end LayoutSync.Json
