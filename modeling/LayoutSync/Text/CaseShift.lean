namespace LayoutSync.Text

/-- Shifts every `step`-th code point from `first` to `last` by `distance`. -/
structure CaseShift where
  first : Nat
  last : Nat
  step : Nat
  distance : Int

namespace CaseShift

def covers (s : CaseShift) (n : Int) : Bool :=
  s.first ≤ n && n ≤ s.last && (n - s.first) % s.step == 0

def shift? (l : List CaseShift) (c : Char) : Option Char :=
  (l.find? (·.covers c.toNat)).map fun s => Char.ofNat ((c.toNat : Int) + s.distance).toNat

def inverse? (s : CaseShift) (c : Char) : Option Char :=
  let n := (c.toNat : Int) - s.distance
  if s.covers n then some (Char.ofNat n.toNat) else none

end CaseShift

end LayoutSync.Text
