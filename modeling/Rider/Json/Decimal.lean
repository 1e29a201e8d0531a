import Rider.Text.Numeral
set_option autoImplicit false

/-!
The doubles of a data value, kept as the shortest decimal that rounds to them. Of several shortest
ones the nearest is taken, and of two equally near ones the even one.
-/

namespace Rider.Json

/-- The number `digits * 10 ^ exponent`, with a sign of its own so that zero has two forms. -/
structure Decimal where
  negative : Bool
  digits : Nat
  exponent : Int
  -- Final zeros are in the exponent.
  normal : digits % 10 = 0 → digits = 0 ∧ exponent = 0
deriving DecidableEq, Repr

namespace Decimal

/-- A positive double `mantissa * 2 ^ scale`; `narrow` tells that the double below is only half as far
away as the double above. -/
structure Binary where
  mantissa : Nat
  scale : Int
  narrow : Bool

def Binary.ofBits (bits : UInt64) : Binary :=
  let biased := ((bits >>> 52) &&& 0x7ff).toNat
  let fraction := (bits &&& 0xfffffffffffff).toNat
  if biased = 0 then ⟨fraction, -1074, false⟩
  else ⟨0x10000000000000 + fraction, (biased : Int) - 1075, fraction == 0 && biased > 1⟩

def Binary.over (b : Binary) (g : Int) : Nat × Nat :=
  (Nat.pow 2 (b.scale - 2).toNat * Nat.pow 10 (-g).toNat,
    Nat.pow 2 (2 - b.scale).toNat * Nat.pow 10 g.toNat)

/-- Whether `n * 10 ^ g` lies among the reals that round to `b`; the two ends do if the mantissa is
even. -/
def Binary.holds (b : Binary) (g : Int) (n : Nat) : Bool :=
  let (a, d) := b.over g
  let low := (4 * b.mantissa - if b.narrow then 1 else 2) * a
  let high := (4 * b.mantissa + 2) * a
  if b.mantissa % 2 = 0 then low ≤ n * d && n * d ≤ high else low < n * d && n * d < high

def Binary.nearest? (b : Binary) (g : Int) : Option Nat :=
  let (a, d) := b.over g
  let value := 4 * b.mantissa * a
  let n := value / d
  match b.holds g n, b.holds g (n + 1) with
  | true, true =>
    let below := value - n * d
    let above := (n + 1) * d - value
    if below < above then some n else if above < below then some (n + 1)
    else if n % 2 = 0 then some n else some (n + 1)
  | true, false => some n
  | false, true => some (n + 1)
  | false, false => none

/-- The least `k` with `b < 10 ^ k`, found next to an estimate from the binary size. -/
def Binary.size10 (b : Binary) : Int :=
  let estimate := Int.fdiv (((b.mantissa.log2 : Int) + b.scale) * 30103) 100000
  let candidates := [estimate - 1, estimate, estimate + 1, estimate + 2]
  (candidates.find? fun k => let (a, d) := b.over k; 4 * b.mantissa * a < d).getD (estimate + 2)

def stripZeros (n : Nat) (e : Int) : Nat × Int :=
  if n % 10 = 0 ∧ n ≠ 0 then stripZeros (n / 10) (e + 1) else (n, e)
termination_by n
decreasing_by omega

theorem stripZeros_mod {n : Nat} (h : n ≠ 0) (e : Int) : (stripZeros n e).1 % 10 ≠ 0 := by
  induction n, e using stripZeros.induct with
  | case1 n e hn ih =>
    rw [stripZeros, if_pos hn]
    exact ih (by omega)
  | case2 n e hn =>
    rw [stripZeros, if_neg hn]
    exact fun hzero => hn ⟨hzero, h⟩

def ofParts (negative : Bool) (n : Nat) (e : Int) : Decimal :=
  if h : n = 0 then ⟨negative, 0, 0, fun _ => ⟨rfl, rfl⟩⟩
  else ⟨negative, (stripZeros n e).1, (stripZeros n e).2, fun hz => absurd hz (stripZeros_mod h e)⟩

/-- The shortest decimal of a positive double; seventeen digits always suffice. -/
def Binary.shortest (b : Binary) : Nat × Int :=
  let k := b.size10
  let hit := (List.range 17).findSome? fun (i : Nat) =>
    let g := k - ((i : Int) + 1)
    (b.nearest? g).map fun n => (n, g)
  hit.getD (0, 0)

def ofFloat (x : Float) : Decimal :=
  let bits := x.toBits
  let negative := bits >>> 63 == 1
  let b := Binary.ofBits bits
  if b.mantissa = 0 then ofParts negative 0 0
  else let (n, e) := b.shortest; ofParts negative n e

def pointed : List Char → List Char
  | c :: e :: rest => c :: '.' :: e :: rest
  | ds => ds

def scientific (ds : List Char) (exponent : Int) : List Char :=
  pointed ds ++ 'e' :: (if exponent < 0 then '-' else '+') :: Text.digits exponent.natAbs

/-- Written with a point and at least one digit on each side of it while the point stands at most
sixteen places into the number or five before it, and beyond that with an exponent, which always
shows its sign. -/
def magnitude (d : Decimal) : List Char :=
  let ds := Text.digits d.digits
  let point : Int := ds.length + d.exponent
  let zeros (n : Int) := List.replicate n.toNat '0'
  if 0 ≤ d.exponent ∧ point ≤ 16 then ds ++ zeros d.exponent ++ ['.', '0']
  else if 0 < point ∧ point ≤ 16 then ds.take point.toNat ++ '.' :: ds.drop point.toNat
  else if -5 < point ∧ point ≤ 0 then '0' :: '.' :: zeros (-point) ++ ds
  else scientific ds (point - 1)

def text (d : Decimal) : List Char := (if d.negative then ['-'] else []) ++ d.magnitude

end Decimal

end Rider.Json
