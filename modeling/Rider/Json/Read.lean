import Rider.Json.Basic
import Rider.Json.Form
import Rider.Text.Numeral
set_option autoImplicit false

namespace Rider.Json

/-- A magnitude on the way in: a significand of at most 64 bits and a power of ten. Digits that no
longer fit only move the power. -/
structure Magnitude where
  significand : Nat
  power : Int
  full : Bool

namespace Magnitude

def fits (m : Magnitude) (d : Nat) : Bool :=
  !m.full && m.significand * 10 + d ≤ Text.maxCount

def addWhole (m : Magnitude) (d : Nat) : Magnitude :=
  if m.fits d then { m with significand := m.significand * 10 + d }
  else { m with power := m.power + 1, full := true }

def addFraction (m : Magnitude) (d : Nat) : Magnitude :=
  if m.fits d then { m with significand := m.significand * 10 + d, power := m.power - 1 }
  else { m with full := true }

end Magnitude

def powerOfTen (k : Nat) : Float := Float.ofScientific 1 false k

def divideByPower (x : Float) (k : Nat) : Float :=
  if k ≤ 308 then x / powerOfTen k
  else if x == 0.0 then x
  else divideByPower (x / powerOfTen 308) (k - 308)
termination_by k

/-- The significand is rounded to a double, and then scaled by the power of ten; too large a number
has no double. -/
def magnitudeFloat? (significand : Nat) (power : Int) : Option Float :=
  let x := (UInt64.ofNat significand).toFloat
  if power < 0 then some (divideByPower x power.natAbs)
  else if power.natAbs ≤ 308 then
    let y := x * powerOfTen power.natAbs
    if y.isInf then none else some y
  else if x == 0.0 then some x
  else none

def decimalOf (negative : Bool) (x : Float) : Decimal :=
  { Decimal.ofFloat x with negative := negative }

def exponentValue (ds : List Nat) : Nat :=
  ds.foldl (fun n d => min (n * 10 + d) 10000000000) 0

namespace Numeral

/-- Whether a whole number of at most 64 bits is written. Zero with a sign is none, it is a double. -/
def whole? (n : Numeral) : Option Int :=
  match n.fraction, n.exponent with
  | none, none =>
    let v : Nat := n.whole.foldl (fun v d => v * 10 + d) 0
    if n.negative then
      if 0 < v ∧ v ≤ 9223372036854775808 then some (-(v : Int)) else none
    else if v ≤ Text.maxCount then some v else none
  | _, _ => none

def double? (n : Numeral) : Option Decimal :=
  let m := n.whole.foldl Magnitude.addWhole ⟨0, 0, false⟩
  let m := (n.fraction.getD []).foldl Magnitude.addFraction { m with full := false }
  let shift : Int := match n.exponent with
    | some (true, ds) => -(exponentValue ds : Int)
    | some (false, ds) => exponentValue ds
    | none => 0
  (magnitudeFloat? m.significand (m.power + shift)).map (decimalOf n.negative)

def value? (n : Numeral) : Option Number :=
  match n.whole? with
  | some i => some (.whole i)
  | none => n.double?.map .double

end Numeral

def joinPieces : List Piece → Option (List Char)
  | [] => some []
  | .char c :: rest => (joinPieces rest).map (c :: ·)
  | .unit n :: rest =>
    if 0xdc00 ≤ n ∧ n ≤ 0xdfff then none
    else if 0xd800 ≤ n ∧ n ≤ 0xdbff then
      match rest with
      | .unit m :: rest =>
        if 0xdc00 ≤ m ∧ m ≤ 0xdfff then
          (joinPieces rest).map
            (Char.ofNat (0x10000 + (n - 0xd800) * 0x400 + (m - 0xdc00)) :: ·)
        else none
      | _ => none
    else (joinPieces rest).map (Char.ofNat n :: ·)

def textOf? (ps : List Piece) : Option String := (joinPieces ps).map String.ofList

def maxDepth : Nat := 127

namespace Form

mutual

def value? (room : Nat) : Form → Option Json
  | .null => some .null
  | .bool b => some (.bool b)
  | .numeral n => n.value?.map .number
  | .text ps => (textOf? ps).map .text
  | .list items => match room with
    | 0 => none
    | room + 1 => (itemValues? room items).map .list
  | .object members => match room with
    | 0 => none
    | room + 1 => (memberValues? room members).map fun m => .object (Members.ofList m)

def itemValues? (room : Nat) : List Form → Option (List Json)
  | [] => some []
  | f :: rest => do return (← value? room f) :: (← itemValues? room rest)

def memberValues? (room : Nat) : List (List Piece × Form) → Option (List (String × Json))
  | [] => some []
  | (name, f) :: rest => do
    return (← textOf? name, ← value? room f) :: (← memberValues? room rest)

end

end Form

def ofString? (s : String) : Option Json := (Form.ofText? s.toList).bind (Form.value? maxDepth)

end Rider.Json
