set_option autoImplicit false

namespace Rider.Text

def digits (n : Nat) : List Char := Nat.toDigits 10 n

def padStart (width : Nat) (s : List Char) : List Char :=
  List.replicate (width - s.length) ' ' ++ s

def maxCount : Nat := 18446744073709551615

/-- The sum of two counts, or the largest count if the sum is no count. -/
def addCapped (m n : Nat) : Nat := m + min n (maxCount - m)

/-- The value of one digit in a base of at most sixteen. -/
def digitValue? (base : Nat) (c : Char) : Option Nat :=
  let v :=
    if '0' ≤ c ∧ c ≤ '9' then some (c.toNat - 48)
    else if 'a' ≤ c ∧ c ≤ 'f' then some (c.toNat - 87)
    else if 'A' ≤ c ∧ c ≤ 'F' then some (c.toNat - 55)
    else none
  v.filter (· < base)

def digitsValue? (base acc : Nat) : List Char → Option Nat
  | [] => some acc
  | c :: rest => match digitValue? base c with
    | some d => digitsValue? base (acc * base + d) rest
    | none => none

def number? (base : Nat) : List Char → Option Nat
  | '+' :: c :: rest => digitsValue? base 0 (c :: rest)
  | c :: rest => digitsValue? base 0 (c :: rest)
  | [] => none

def charOf? (n : Nat) : Option Char := if n.isValidChar then some (Char.ofNat n) else none

/-- A count: a decimal number of at most 64 bits. -/
def count? (s : List Char) : Option Nat := (number? 10 s).filter (· ≤ maxCount)

end Rider.Text
