import Rider.Text.Numeral
set_option autoImplicit false

namespace Rider.Json

structure Numeral where
  negative : Bool
  whole : List Nat
  -- Absent without a point.
  fraction : Option (List Nat)
  -- Whether the exponent is negative, and its digits; absent without an exponent.
  exponent : Option (Bool × List Nat)

inductive Piece
  | char (c : Char)
  | unit (n : Nat)

inductive Form
  | null
  | bool (value : Bool)
  | numeral (n : Numeral)
  | text (pieces : List Piece)
  | list (items : List Form)
  -- Members in the order in which they are written; names may repeat.
  | object (members : List (List Piece × Form))
deriving Inhabited

namespace Form

def isSpace (c : Char) : Bool := c == ' ' || c == '\n' || c == '\r' || c == '\t'

def skipSpace (s : List Char) : List Char := s.dropWhile isSpace

def takeDigits (s : List Char) : List Nat × List Char :=
  ((s.takeWhile Char.isDigit).map fun c => c.toNat - 48, s.dropWhile Char.isDigit)

/-- The digits before the point: a zero alone, or digits that do not begin with zero. -/
def takeWhole? (s : List Char) : Option (List Nat × List Char) :=
  match takeDigits s with
  | ([], _) => none
  | (0 :: _ :: _, _) => none
  | (ds, rest) => some (ds, rest)

def takeFraction? : List Char → Option (Option (List Nat) × List Char)
  | '.' :: s => match takeDigits s with
    | ([], _) => none
    | (ds, rest) => some (some ds, rest)
  | s => some (none, s)

def takeExponent? : List Char → Option (Option (Bool × List Nat) × List Char)
  | c :: s =>
    if c = 'e' ∨ c = 'E' then
      let (negative, digits) := match s with
        | '-' :: r => (true, r)
        | '+' :: r => (false, r)
        | r => (false, r)
      match takeDigits digits with
      | ([], _) => none
      | (ds, rest) => some (some (negative, ds), rest)
    else some (none, c :: s)
  | [] => some (none, [])

def takeNumeral? (s : List Char) : Option (Numeral × List Char) := do
  let (negative, s) := match s with
    | '-' :: r => (true, r)
    | r => (false, r)
  let (whole, s) ← takeWhole? s
  let (fraction, s) ← takeFraction? s
  let (exponent, s) ← takeExponent? s
  return (⟨negative, whole, fraction, exponent⟩, s)

def letterEscape? : Char → Option Char
  | '"' => some '"'
  | '\\' => some '\\'
  | '/' => some '/'
  | 'b' => some '\x08'
  | 'f' => some '\x0c'
  | 'n' => some '\n'
  | 'r' => some '\r'
  | 't' => some '\t'
  | _ => none

def takeText? : List Char → Option (List Piece × List Char)
  | [] => none
  | '"' :: rest => some ([], rest)
  | '\\' :: 'u' :: a :: b :: c :: d :: rest => do
    let n ← Text.digitsValue? 16 0 [a, b, c, d]
    let (ps, rest) ← takeText? rest
    return (.unit n :: ps, rest)
  | '\\' :: c :: rest => do
    let c ← letterEscape? c
    let (ps, rest) ← takeText? rest
    return (.char c :: ps, rest)
  | c :: rest =>
    if c.toNat < 0x20 then none else do
      let (ps, rest) ← takeText? rest
      return (.char c :: ps, rest)

mutual

/-- One value at the start of a text and what follows it, within `fuel` nested steps. -/
def take? : Nat → List Char → Option (Form × List Char)
  | 0, _ => none
  | fuel + 1, s => match skipSpace s with
    | 'n' :: 'u' :: 'l' :: 'l' :: rest => some (.null, rest)
    | 't' :: 'r' :: 'u' :: 'e' :: rest => some (.bool true, rest)
    | 'f' :: 'a' :: 'l' :: 's' :: 'e' :: rest => some (.bool false, rest)
    | '"' :: rest => (takeText? rest).map fun p => (.text p.1, p.2)
    | '[' :: rest => match skipSpace rest with
      | ']' :: rest => some (.list [], rest)
      | rest => (takeItems? fuel rest).map fun p => (.list p.1, p.2)
    | '\x7b' :: rest => match skipSpace rest with
      | '\x7d' :: rest => some (.object [], rest)
      | rest => (takeMembers? fuel rest).map fun p => (.object p.1, p.2)
    | rest => (takeNumeral? rest).map fun p => (.numeral p.1, p.2)

def takeItems? : Nat → List Char → Option (List Form × List Char)
  | 0, _ => none
  | fuel + 1, s => do
    let (v, s) ← take? fuel s
    match skipSpace s with
    | ',' :: rest => do
      let (vs, rest) ← takeItems? fuel rest
      return (v :: vs, rest)
    | ']' :: rest => return ([v], rest)
    | _ => none

def takeMembers? : Nat → List Char → Option (List (List Piece × Form) × List Char)
  | 0, _ => none
  | fuel + 1, s => match skipSpace s with
    | '"' :: s => do
      let (name, s) ← takeText? s
      match skipSpace s with
      | ':' :: s => do
        let (v, s) ← take? fuel s
        match skipSpace s with
        | ',' :: rest => do
          let (ms, rest) ← takeMembers? fuel rest
          return ((name, v) :: ms, rest)
        | '\x7d' :: rest => return ([(name, v)], rest)
        | _ => none
      | _ => none
    | _ => none

end

/-- The form of a whole text. Every nested step reads a character, or is the one step from a list or
an object to its first value. -/
def ofText? (s : List Char) : Option Form :=
  match take? (2 * s.length + 2) s with
  | some (v, rest) => if (skipSpace rest).isEmpty then some v else none
  | none => none

end Form

end Rider.Json
