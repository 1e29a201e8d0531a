import Rider.Text.Numeral
set_option autoImplicit false

/-!
Settings documents: lines that give a name a whole number, a truth value or a text, blank lines and
comments. A document with anything else, such as a table, a list, a fraction or a date, is none.
-/

namespace Rider.Config

inductive Setting
  | integer (value : Int)
  | bool (value : Bool)
  | text (value : String)
deriving DecidableEq, Repr

namespace Setting

def isSpace (c : Char) : Bool := c == ' ' || c == '\t'

def skipSpace (s : List Char) : List Char := s.dropWhile isSpace

def takeNewline? : List Char → Option (List Char)
  | '\n' :: rest => some rest
  | '\r' :: '\n' :: rest => some rest
  | _ => none

/-- Whether a character may stand for itself in comments and texts: no control except the tab. -/
def isPlain (c : Char) : Bool := c == '\t' || (0x20 ≤ c.toNat && c.toNat ≠ 0x7f)

def isNameChar (c : Char) : Bool := c.isAlphanum || c == '_' || c == '-'

def scalar? (size : Nat) (hex : List Char) : Option Char :=
  if hex.length = size then (Text.digitsValue? 16 0 hex).bind Text.charOf? else none

def takeEscape? : List Char → Option (Char × List Char)
  | '"' :: rest => some ('"', rest)
  | '\\' :: rest => some ('\\', rest)
  | 'b' :: rest => some ('\x08', rest)
  | 'f' :: rest => some ('\x0c', rest)
  | 'n' :: rest => some ('\n', rest)
  | 'r' :: rest => some ('\r', rest)
  | 't' :: rest => some ('\t', rest)
  | 'u' :: rest => (scalar? 4 (rest.take 4)).map fun c => (c, rest.drop 4)
  | 'U' :: rest => (scalar? 8 (rest.take 8)).map fun c => (c, rest.drop 8)
  | _ => none

def takeBasic? : Nat → List Char → Option (List Char × List Char)
  | 0, _ => none
  | fuel + 1, s => match s with
    | [] => none
    | '"' :: rest => some ([], rest)
    | '\\' :: rest => do
      let (c, rest) ← takeEscape? rest
      let (cs, rest) ← takeBasic? fuel rest
      return (c :: cs, rest)
    | c :: rest =>
      if isPlain c then do
        let (cs, rest) ← takeBasic? fuel rest
        return (c :: cs, rest)
      else none

def takeLiteral? : List Char → Option (List Char × List Char)
  | [] => none
  | '\'' :: rest => some ([], rest)
  | c :: rest =>
    if isPlain c then (takeLiteral? rest).map fun p => (c :: p.1, p.2) else none

/-- Three quotes close a text of several lines; one or two more before them belong to the text. -/
def takeClosing? (quote : Char) (s : List Char) : Option (List Char × List Char) :=
  let run := s.takeWhile (· == quote)
  if 3 ≤ run.length then
    let inside := min (run.length - 3) 2
    some (List.replicate inside quote, s.drop (inside + 3))
  else none

def skipLines : Nat → List Char → List Char
  | 0, s => s
  | fuel + 1, s => match takeNewline? (skipSpace s) with
    | some rest => skipLines fuel rest
    | none => skipSpace s

def takeContinuation? (s : List Char) : Option (List Char) :=
  (takeNewline? (skipSpace s)).map fun rest => skipLines (rest.length + 1) rest

def takeBasicLines? : Nat → List Char → Option (List Char × List Char)
  | 0, _ => none
  | fuel + 1, s => match s with
    | [] => none
    | '"' :: rest => match takeClosing? '"' ('"' :: rest) with
      | some p => some p
      | none => (takeBasicLines? fuel rest).map fun p => ('"' :: p.1, p.2)
    | '\\' :: rest => match takeContinuation? rest with
      | some rest => takeBasicLines? fuel rest
      | none => do
        let (c, rest) ← takeEscape? rest
        let (cs, rest) ← takeBasicLines? fuel rest
        return (c :: cs, rest)
    | c :: rest => match takeNewline? (c :: rest) with
      | some rest => (takeBasicLines? fuel rest).map fun p => ('\n' :: p.1, p.2)
      | none =>
        if isPlain c then (takeBasicLines? fuel rest).map fun p => (c :: p.1, p.2) else none

def takeLiteralLines? : Nat → List Char → Option (List Char × List Char)
  | 0, _ => none
  | fuel + 1, s => match s with
    | [] => none
    | '\'' :: rest => match takeClosing? '\'' ('\'' :: rest) with
      | some p => some p
      | none => (takeLiteralLines? fuel rest).map fun p => ('\'' :: p.1, p.2)
    | c :: rest => match takeNewline? (c :: rest) with
      | some rest => (takeLiteralLines? fuel rest).map fun p => ('\n' :: p.1, p.2)
      | none =>
        if isPlain c then (takeLiteralLines? fuel rest).map fun p => (c :: p.1, p.2) else none

def dropFirstNewline (s : List Char) : List Char := (takeNewline? s).getD s

def takeText? : List Char → Option (List Char × List Char)
  | '"' :: '"' :: '"' :: rest => takeBasicLines? (rest.length + 1) (dropFirstNewline rest)
  | '"' :: rest => takeBasic? (rest.length + 1) rest
  | '\'' :: '\'' :: '\'' :: rest => takeLiteralLines? (rest.length + 1) (dropFirstNewline rest)
  | '\'' :: rest => takeLiteral? rest
  | _ => none

/-- Digits of a base; an underscore may stand between two of them. -/
def takeDigits? (base : Nat) : List Char → Option (List Char × List Char)
  | [] => none
  | [c] => if (Text.digitValue? base c).isSome then some ([c], []) else none
  | c :: '_' :: rest =>
    if (Text.digitValue? base c).isSome then
      (takeDigits? base rest).map fun p => (c :: p.1, p.2)
    else none
  | c :: d :: rest =>
    if (Text.digitValue? base c).isSome then
      if (Text.digitValue? base d).isSome then
        (takeDigits? base (d :: rest)).map fun p => (c :: p.1, p.2)
      else some ([c], d :: rest)
    else none

def maxInteger : Nat := 9223372036854775807

def takeBased? (base : Nat) (s : List Char) : Option (Int × List Char) := do
  let (ds, rest) ← takeDigits? base s
  let n ← Text.digitsValue? base 0 ds
  if n ≤ maxInteger then some (n, rest) else none

def takeDecimal? (negative : Bool) (s : List Char) : Option (Int × List Char) :=
  match s with
  | '0' :: rest => some (0, rest)
  | _ => do
    let (ds, rest) ← takeDigits? 10 s
    let n ← Text.digitsValue? 10 0 ds
    if negative then
      if n ≤ maxInteger + 1 then some (-(n : Int), rest) else none
    else if n ≤ maxInteger then some (n, rest) else none

def takeInteger? : List Char → Option (Int × List Char)
  | '0' :: 'x' :: rest => takeBased? 16 rest
  | '0' :: 'o' :: rest => takeBased? 8 rest
  | '0' :: 'b' :: rest => takeBased? 2 rest
  | '-' :: rest => takeDecimal? true rest
  | '+' :: rest => takeDecimal? false rest
  | s => takeDecimal? false s

def take? : List Char → Option (Setting × List Char)
  | 't' :: 'r' :: 'u' :: 'e' :: rest => some (.bool true, rest)
  | 'f' :: 'a' :: 'l' :: 's' :: 'e' :: rest => some (.bool false, rest)
  | s => match s with
    | '"' :: _ => (takeText? s).map fun p => (.text (String.ofList p.1), p.2)
    | '\'' :: _ => (takeText? s).map fun p => (.text (String.ofList p.1), p.2)
    | _ => (takeInteger? s).map fun p => (.integer p.1, p.2)

def takeName? : List Char → Option (List Char × List Char)
  | '"' :: rest => takeBasic? (rest.length + 1) rest
  | '\'' :: rest => takeLiteral? rest
  | s =>
    let name := s.takeWhile isNameChar
    if name.isEmpty then none else some (name, s.dropWhile isNameChar)

def takeLineEnd? (s : List Char) : Option (List Char) :=
  let s := match skipSpace s with
    | '#' :: rest => rest.dropWhile isPlain
    | rest => rest
  if s.isEmpty then some [] else takeNewline? s

def takeAssignment? (s : List Char) : Option ((String × Setting) × List Char) := do
  let (name, s) ← takeName? s
  match skipSpace s with
  | '=' :: s => do
    let (value, s) ← take? (skipSpace s)
    return ((String.ofList name, value), s)
  | _ => none

def takeAll? : Nat → List Char → Option (List (String × Setting))
  | 0, _ => none
  | fuel + 1, s =>
    match takeLineEnd? s with
    | some [] => some []
    | some rest => takeAll? fuel rest
    | none => do
      let (setting, s) ← takeAssignment? (skipSpace s)
      match ← takeLineEnd? s with
      | [] => return [setting]
      | rest => return setting :: (← takeAll? fuel rest)

/-- The settings of a document, which may begin with a byte order mark. -/
def ofText? (text : String) : Option (List (String × Setting)) :=
  let s := match text.toList with
    | '\ufeff' :: rest => rest
    | s => s
  takeAll? (s.length + 1) s

end Setting

end Rider.Config
