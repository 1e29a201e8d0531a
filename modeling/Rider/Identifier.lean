import Rider.Text.Numeral
set_option autoImplicit false

namespace Rider.Identifier

def letterEscape? : Char → Option Char
  | '\'' => some '\''
  | '"' => some '"'
  | '\\' => some '\\'
  | '/' => some '/'
  | 'n' => some '\n'
  | 't' => some '\t'
  | 'r' => some '\r'
  | 'b' => some '\x08'
  | 'f' => some '\x0c'
  | _ => none

def scalar? (hex : List Char) : Option Char := (Text.number? 16 hex).bind Text.charOf?

/-- Decodes the escapes from left to right; what is decoded is not read again. -/
def decode : List Char → List Char
  | [] => []
  | '\\' :: 'u' :: a :: b :: c :: d :: rest =>
    match scalar? [a, b, c, d] with
    | some ch => ch :: decode rest
    | none => '\\' :: 'u' :: decode (a :: b :: c :: d :: rest)
  | '\\' :: e :: rest =>
    match letterEscape? e with
    | some ch => ch :: decode rest
    | none => '\\' :: e :: decode rest
  | c :: rest => c :: decode rest
termination_by s => s.length
decreasing_by
  all_goals simp only [List.length_cons]
  all_goals omega

def stripQuotes (s : List Char) : List Char :=
  match s with
  | '\'' :: rest => if rest.getLast? = some '\'' then rest.dropLast else s
  | _ => s

end Identifier

/-- The text that a quoted identifier stands for. -/
def unquote (raw : String) : String :=
  String.ofList (Identifier.decode (Identifier.stripQuotes raw.toList))

end Rider
