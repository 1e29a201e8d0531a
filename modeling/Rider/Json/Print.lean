import Rider.Json.Basic
set_option autoImplicit false

namespace Rider.Json

/-- A quote, a backslash or a control character is escaped, every other character stands for itself. -/
def escapedChar : Char → List Char
  | '"' => ['\\', '"']
  | '\\' => ['\\', '\\']
  | '\x08' => ['\\', 'b']
  | '\x0c' => ['\\', 'f']
  | '\n' => ['\\', 'n']
  | '\r' => ['\\', 'r']
  | '\t' => ['\\', 't']
  | c =>
    if c.toNat < 0x10 then ['\\', 'u', '0', '0', '0'] ++ Nat.toDigits 16 c.toNat
    else if c.toNat < 0x20 then ['\\', 'u', '0', '0'] ++ Nat.toDigits 16 c.toNat
    else [c]

def literal (s : String) : String := String.ofList ('"' :: s.toList.flatMap escapedChar ++ ['"'])

mutual

def compact : Json → String
  | .null => "null"
  | .bool b => if b then "true" else "false"
  | .number n => String.ofList n.text
  | .text s => literal s
  | .list items => "[" ++ compactItems items ++ "]"
  | .object members => "\x7b" ++ compactMembers members ++ "\x7d"

def compactItems : List Json → String
  | [] => ""
  | [v] => compact v
  | v :: rest => compact v ++ "," ++ compactItems rest

def compactMembers : List (String × Json) → String
  | [] => ""
  | [(k, v)] => literal k ++ ":" ++ compact v
  | (k, v) :: rest => literal k ++ ":" ++ compact v ++ "," ++ compactMembers rest

end

def indent (depth : Nat) : String := String.ofList (List.replicate (2 * depth) ' ')

mutual

/-- Each item and member on a line of its own, two spaces deeper than what holds it. -/
def pretty (depth : Nat) : Json → String
  | .list [] => "[]"
  | .list items => "[\n" ++ prettyItems (depth + 1) items ++ "\n" ++ indent depth ++ "]"
  | .object [] => "\x7b\x7d"
  | .object members =>
    "\x7b\n" ++ prettyMembers (depth + 1) members ++ "\n" ++ indent depth ++ "\x7d"
  | .null => "null"
  | .bool b => if b then "true" else "false"
  | .number n => String.ofList n.text
  | .text s => literal s

def prettyItems (depth : Nat) : List Json → String
  | [] => ""
  | [v] => indent depth ++ pretty depth v
  | v :: rest => indent depth ++ pretty depth v ++ ",\n" ++ prettyItems depth rest

def prettyMembers (depth : Nat) : List (String × Json) → String
  | [] => ""
  | [(k, v)] => indent depth ++ literal k ++ ": " ++ pretty depth v
  | (k, v) :: rest =>
    indent depth ++ literal k ++ ": " ++ pretty depth v ++ ",\n" ++ prettyMembers depth rest

end

def layout (data : Data) : Except String String := .ok ((object data).pretty 0)

end Rider.Json
