import Rider.Text.LowerCase
set_option autoImplicit false

namespace Rider

/-- The characters `start ≤ i < stop` of a line. An identifier keeps its quotes in `raw`. -/
structure Token where
  -- The lower-cased `raw`, by which words are compared.
  name : String
  raw : String
  line : Nat
  start : Nat
  stop : Nat
deriving DecidableEq, Repr

namespace Token

def ofRaw (raw : List Char) (line start : Nat) : Token where
  name := String.ofList (Text.lowerCase raw)
  raw := String.ofList raw
  line := line
  start := start
  stop := start + raw.length

def isIdent (t : Token) : Bool :=
  match t.raw.toList with
  | '\'' :: _ => true
  | _ => false

def isWord (t : Token) (w : String) : Bool := !t.isIdent && t.name == w

end Token

structure TokenLine where
  tokens : List Token
  number : Nat
deriving DecidableEq, Repr

/-- Where a missing word would go: one space past the last token. -/
def TokenLine.nextColumn (l : TokenLine) : Nat :=
  match l.tokens.getLast? with
  | some t => t.stop + 1
  | none => 0

/-- A quote that nothing closes; the token runs from the quote to the end of the line. -/
structure UnclosedQuote where
  token : Token
deriving DecidableEq, Repr

def UnclosedQuote.message (e : UnclosedQuote) : String :=
  "line " ++ toString e.token.line ++ ": unclosed quote starting at column "
    ++ toString (e.token.start + 1)

end Rider
