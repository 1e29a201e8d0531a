import Rider.Text.Blank
import Rider.Text.Lines
import Rider.Text.Numeral
set_option autoImplicit false

namespace Rider

structure Source where
  lines : List (List Char)
deriving DecidableEq

abbrev TextSpan := Nat × Nat

/-- The room for the carets of the spans: up to the greatest end of one. -/
def caretRoom (spans : List TextSpan) : Nat := spans.foldl (fun n s => max n s.2) 0

def placesWithin (room : Nat) (span : TextSpan) : List Nat :=
  List.range' span.1 (min span.2 room - span.1)

def markSpan {room : Nat} (marks : Vector Char room) (span : TextSpan) : Vector Char room :=
  (placesWithin room span).foldl (fun marks p => marks.setIfInBounds p '^') marks

/-- A caret under every character that some span holds, up to the last of them. -/
def underline (spans : List TextSpan) : List Char :=
  Text.trimEnd (spans.foldl markSpan (Vector.replicate (caretRoom spans) ' ')).toList

namespace Source

def ofText (text : String) : Source := ⟨Text.lines text.toList⟩

def size (s : Source) : Nat := s.lines.length

def line? (s : Source) : Nat → Option (List Char)
  | 0 => none
  | n + 1 => s.lines[n]?

/-- A text behind a gutter of `width` characters, with `label` right-aligned in the gutter. -/
def row (width : Nat) (label text : List Char) : List Char :=
  Text.padStart width label ++ [' ', '|', ' '] ++ text

/-- The lines at most `context` lines away from `line`, which need not be in the contract itself, each
with its number. After `line` comes its underline, if there are spans. -/
def excerptRows (s : Source) (line : Nat) (spans : List TextSpan) (context : Nat) : List (List Char) :=
  let first := max 1 (line - context)
  let last := min (Text.addCapped line context) (max s.size line)
  let width := (Text.digits last).length
  (List.range' first (last + 1 - first)).flatMap fun n =>
    let numbered := row width (Text.digits n) ((s.line? n).getD [])
    if n = line ∧ spans ≠ [] then [numbered, row width [] (underline spans)] else [numbered]

def listingRows (s : Source) : List (List Char) :=
  let width := (Text.digits s.size).length
  s.lines.mapIdx fun i text => row width (Text.digits (i + 1)) text

def textOfRows (rows : List (List Char)) : String :=
  String.ofList (rows.flatMap fun r => r ++ ['\n'])

def excerpt (s : Source) (line : Nat) (spans : List TextSpan) (context : Nat) : String :=
  textOfRows (s.excerptRows line spans context)

def listing (s : Source) : String := textOfRows s.listingRows

end Source

end Rider
