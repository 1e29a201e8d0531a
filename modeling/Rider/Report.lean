import Rider.Json.Basic
import Rider.Reading
import Rider.Source
set_option autoImplicit false

namespace Rider

/-- Puts `x` behind a list, unless the list has it already. -/
def addNew {α : Type} [DecidableEq α] (xs : List α) (x : α) : List α :=
  if x ∈ xs then xs else xs ++ [x]

def spanOrder (s t : TextSpan) : Bool := s.1 < t.1 || (s.1 == t.1 && s.2 ≤ t.2)

/-- The words expected at wrong tokens, per raw text of the token and in order of first occurrence. -/
def addWrong (raw : String) (expected : List String) :
    List (String × WordSet) → List (String × WordSet)
  | [] => [(raw, WordSet.ofList expected)]
  | (r, words) :: rest =>
    if r = raw then (r, expected.foldl (fun s w => s.insert w) words) :: rest
    else (r, words) :: addWrong raw expected rest

/-- Mismatches merged by what they say. -/
structure Findings where
  spans : List TextSpan
  wrong : List (String × WordSet)
  missing : WordSet
  extra : List String

namespace Findings

def empty : Findings := ⟨[], [], .empty, []⟩

def add (f : Findings) (m : Mismatch) : Findings :=
  let f := { f with spans := addNew f.spans m.span }
  match m with
  | .wrong t expected => { f with wrong := addWrong t.raw expected f.wrong }
  | .missing expected _ _ =>
    { f with missing := expected.foldl (fun s w => s.insert w) f.missing }
  | .extra t => { f with extra := addNew f.extra t.raw }

def ofMismatches (ms : List Mismatch) : Findings := ms.foldl add empty

def enumeration (words : List String) : String :=
  String.intercalate ", " (words.map Mismatch.inQuotes)

/-- One line per wrong token, one for all missing words, one for all extra tokens. -/
def lines (f : Findings) : List String :=
  f.wrong.map (fun p => "wrong: " ++ Mismatch.inQuotes p.1 ++ " may be " ++ enumeration p.2.words)
    ++ (if f.missing.words.isEmpty then [] else ["missing: " ++ enumeration f.missing.words])
    ++ (if f.extra.isEmpty then [] else ["extra: " ++ enumeration f.extra])

end Findings

/-- Writes data for the reader, or says why it cannot. -/
abbrev Layout := Data → Except String String

def Layout.textOf (layout : Layout) (data : Data) : String :=
  match layout data with
  | .ok text => text
  | .error e => "<heap not serializable: " ++ e ++ ">"

namespace Report

def unclosed (source : Source) (e : UnclosedQuote) (context : Nat) : String :=
  let t := e.token
  "LexError at line " ++ toString t.line ++ ": unclosed quote\n"
    ++ source.excerpt t.line [(t.start, t.stop)] context ++ "unclosed: " ++ t.raw ++ "\n"

/-- A line that is no statement: all mismatches of its verdict, merged. -/
def mismatched (source : Source) (v : Verdict) (context : Nat) : String :=
  let findings := Findings.ofMismatches v.mismatches
  let unregistered :=
    if v.readings.isEmpty && v.opening.isEmpty then "no statement is registered\n" else ""
  "ParseError at line " ++ toString v.line ++ ": invalid statement\n"
    ++ source.excerpt v.line (findings.spans.mergeSort spanOrder) context
    ++ unregistered
    ++ String.join (findings.lines.map fun l => l ++ "\n")

def contentSpan (line : List Char) : List TextSpan :=
  let leading := (line.takeWhile Text.isBlank).length
  if leading < line.length then [(leading, line.length)] else []

/-- A statement that failed while it ran, with the data of that moment if there are any to show. -/
def failed (layout : Layout) (source : Source) (line : Nat) (message : String) (heap : Option Data)
    (context : Nat) : String :=
  let dump := match heap with
    | some data => "heap:\n" ++ layout.textOf data ++ "\n"
    | none => ""
  "Error at line " ++ toString line ++ ": " ++ message ++ "\n"
    ++ source.excerpt line (contentSpan ((source.line? line).getD [])) context ++ dump

def interpreter (source : Source) (log : String) : String :=
  "Interpreter error\n" ++ source.listing ++ "logs:\n"
    ++ String.ofList (Text.trimEnd log.toList) ++ "\n"

end Report

end Rider
