import Rider.Reading
set_option autoImplicit false

/-!
Walking a line along a shape. The shape is spelt as a row of slots, each slot takes one token whether
it fits or not, and what does not fit is noted. A walk is given up once it has noted more mismatches
than a bound allows.
-/

namespace Rider

/-- What a shape has at one place of a line. -/
inductive Slot
  | word (w : String)
  -- The identifier of the clause.
  | target
  -- The name of a parameter that has not been sent yet.
  | param
  -- The identifier sent for the parameter before it.
  | value
deriving DecidableEq, Repr

namespace Slot

def identifier : String := "<identifier>"

def expected (waiting : WordSet) : Slot → List String
  | .word w => [w]
  | .target => [identifier]
  | .param => waiting.words
  | .value => [identifier]

def admits (waiting : WordSet) (t : Token) : Slot → Bool
  | .word w => t.isWord w
  | .target => t.isIdent
  | .param => !t.isIdent && decide (t.name ∈ waiting)
  | .value => t.isIdent

end Slot

def Clause.slots : Clause → List Slot
  | .absent => []
  | .opening => [.word "open", .target, .word "and"]
  | .connecting => [.word "connect", .word "to", .target, .word "and"]

/-- The four slots of each parameter; the parameters may come in any order. -/
def sendSlots : List Slot := [.word "send", .param, .value, .word "and"]

def Shape.slots (s : Shape) : List Slot :=
  s.clause.slots ++ s.params.words.flatMap (fun _ => sendSlots) ++ s.phrase.map .word

/-- How far a walk has come. -/
structure Walk where
  -- The parameters that have not been sent yet.
  waiting : WordSet
  -- The parameter that the last name slot accepted.
  named : Option String
  target : Option Token
  bindings : List (String × Token)
  mismatches : List Mismatch

namespace Walk

def start (s : Shape) : Walk := ⟨s.params, none, none, [], []⟩

def note (m : Mismatch) (w : Walk) : Walk := { w with mismatches := w.mismatches ++ [m] }

def accept (t : Token) (w : Walk) : Slot → Walk
  | .word _ => w
  | .target => { w with target := some t }
  | .param => { w with waiting := w.waiting.erase t.name, named := some t.name }
  | .value => match w.named with
    | some p => { w with bindings := w.bindings ++ [(p, t)] }
    | none => w

/-- Notes a mismatch; a name slot that is not filled leaves the next value unbound. -/
def refuse (m : Mismatch) (w : Walk) : Slot → Walk
  | .param => { w.note m with named := none }
  | _ => w.note m

def meet (line : TokenLine) (slot : Slot) (t : Option Token) (w : Walk) : Walk :=
  match t with
  | some t =>
    if slot.admits w.waiting t then w.accept t slot
    else w.refuse (.wrong t (slot.expected w.waiting)) slot
  | none => w.refuse (.missing (slot.expected w.waiting) line.number line.nextColumn) slot

/-- Gives up a walk with more mismatches than the bound; without a bound no walk is given up. -/
def within (bound : Option Nat) (w : Walk) : Option Walk :=
  match bound with
  | some n => if n < w.mismatches.length then none else some w
  | none => some w

/-- Walks along a row of slots; the tokens that are left come with the result. -/
def along (bound : Option Nat) (line : TokenLine) :
    List Slot → List Token → Walk → Option (Walk × List Token)
  | [], ts, w => some (w, ts)
  | slot :: slots, ts, w =>
    match (w.meet line slot ts.head?).within bound with
    | some w => along bound line slots ts.tail w
    | none => none

def noteAll (bound : Option Nat) : List Mismatch → Walk → Option Walk
  | [], w => some w
  | m :: ms, w => match (w.note m).within bound with
    | some w => noteAll bound ms w
    | none => none

end Walk

def strayWord (w : String) (t : Token) : List Mismatch :=
  if t.isWord w then [] else [.wrong t [w]]

/-- The tokens after the phrase. An identifier at the end of four or more of them is the output and
should follow the words of the output clause; everything else is left over. -/
def closing (rest : List Token) : List Mismatch × Option Token :=
  let front := rest.take (rest.length - 4)
  match rest.drop (rest.length - 4) with
  | [a, o, i, name] =>
    if name.isIdent then
      (front.map .extra ++ strayWord "and" a ++ strayWord "output" o ++ strayWord "into" i, some name)
    else (rest.map .extra, none)
  | _ => (rest.map .extra, none)

/-- The line read as a statement of the shape, given up above the bound. The first two tokens of a
line are not the shape's. -/
def Shape.read? (s : Shape) (bound : Option Nat) (line : TokenLine) : Option Reading :=
  match Walk.along bound line s.slots (line.tokens.drop 2) (.start s) with
  | none => none
  | some (w, rest) =>
    let (left, output) := closing rest
    (w.noteAll bound left).map fun w => ⟨s, w.bindings, w.target, output, w.mismatches⟩

end Rider
