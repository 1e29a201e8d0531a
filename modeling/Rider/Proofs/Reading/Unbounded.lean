import Rider.Reading.Judge

set_option autoImplicit false

namespace Rider

def passes (bound : Option Nat) (score : Nat) : Bool := bound.all fun n => decide (score ≤ n)

theorem passes_of_le {bound : Option Nat} {m n : Nat} (h : passes bound n = true) (hm : m ≤ n) :
    passes bound m = true := by
  cases bound with
  | none => rfl
  | some b =>
    simp only [passes, Option.all_some, decide_eq_true_eq] at h ⊢
    omega

theorem passes_zero (bound : Option Nat) : passes bound 0 = true := by
  cases bound <;> simp [passes]

def Slot.blame (line : TokenLine) (waiting : WordSet) (slot : Slot) : Option Token → List Mismatch
  | some t => if slot.admits waiting t then [] else [.wrong t (slot.expected waiting)]
  | none => [.missing (slot.expected waiting) line.number line.nextColumn]

namespace Walk

def score (w : Walk) : Nat := w.mismatches.length

/-- The walk along a row of slots to its end, however many mismatches it notes. -/
def run (line : TokenLine) : List Slot → List Token → Walk → Walk × List Token
  | [], ts, w => (w, ts)
  | slot :: slots, ts, w => run line slots ts.tail (w.meet line slot ts.head?)

def noteRest (ms : List Mismatch) (w : Walk) : Walk := { w with mismatches := w.mismatches ++ ms }

theorem accept_mismatches (w : Walk) (t : Token) (slot : Slot) :
    (w.accept t slot).mismatches = w.mismatches := by
  cases slot with
  | word | target | param => rfl
  | value =>
    simp only [accept]
    split <;> rfl

theorem refuse_mismatches (w : Walk) (m : Mismatch) (slot : Slot) :
    (w.refuse m slot).mismatches = w.mismatches ++ [m] := by
  cases slot <;> rfl

theorem meet_mismatches (w : Walk) (line : TokenLine) (slot : Slot) (t : Option Token) :
    (w.meet line slot t).mismatches = w.mismatches ++ slot.blame line w.waiting t := by
  cases t with
  | none => exact refuse_mismatches _ _ _
  | some t =>
    simp only [meet, Slot.blame]
    split
    · rw [accept_mismatches, List.append_nil]
    · exact refuse_mismatches _ _ _

theorem run_extends (line : TokenLine) (slots : List Slot) (ts : List Token) (w : Walk) :
    w.mismatches <+: (run line slots ts w).1.mismatches := by
  induction slots generalizing ts w with
  | nil => exact List.prefix_refl _
  | cons slot slots ih =>
    have step : w.mismatches <+: (w.meet line slot ts.head?).mismatches := by
      rw [meet_mismatches]
      exact List.prefix_append _ _
    exact step.trans (ih _ _)

theorem score_le_run (line : TokenLine) (slots : List Slot) (ts : List Token) (w : Walk) :
    w.score ≤ (run line slots ts w).1.score :=
  (run_extends line slots ts w).length_le

theorem within_eq (bound : Option Nat) (w : Walk) :
    w.within bound = if passes bound w.score then some w else none := by
  cases bound with
  | none => rfl
  | some n =>
    change (if n < w.score then none else some w) = if decide (w.score ≤ n) then some w else none
    by_cases h : n < w.score
    · have hn : ¬ decide (w.score ≤ n) = true := by simpa using h
      rw [if_pos h, if_neg hn]
    · have hp : decide (w.score ≤ n) = true := by simpa using h
      rw [if_neg h, if_pos hp]

theorem along_eq (bound : Option Nat) (line : TokenLine) (slots : List Slot) (ts : List Token)
    (w : Walk) (hw : passes bound w.score = true) :
    along bound line slots ts w =
      if passes bound (run line slots ts w).1.score then some (run line slots ts w) else none := by
  induction slots generalizing ts w with
  | nil => simp only [along, run, hw, if_true]
  | cons slot slots ih =>
    rw [along, within_eq, run]
    by_cases hm : passes bound (w.meet line slot ts.head?).score = true
    · rw [if_pos hm]
      exact ih _ _ hm
    · -- A walk that is given up here would only have gone further above the bound.
      have hr : ¬ passes bound
          (run line slots ts.tail (w.meet line slot ts.head?)).1.score = true :=
        fun hr => hm (passes_of_le hr (score_le_run _ _ _ _))
      rw [if_neg hm, if_neg hr]

theorem noteAll_eq (bound : Option Nat) (ms : List Mismatch) (w : Walk)
    (hw : passes bound w.score = true) :
    w.noteAll bound ms =
      if passes bound (w.noteRest ms).score then some (w.noteRest ms) else none := by
  induction ms generalizing w with
  | nil =>
    have same : w.noteRest [] = w := by simp only [noteRest, List.append_nil]
    rw [same, if_pos hw, noteAll]
  | cons m ms ih =>
    have same : (w.note m).noteRest ms = w.noteRest (m :: ms) := by
      simp only [noteRest, note, List.append_assoc, List.singleton_append]
    rw [noteAll, within_eq]
    by_cases hm : passes bound (w.note m).score = true
    · rw [if_pos hm, ← same]
      exact ih _ hm
    · have hle : (w.note m).score ≤ (w.noteRest (m :: ms)).score := by
        simp only [score, note, noteRest, List.length_append, List.length_cons, List.length_nil]
        omega
      have hr : ¬ passes bound (w.noteRest (m :: ms)).score = true :=
        fun hr => hm (passes_of_le hr hle)
      rw [if_neg hm, if_neg hr]

end Walk

def Shape.walk (s : Shape) (line : TokenLine) : Walk × List Token :=
  Walk.run line s.slots (line.tokens.drop 2) (.start s)

def Shape.reading (s : Shape) (line : TokenLine) : Reading where
  shape := s
  bindings := (s.walk line).1.bindings
  target := (s.walk line).1.target
  output := (closing (s.walk line).2).2
  mismatches := (s.walk line).1.mismatches ++ (closing (s.walk line).2).1

/-- A bound decides whether there is a reading, and never which one. -/
theorem Shape.read?_eq (s : Shape) (bound : Option Nat) (line : TokenLine) :
    s.read? bound line =
      if passes bound (s.reading line).score then some (s.reading line) else none := by
  have hstart : passes bound (Walk.start s).score = true := passes_zero bound
  have hend : ((s.walk line).1.noteRest (closing (s.walk line).2).1).score =
      (s.reading line).score := rfl
  rw [Shape.read?, Walk.along_eq bound line s.slots _ _ hstart]
  by_cases hw : passes bound (s.walk line).1.score = true
  · rw [← Shape.walk, if_pos hw]
    simp only
    rw [Walk.noteAll_eq _ _ _ hw, hend]
    split <;> rfl
  · have hle : (s.walk line).1.score ≤ (s.reading line).score := by
      simp only [Reading.score, Shape.reading, Walk.score, List.length_append]
      omega
    have hr : ¬ passes bound (s.reading line).score = true :=
      fun hr => hw (passes_of_le hr hle)
    rw [← Shape.walk, if_neg hw, if_neg hr]

theorem Shape.read?_none (s : Shape) (line : TokenLine) :
    s.read? none line = some (s.reading line) := by
  rw [Shape.read?_eq]
  rfl

end Rider
