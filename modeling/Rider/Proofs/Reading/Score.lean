import Rider.Proofs.Lists
import Rider.Proofs.Reading.Unbounded

set_option autoImplicit false

/-!
What makes up the score of a reading. Which name slot is blamed depends on the names before it, but how many
are blamed does not: a name slot either strikes off a parameter that waits or adds to the score, and there are
as many name slots as parameters. So the names cost as much as there are parameters that nothing names, and
every other slot costs what it costs alone.
-/

namespace Rider

namespace WordSet

def without (names : List String) (s : WordSet) : WordSet :=
  ⟨s.words.filter fun w => decide (w ∉ names), s.ascending.filter _⟩

theorem without_nil (s : WordSet) : s.without [] = s := by
  have all : s.words.filter (fun w => decide (w ∉ [])) = s.words :=
    List.filter_eq_self.2 fun _ _ => rfl
  simp only [without, all]

theorem without_without (s : WordSet) (xs ys : List String) :
    (s.without xs).without ys = s.without (xs ++ ys) := by
  simp only [without, List.filter_filter, List.mem_append, not_or, mk.injEq]
  apply List.filter_congr
  intro w _
  rw [Bool.and_comm, Bool.decide_and]

theorem without_congr {xs ys : List String} (h : ∀ w, w ∈ xs ↔ w ∈ ys) (s : WordSet) :
    s.without xs = s.without ys := by
  simp only [without, h]

theorem without_of_not_mem {s : WordSet} {w : String} (h : w ∉ s) : s.without [w] = s := by
  have same : s.words.filter (fun v => decide (v ∉ [w])) = s.words := by
    apply List.filter_eq_self.2
    intro v hv
    have hne : v ≠ w := fun heq => h (heq ▸ hv)
    simpa using hne
  simp only [without, same]

theorem erase_eq_without (s : WordSet) (w : String) : s.erase w = s.without [w] := by
  simp only [erase, without, s.nodup_words.erase_eq_filter, mk.injEq]
  apply List.filter_congr
  intro v _
  by_cases h : v = w <;> simp [h]

theorem size_without_le (s : WordSet) (names : List String) : (s.without names).size ≤ s.size :=
  List.length_filter_le _ _

theorem size_of_mem {s : WordSet} {w : String} (h : w ∈ s) : s.size = (s.without [w]).size + 1 := by
  have hpos : 0 < s.size := List.length_pos_of_mem h
  have herase : (s.erase w).size = s.size - 1 := List.length_erase_of_mem h
  rw [← erase_eq_without, herase]
  omega

theorem size_le_of_without_singleton (s : WordSet) (w : String) :
    s.size ≤ (s.without [w]).size + 1 := by
  by_cases h : w ∈ s
  · exact Nat.le_of_eq (size_of_mem h)
  · rw [without_of_not_mem h]
    exact Nat.le_succ _

end WordSet

namespace Slot

/-- The slot has something against the token alone. A name slot never has: what it admits depends on the names
before it. -/
def misfit : Slot → Option Token → Bool
  | .param, _ => false
  | _, none => true
  | slot, some t => !slot.admits .empty t

def offered : Slot → Option Token → List String
  | .param, some t => if t.isIdent then [] else [t.name]
  | _, _ => []

theorem offered_of_ne {slot : Slot} (h : slot ≠ .param) (t : Option Token) : slot.offered t = [] := by
  cases slot with
  | param => exact absurd rfl h
  | word | target | value => rfl

theorem admits_of_ne {slot : Slot} (h : slot ≠ .param) (waiting : WordSet) (t : Token) :
    slot.admits waiting t = slot.admits .empty t := by
  cases slot with
  | param => exact absurd rfl h
  | word | target | value => rfl

theorem blame_length_of_ne {slot : Slot} (h : slot ≠ .param) (line : TokenLine) (waiting : WordSet)
    (t : Option Token) : (slot.blame line waiting t).length = (slot.misfit t).toNat := by
  cases t with
  | none =>
    cases slot with
    | param => exact absurd rfl h
    | word | target | value => rfl
  | some t =>
    rw [blame, admits_of_ne h, misfit]
    · cases slot.admits .empty t <;> rfl
    · exact h

theorem blame_param_length (line : TokenLine) (waiting : WordSet) (t : Option Token) :
    (param.blame line waiting t).length + waiting.size =
      1 + (waiting.without (param.offered t)).size := by
  cases t with
  | none => simp [blame, offered, WordSet.without_nil]
  | some t =>
    by_cases hi : t.isIdent = true
    · simp [blame, admits, offered, hi, WordSet.without_nil]
    · by_cases hw : t.name ∈ waiting
      · have hsize := WordSet.size_of_mem hw
        simp only [blame, admits, offered, hi, hw, Bool.not_false, decide_true, Bool.and_self,
          Bool.false_eq_true, if_true, if_false, List.length_nil]
        omega
      · simp [blame, admits, offered, hi, hw, WordSet.without_of_not_mem hw]

end Slot

def paired : List Slot → List Token → List (Slot × Option Token)
  | [], _ => []
  | slot :: slots, ts => (slot, ts.head?) :: paired slots ts.tail

theorem paired_append {xs : List Slot} {ps : List Token} (h : xs.length = ps.length)
    (ys : List Slot) (qs : List Token) : paired (xs ++ ys) (ps ++ qs) = paired xs ps ++ paired ys qs := by
  induction xs generalizing ps with
  | nil =>
    obtain rfl := List.length_eq_zero_iff.1 h.symm
    rfl
  | cons x xs ih =>
    obtain _ | ⟨p, ps⟩ := ps
    · simp at h
    · exact congrArg ((x, some p) :: ·) (ih (Nat.succ.inj h))

theorem paired_take (slots : List Slot) (ts : List Token) :
    paired slots (ts.take slots.length) = paired slots ts := by
  induction slots generalizing ts with
  | nil => rfl
  | cons slot slots ih =>
    cases ts with
    | nil => rfl
    | cons t ts => exact congrArg ((slot, some t) :: ·) (ih ts)

def misfits (slots : List Slot) (ts : List Token) : Nat :=
  (paired slots ts).countP fun p => p.1.misfit p.2

def offers (slots : List Slot) (ts : List Token) : List String :=
  (paired slots ts).flatMap fun p => p.1.offered p.2

theorem misfits_cons (slot : Slot) (slots : List Slot) (ts : List Token) :
    misfits (slot :: slots) ts = (slot.misfit ts.head?).toNat + misfits slots ts.tail := by
  rw [misfits, paired, List.countP_cons, Nat.add_comm]
  cases slot.misfit ts.head? <;> rfl

theorem offers_cons (slot : Slot) (slots : List Slot) (ts : List Token) :
    offers (slot :: slots) ts = slot.offered ts.head? ++ offers slots ts.tail := by
  simp only [offers, paired, List.flatMap_cons]

namespace Walk

theorem refuse_waiting (w : Walk) (m : Mismatch) (slot : Slot) :
    (w.refuse m slot).waiting = w.waiting := by
  cases slot <;> rfl

theorem accept_waiting_of_ne {slot : Slot} (h : slot ≠ .param) (w : Walk) (t : Token) :
    (w.accept t slot).waiting = w.waiting := by
  cases slot with
  | param => exact absurd rfl h
  | word | target => rfl
  | value =>
    simp only [accept]
    split <;> rfl

theorem meet_waiting (w : Walk) (line : TokenLine) (slot : Slot) (t : Option Token) :
    (w.meet line slot t).waiting = w.waiting.without (slot.offered t) := by
  cases t with
  | none =>
    have nothing : slot.offered none = [] := by cases slot <;> rfl
    rw [nothing, WordSet.without_nil]
    exact refuse_waiting _ _ _
  | some t =>
    simp only [meet]
    by_cases h : slot = .param
    · subst h
      by_cases hi : t.isIdent = true
      · simp [Slot.admits, Slot.offered, hi, refuse_waiting, WordSet.without_nil]
      · by_cases hw : t.name ∈ w.waiting
        · simp [Slot.admits, Slot.offered, hi, hw, accept, WordSet.erase_eq_without]
        · simp [Slot.admits, Slot.offered, hi, hw, refuse_waiting, WordSet.without_of_not_mem hw]
    · rw [Slot.offered_of_ne h, WordSet.without_nil]
      split
      · exact accept_waiting_of_ne h w t
      · exact refuse_waiting _ _ _

/-- At a name slot the score and the number of parameters that wait come one nearer to each other, whatever
token stands there. -/
theorem meet_score (w : Walk) (line : TokenLine) (slot : Slot) (t : Option Token) :
    (w.meet line slot t).score + w.waiting.size =
      w.score + (slot.misfit t).toNat + [slot].count .param + (w.meet line slot t).waiting.size := by
  rw [meet_waiting, score, meet_mismatches, List.length_append, ← score, List.count_singleton]
  by_cases h : slot = .param
  · subst h
    have hname := Slot.blame_param_length line w.waiting t
    have hnone : (Slot.param.misfit t).toNat = 0 := rfl
    simp only [beq_self_eq_true, if_true]
    omega
  · rw [Slot.offered_of_ne h, WordSet.without_nil, Slot.blame_length_of_ne h]
    simp only [beq_iff_eq, h, if_false]
    omega

theorem run_waiting (w : Walk) (line : TokenLine) (slots : List Slot) (ts : List Token) :
    (run line slots ts w).1.waiting = w.waiting.without (offers slots ts) := by
  induction slots generalizing ts w with
  | nil => exact (WordSet.without_nil _).symm
  | cons slot slots ih => rw [run, ih, meet_waiting, WordSet.without_without, offers_cons]

theorem run_score (w : Walk) (line : TokenLine) (slots : List Slot) (ts : List Token) :
    (run line slots ts w).1.score + w.waiting.size =
      w.score + misfits slots ts + slots.count .param + (run line slots ts w).1.waiting.size := by
  induction slots generalizing ts w with
  | nil => rfl
  | cons slot slots ih =>
    have hfirst := meet_score w line slot ts.head?
    have hrest := ih (w.meet line slot ts.head?) ts.tail
    rw [List.count_cons, run, misfits_cons]
    rw [List.count_singleton] at hfirst
    omega

theorem run_rest (w : Walk) (line : TokenLine) (slots : List Slot) (ts : List Token) :
    (run line slots ts w).2 = ts.drop slots.length := by
  induction slots generalizing ts w with
  | nil => rfl
  | cons slot slots ih => rw [run, ih, List.drop_tail, List.length_cons]

end Walk

theorem closing_of_short {rest : List Token} (h : rest.length < 4) :
    closing rest = (rest.map .extra, none) := by
  unfold closing
  simp only
  split
  · rename_i hlast
    have := congrArg List.length hlast
    simp only [List.length_drop, List.length_cons, List.length_nil] at this
    omega
  · rfl

theorem closing_append (front : List Token) (a o i x : Token) :
    closing (front ++ [a, o, i, x]) =
      if x.isIdent then
        (front.map .extra ++ strayWord "and" a ++ strayWord "output" o ++ strayWord "into" i, some x)
      else ((front ++ [a, o, i, x]).map .extra, none) := by
  have hlen : (front ++ [a, o, i, x]).length - 4 = front.length := by
    rw [List.length_append]
    exact Nat.add_sub_cancel _ 4
  simp only [closing, hlen, List.take_left, List.drop_left]

def outputSlots : List Slot := [.word "and", .word "output", .word "into"]

theorem strayWord_length (w : String) (t : Token) :
    (strayWord w t).length = ((Slot.word w).misfit (some t)).toNat := by
  by_cases h : t.isWord w = true <;> simp [strayWord, Slot.misfit, Slot.admits, h]

theorem closing_length (rest : List Token) :
    (closing rest).1.length =
      if 4 ≤ rest.length ∧ rest.getLast?.any Token.isIdent then
        rest.length - 4 + misfits outputSlots (rest.drop (rest.length - 4))
      else rest.length := by
  by_cases hlen : 4 ≤ rest.length
  · obtain ⟨front, a, o, i, x, rfl⟩ := exists_last_four hlen
    have hfront : (front ++ [a, o, i, x]).length - 4 = front.length := by
      rw [List.length_append]
      exact Nat.add_sub_cancel _ 4
    have hlast : (front ++ [a, o, i, x]).getLast? = some x := by simp
    rw [closing_append, hlast, hfront, List.drop_left]
    by_cases hx : x.isIdent = true
    · have hnil : misfits [] [x] = 0 := rfl
      rw [if_pos hx, if_pos ⟨hlen, hx⟩]
      simp only [outputSlots, misfits_cons, List.head?_cons, List.tail_cons, hnil, List.length_append,
        List.length_map, strayWord_length]
      omega
    · rw [if_neg hx, if_neg (fun h => hx h.2), List.length_map]
  · rw [closing_of_short (by omega), if_neg (fun h => hlen h.1), List.length_map]

def Clause.width : Clause → Nat
  | .absent => 0
  | .opening => 3
  | .connecting => 4

def Shape.width (s : Shape) : Nat := s.clause.width + 4 * s.params.size + s.phrase.length

theorem Clause.slots_length (c : Clause) : c.slots.length = c.width := by
  cases c <;> rfl

theorem length_sends (ps : List String) : (ps.flatMap fun _ => sendSlots).length = 4 * ps.length := by
  induction ps with
  | nil => rfl
  | cons p ps ih =>
    rw [List.flatMap_cons, List.length_append, ih, List.length_cons]
    change 4 + 4 * ps.length = _
    omega

theorem count_param_sends (ps : List String) :
    (ps.flatMap fun _ => sendSlots).count .param = ps.length := by
  induction ps with
  | nil => rfl
  | cons p ps ih =>
    rw [List.flatMap_cons, List.count_append, ih, List.length_cons, Nat.add_comm]
    rfl

theorem Shape.slots_length (s : Shape) : s.slots.length = s.width := by
  rw [slots, List.length_append, List.length_append, Clause.slots_length, length_sends,
    List.length_map]
  rfl

theorem Shape.count_param_slots (s : Shape) : s.slots.count .param = s.params.size := by
  have hclause : s.clause.slots.count .param = 0 := by cases s.clause <;> rfl
  have hphrase : (s.phrase.map Slot.word).count .param = 0 := by
    apply List.count_eq_zero.2
    simp
  rw [slots, List.count_append, List.count_append, hclause, hphrase, count_param_sends]
  exact Nat.zero_add _

theorem Shape.walk_rest (s : Shape) (line : TokenLine) :
    (s.walk line).2 = (line.tokens.drop 2).drop s.width := by
  rw [← s.slots_length]
  exact Walk.run_rest _ _ _ _

/-- The score of a reading, place by place: what the slots cost alone, the parameters that nothing names, and
what is left over. -/
theorem Shape.reading_score (s : Shape) (line : TokenLine) :
    (s.reading line).score = misfits s.slots (line.tokens.drop 2) +
      (s.params.without (offers s.slots (line.tokens.drop 2))).size +
      (closing ((line.tokens.drop 2).drop s.width)).1.length := by
  have hscore := Walk.run_score (.start s) line s.slots (line.tokens.drop 2)
  rw [Walk.run_waiting, s.count_param_slots] at hscore
  have hstart : (Walk.start s).score = 0 := rfl
  have hwaiting : (Walk.start s).waiting = s.params := rfl
  have hsplit : (s.reading line).score = (s.walk line).1.score + (closing (s.walk line).2).1.length :=
    List.length_append
  rw [hsplit, s.walk_rest line, walk]
  rw [hwaiting] at hscore
  omega

end Rider
