import Rider.Proofs.Lists
import Rider.Proofs.Reading.Account
import Rider.Proofs.Reading.Verdict
import Rider.Proofs.Statement.Resolution

set_option autoImplicit false

/-!
Names and bindings of any reading, clean or not. A name slot takes the name of a parameter that no name slot
before it has taken, and blames every other token; what it takes is bound to the identifier behind it.
-/

namespace Rider

/-- What might stand where the mismatch is; nothing can be said of a token that is left over. -/
def Mismatch.expected : Mismatch → List String
  | .wrong _ words => words
  | .missing words _ _ => words
  | .extra _ => []

def WordSet.named? (s : WordSet) (t : Token) : Option String :=
  if t.isIdent = false ∧ t.name ∈ s then some t.name else none

/-- A token at the place names the parameter, and the identifier sent for it stands right behind. -/
structure SentAt (line : TokenLine) (b : String × Token) (place : Nat) : Prop where
  named : ∃ n, line.tokens[place]? = some n ∧ n.isIdent = false ∧ n.name = b.1
  sent : line.tokens[place + 1]? = some b.2 ∧ b.2.isIdent = true

namespace Shape

variable (s : Shape) (line : TokenLine)

/-- The slot of the `k`-th parameter name. -/
def nameSlot (k : Nat) : Nat := s.clause.width + 4 * k + 1

def taken : Nat → List String
  | 0 => []
  | k + 1 => taken k ++
    (line.tokens[2 + s.nameSlot k]?.bind (s.params.without (taken k)).named?).toList

def name? (k : Nat) : Option String :=
  line.tokens[2 + s.nameSlot k]?.bind (s.params.without (s.taken line k)).named?

def bound? (k : Nat) : Option (String × Token) :=
  (s.name? line k).bind fun p =>
    (line.tokens[2 + s.nameSlot k + 1]?.filter Token.isIdent).map fun x => (p, x)

def walkTo (j : Nat) : Walk := (Walk.run line (s.slots.take j) (line.tokens.drop 2) (.start s)).1

def noted (j : Nat) : List Mismatch := (s.walkTo line (j + 1)).mismatches.drop (s.walkTo line j).score

end Shape

/-- At the `k`-th name slot just the parameters of `free` can be named, and every other token is blamed once,
with them as the proposal. -/
structure Shape.FreeAt (s : Shape) (line : TokenLine) (k : Nat) (free : List String) : Prop where
  ne_nil : free ≠ []
  ascending : free.Pairwise (· < ·)
  mem_iff : ∀ p, p ∈ free ↔ p ∈ s.params ∧ p ∉ s.taken line k
  blamed_iff : s.noted line (s.nameSlot k) ≠ [] ↔
    ∀ t, line.tokens[2 + s.nameSlot k]? = some t → t.isIdent = true ∨ t.name ∉ free
  proposal : s.noted line (s.nameSlot k) = [] ∨
    ∃ m, s.noted line (s.nameSlot k) = [m] ∧ m.expected = free

theorem WordSet.named?_eq_some {s : WordSet} {t : Token} {p : String} :
    s.named? t = some p ↔ t.isIdent = false ∧ t.name = p ∧ p ∈ s := by
  simp only [named?, Option.ite_none_right_eq_some, Option.some.injEq]
  constructor
  · rintro ⟨⟨hi, hmem⟩, rfl⟩
    exact ⟨hi, rfl, hmem⟩
  · rintro ⟨hi, rfl, hmem⟩
    exact ⟨⟨hi, hmem⟩, rfl⟩

theorem WordSet.mem_without {s : WordSet} {names : List String} {p : String} :
    p ∈ s.without names ↔ p ∈ s ∧ p ∉ names :=
  List.mem_filter.trans (and_congr_right fun _ => decide_eq_true_iff)

theorem WordSet.without_offered (s : WordSet) (t : Option Token) :
    s.without (Slot.param.offered t) = s.without (t.bind s.named?).toList := by
  cases t with
  | none => rfl
  | some t =>
    simp only [Slot.offered, Option.bind_some, named?]
    by_cases hi : t.isIdent = true
    · simp [hi]
    · by_cases hmem : t.name ∈ s
      · simp [hi, hmem]
      · simp [hi, hmem, without_of_not_mem hmem, without_nil]

theorem Slot.expected_of_mem_blame {slot : Slot} {line : TokenLine} {waiting : WordSet}
    {t : Option Token} {m : Mismatch} (h : m ∈ slot.blame line waiting t) :
    m.expected = slot.expected waiting := by
  cases t with
  | none =>
    rw [List.mem_singleton.1 h]
    rfl
  | some t =>
    simp only [blame] at h
    split at h
    · exact absurd h List.not_mem_nil
    · rw [List.mem_singleton.1 h]
      rfl

theorem Slot.blame_param (line : TokenLine) (waiting : WordSet) (t : Option Token) :
    (param.blame line waiting t ≠ [] ↔ ∀ u, t = some u → u.isIdent = true ∨ u.name ∉ waiting) ∧
      (param.blame line waiting t = [] ∨
        ∃ m, param.blame line waiting t = [m] ∧ m.expected = waiting.words) := by
  cases t with
  | none => simp [blame, expected, Mismatch.expected]
  | some t =>
    by_cases hi : t.isIdent = true
    · simp [blame, admits, expected, Mismatch.expected, hi]
    · by_cases hmem : t.name ∈ waiting
      · simp [blame, admits, hi, hmem]
      · simp [blame, admits, expected, Mismatch.expected, hi, hmem]

theorem closing_expected {rest : List Token} {m : Mismatch} (h : m ∈ (closing rest).1) :
    m.expected ≠ [] ∨ ∃ t, m = .extra t := by
  have hextra : ∀ {ts : List Token}, m ∈ ts.map Mismatch.extra → ∃ t, m = .extra t := by
    intro ts hm
    obtain ⟨t, -, rfl⟩ := List.mem_map.1 hm
    exact ⟨t, rfl⟩
  generalize (closing rest).1 = left, (closing rest).2 = output, leftOver_closing rest = hleft at h
  cases hleft with
  | output hx =>
    rcases List.mem_append.1 h with hm | hm
    · exact .inr (hextra hm)
    · obtain ⟨w, hw, rfl⟩ := List.mem_map.1 hm
      obtain ⟨p, -, rfl⟩ := List.mem_map.1 hw
      exact .inl (List.cons_ne_nil _ _)
  | extra => exact .inr (hextra h)

theorem offers_of_not_mem {slots : List Slot} (h : Slot.param ∉ slots) (ts : List Token) :
    offers slots ts = [] := by
  induction slots generalizing ts with
  | nil => rfl
  | cons slot slots ih =>
    obtain ⟨hslot, hslots⟩ := not_or.1 (mt List.mem_cons.2 h)
    rw [offers_cons, Slot.offered_of_ne (Ne.symm hslot), ih hslots, List.nil_append]

namespace Walk

variable (w : Walk) (line : TokenLine)

theorem run_append (xs ys : List Slot) (ts : List Token) :
    run line (xs ++ ys) ts w = run line ys (run line xs ts w).2 (run line xs ts w).1 := by
  induction xs generalizing ts w with
  | nil => rfl
  | cons x xs ih => exact ih _ _

theorem meet_waiting_of_ne {slot : Slot} (h : slot ≠ .param) (t : Option Token) :
    (w.meet line slot t).waiting = w.waiting := by
  rw [meet_waiting, Slot.offered_of_ne h, WordSet.without_nil]

theorem meet_bindings_of_ne {slot : Slot} (h : slot ≠ .value) (t : Option Token) :
    (w.meet line slot t).bindings = w.bindings := by
  cases slot with
  | value => exact absurd rfl h
  | word | target | param =>
    cases t with
    | none => rfl
    | some t =>
      simp only [meet]
      split <;> rfl

theorem run_bindings_of_not_mem {slots : List Slot} (h : Slot.value ∉ slots) (ts : List Token) :
    (run line slots ts w).1.bindings = w.bindings := by
  induction slots generalizing ts w with
  | nil => rfl
  | cons slot slots ih =>
    obtain ⟨hslot, hslots⟩ := not_or.1 (mt List.mem_cons.2 h)
    rw [run, ih _ hslots, meet_bindings_of_ne w line (Ne.symm hslot)]

theorem meet_param_named (t : Option Token) :
    (w.meet line .param t).named = t.bind w.waiting.named? := by
  cases t with
  | none => rfl
  | some t =>
    simp only [meet, Slot.admits, Option.bind_some, WordSet.named?]
    by_cases hi : t.isIdent = true
    · simp [hi, refuse]
    · by_cases hmem : t.name ∈ w.waiting
      · simp [hi, hmem, accept]
      · simp [hi, hmem, refuse]

theorem meet_value_bindings (t : Option Token) :
    (w.meet line .value t).bindings = w.bindings ++
      (w.named.bind fun p => (t.filter Token.isIdent).map fun x => (p, x)).toList := by
  cases t with
  | none => cases w.named <;> simp [meet, refuse, note]
  | some t =>
    by_cases hi : t.isIdent = true
    · cases hnamed : w.named <;> simp [meet, Slot.admits, accept, hi, hnamed, Option.filter]
    · cases hnamed : w.named <;> simp [meet, Slot.admits, refuse, note, hi, Option.filter]

end Walk

theorem getElem?_sends {ps : List String} {k i : Nat} (hk : k < ps.length) (hi : i < 4) :
    (ps.flatMap fun _ => sendSlots)[4 * k + i]? = sendSlots[i]? := by
  have hlen : sendSlots.length = 4 := rfl
  induction ps generalizing k with
  | nil => exact absurd hk (Nat.not_lt_zero k)
  | cons p ps ih =>
    rw [List.flatMap_cons]
    cases k with
    | zero =>
      rw [Nat.mul_zero, Nat.zero_add, List.getElem?_append_left (hlen ▸ hi)]
    | succ k =>
      rw [List.getElem?_append_right (by omega)]
      have hshift : 4 * (k + 1) + i - sendSlots.length = 4 * k + i := by omega
      rw [hshift]
      exact ih (Nat.lt_of_succ_lt_succ hk)

namespace Shape

variable (s : Shape) (line : TokenLine)

theorem getElem?_slots {k i : Nat} (hk : k < s.params.size) (hi : i < 4) :
    s.slots[s.clause.width + 4 * k + i]? = sendSlots[i]? := by
  have hsends : 4 * k + i < (s.params.words.flatMap fun _ => sendSlots).length := by
    rw [length_sends]
    change k < s.params.words.length at hk
    omega
  rw [slots, List.append_assoc, List.getElem?_append_right (by rw [Clause.slots_length]; omega),
    Clause.slots_length, Nat.add_assoc, Nat.add_sub_cancel_left, List.getElem?_append_left hsends]
  exact getElem?_sends hk hi

theorem walkTo_succ {j : Nat} {slot : Slot} (h : s.slots[j]? = some slot) :
    s.walkTo line (j + 1) = (s.walkTo line j).meet line slot line.tokens[2 + j]? := by
  have hj : j < s.slots.length := (List.getElem?_eq_some_iff.1 h).1
  have htoken : (Walk.run line (s.slots.take j) (line.tokens.drop 2) (.start s)).2.head? =
      line.tokens[2 + j]? := by
    rw [Walk.run_rest, List.length_take, Nat.min_eq_left (Nat.le_of_lt hj), List.head?_drop,
      List.getElem?_drop]
  rw [walkTo, List.take_add_one, h, Walk.run_append, ← htoken]
  rfl

theorem walk_eq_walkTo : (s.walk line).1 = s.walkTo line s.width := by
  rw [walkTo, ← s.slots_length, List.take_length]
  rfl

theorem noted_eq {j : Nat} {slot : Slot} (h : s.slots[j]? = some slot) :
    s.noted line j = slot.blame line (s.walkTo line j).waiting line.tokens[2 + j]? := by
  rw [noted, s.walkTo_succ line h, Walk.meet_mismatches, Walk.score, List.drop_left]

theorem walkTo_mismatches {j : Nat} (hj : j ≤ s.width) :
    (s.walkTo line j).mismatches = (List.range j).flatMap (s.noted line) := by
  induction j with
  | zero => rfl
  | succ j ih =>
    have hslot : j < s.slots.length := s.slots_length ▸ hj
    have hget := List.getElem?_eq_getElem hslot
    rw [List.range_succ, List.flatMap_append, ← ih (Nat.le_of_succ_le hj), List.flatMap_singleton,
      s.noted_eq line hget, s.walkTo_succ line hget, Walk.meet_mismatches]

theorem walkTo_nameSlot {k : Nat} (hk : k < s.params.size) :
    s.walkTo line (s.nameSlot k) = (s.walkTo line (s.clause.width + 4 * k)).meet line (.word "send")
      line.tokens[2 + (s.clause.width + 4 * k)]? :=
  s.walkTo_succ line (s.getElem?_slots hk (by decide : 0 < 4))

/-- Before the `k`-th block the parameters that the name slots have taken wait no more, and they are bound if
identifiers stood behind them. -/
theorem walkTo_block {k : Nat} (hk : k ≤ s.params.size) :
    (s.walkTo line (s.clause.width + 4 * k)).waiting = s.params.without (s.taken line k) ∧
      (s.walkTo line (s.clause.width + 4 * k)).bindings =
        (List.range k).filterMap (s.bound? line) := by
  induction k with
  | zero =>
    have hparam : Slot.param ∉ s.clause.slots := by cases s.clause <;> decide
    have hvalue : Slot.value ∉ s.clause.slots := by cases s.clause <;> decide
    have htake : s.slots.take (s.clause.width + 4 * 0) = s.clause.slots := by
      rw [slots, List.append_assoc, Nat.mul_zero, Nat.add_zero, ← Clause.slots_length, List.take_left]
    rw [walkTo, htake, Walk.run_waiting, Walk.run_bindings_of_not_mem _ _ hvalue,
      offers_of_not_mem hparam]
    exact ⟨rfl, rfl⟩
  | succ k ih =>
    obtain ⟨hwaiting, hbindings⟩ := ih (Nat.le_of_succ_le hk)
    have hsend := s.walkTo_nameSlot line hk
    have hname : s.walkTo line (s.nameSlot k + 1) = (s.walkTo line (s.nameSlot k)).meet line
        .param line.tokens[2 + s.nameSlot k]? :=
      s.walkTo_succ line (s.getElem?_slots hk (by decide : 1 < 4))
    have hvalue : s.walkTo line (s.nameSlot k + 2) = (s.walkTo line (s.nameSlot k + 1)).meet line
        .value line.tokens[2 + s.nameSlot k + 1]? :=
      s.walkTo_succ line (s.getElem?_slots hk (by decide : 2 < 4))
    have hand : s.walkTo line (s.clause.width + 4 * (k + 1)) =
        (s.walkTo line (s.nameSlot k + 2)).meet line (.word "and")
          line.tokens[2 + (s.nameSlot k + 2)]? :=
      s.walkTo_succ line (s.getElem?_slots hk (by decide : 3 < 4))
    have hfree : (s.walkTo line (s.nameSlot k)).waiting = s.params.without (s.taken line k) := by
      rw [hsend, Walk.meet_waiting_of_ne _ _ (by decide), hwaiting]
    have hnamed : (s.walkTo line (s.nameSlot k + 1)).named = s.name? line k := by
      rw [hname, Walk.meet_param_named, hfree]
      rfl
    constructor
    · rw [hand, Walk.meet_waiting_of_ne _ _ (by decide), hvalue,
        Walk.meet_waiting_of_ne _ _ (by decide), hname, Walk.meet_waiting, hfree,
        WordSet.without_offered, WordSet.without_without]
      rfl
    · rw [hand, Walk.meet_bindings_of_ne _ _ (by decide), hvalue, Walk.meet_value_bindings, hnamed,
        hname, Walk.meet_bindings_of_ne _ _ (by decide), hsend,
        Walk.meet_bindings_of_ne _ _ (by decide), hbindings, List.range_succ, List.filterMap_append,
        filterMap_singleton]
      rfl

theorem reading_bindings :
    (s.reading line).bindings = (List.range s.params.size).filterMap (s.bound? line) := by
  have hvalue : Slot.value ∉ s.phrase.map Slot.word := by simp
  have hlen : (s.clause.slots ++ s.params.words.flatMap fun _ => sendSlots).length =
      s.clause.width + 4 * s.params.size := by
    rw [List.length_append, Clause.slots_length, length_sends]
    rfl
  have hslots : s.slots = s.slots.take (s.clause.width + 4 * s.params.size) ++ s.phrase.map .word := by
    rw [slots, ← hlen, List.take_left]
  have hrun := Walk.run_bindings_of_not_mem (s.walkTo line (s.clause.width + 4 * s.params.size)) line hvalue
  rw [reading, walk, hslots, Walk.run_append]
  rw [← (s.walkTo_block line (Nat.le_refl s.params.size)).2]
  exact hrun _

theorem noted_nameSlot {k : Nat} (hk : k < s.params.size) :
    s.noted line (s.nameSlot k) =
      Slot.param.blame line (s.params.without (s.taken line k)) line.tokens[2 + s.nameSlot k]? := by
  have hslot : s.slots[s.nameSlot k]? = some .param := s.getElem?_slots hk (by decide : 1 < 4)
  rw [s.noted_eq line hslot, s.walkTo_nameSlot line hk, Walk.meet_waiting_of_ne _ _ (by decide),
    (s.walkTo_block line (Nat.le_of_lt hk)).1]

theorem getElem?_slots_eq_param {j : Nat} :
    s.slots[j]? = some .param ↔ ∃ k < s.params.size, j = s.nameSlot k := by
  constructor
  · intro h
    have hlen := (List.getElem?_eq_some_iff.1 h).1
    by_cases hclause : j < s.clause.width
    · rw [slots, List.append_assoc, List.getElem?_append_left (by rwa [Clause.slots_length])] at h
      have hmem : Slot.param ∈ s.clause.slots := List.mem_of_getElem? h
      exact absurd hmem (by cases s.clause <;> decide)
    · obtain ⟨k, i, hi, rfl⟩ : ∃ k i, i < 4 ∧ j = s.clause.width + 4 * k + i :=
        ⟨(j - s.clause.width) / 4, (j - s.clause.width) % 4, by omega, by omega⟩
      by_cases hk : k < s.params.size
      · rw [s.getElem?_slots hk hi] at h
        have hone : i = 1 := by
          obtain rfl | rfl | rfl | rfl : i = 0 ∨ i = 1 ∨ i = 2 ∨ i = 3 := by omega
          all_goals simp [sendSlots] at h ⊢
        exact ⟨k, hk, by rw [hone, nameSlot]⟩
      · have hphrase : Slot.param ∈ s.phrase.map Slot.word := by
          have hfront : (s.clause.slots ++ s.params.words.flatMap fun _ => sendSlots).length ≤
              s.clause.width + 4 * k + i := by
            rw [List.length_append, Clause.slots_length, length_sends]
            change ¬ k < s.params.words.length at hk
            omega
          rw [slots, List.getElem?_append_right hfront] at h
          exact List.mem_of_getElem? h
        simp at hphrase
  · rintro ⟨k, hk, rfl⟩
    exact s.getElem?_slots hk (by decide : 1 < 4)

theorem taken_succ (k : Nat) : s.taken line (k + 1) = s.taken line k ++ (s.name? line k).toList := rfl

theorem mem_name? {k : Nat} {p : String} (h : s.name? line k = some p) :
    p ∈ s.params.words ∧ p ∉ s.taken line k := by
  obtain ⟨t, -, ht⟩ := Option.bind_eq_some_iff.1 h
  exact WordSet.mem_without.1 (WordSet.named?_eq_some.1 ht).2.2

theorem taken_subset (k : Nat) : s.taken line k ⊆ s.params.words := by
  induction k with
  | zero => exact List.nil_subset _
  | succ k ih =>
    rw [taken_succ]
    refine List.append_subset.2 ⟨ih, ?_⟩
    intro p hp
    exact (s.mem_name? line (Option.mem_toList.1 hp)).1

theorem taken_nodup (k : Nat) : (s.taken line k).Nodup := by
  induction k with
  | zero => exact List.nodup_nil
  | succ k ih =>
    rw [taken_succ]
    cases h : s.name? line k with
    | none => exact (List.append_nil _).symm ▸ ih
    | some p =>
      rw [Option.toList_some, ← List.concat_eq_append]
      exact ih.concat (s.mem_name? line h).2

theorem size_le_taken (k : Nat) : s.params.size ≤ (s.params.without (s.taken line k)).size + k := by
  induction k with
  | zero => exact Nat.le_of_eq (congrArg WordSet.size s.params.without_nil).symm
  | succ k ih =>
    rw [taken_succ, ← WordSet.without_without]
    cases s.name? line k with
    | none =>
      rw [Option.toList_none, WordSet.without_nil]
      omega
    | some p =>
      have hless := (s.params.without (s.taken line k)).size_le_of_without_singleton p
      rw [Option.toList_some]
      omega

theorem bound_sublist (k : Nat) :
    (((List.range k).filterMap (s.bound? line)).map Prod.fst).Sublist (s.taken line k) := by
  induction k with
  | zero => exact List.Sublist.refl _
  | succ k ih =>
    rw [taken_succ, List.range_succ, List.filterMap_append, List.map_append, filterMap_singleton]
    refine ih.append ?_
    rw [bound?]
    cases s.name? line k with
    | none => exact List.Sublist.refl _
    | some p =>
      cases line.tokens[2 + s.nameSlot k + 1]?.filter Token.isIdent with
      | none => exact List.nil_sublist _
      | some x => exact List.Sublist.refl _

theorem sentAt_of_bound {k : Nat} {b : String × Token} (h : s.bound? line k = some b) :
    SentAt line b (2 + s.nameSlot k) := by
  obtain ⟨p, hp, hb⟩ := Option.bind_eq_some_iff.1 h
  obtain ⟨x, hx, rfl⟩ := Option.map_eq_some_iff.1 hb
  obtain ⟨n, hn, hname⟩ := Option.bind_eq_some_iff.1 hp
  obtain ⟨hident, hnamed, -⟩ := WordSet.named?_eq_some.1 hname
  exact ⟨⟨n, hn, hident, hnamed⟩, Option.filter_eq_some_iff.1 hx⟩

theorem exists_sent_places : ∃ places : List Nat, places.Pairwise (· < ·) ∧
    (∀ i ∈ places, ∃ k < s.params.size, i = 2 + s.nameSlot k) ∧
    List.Forall₂ (SentAt line) (s.reading line).bindings places := by
  let ks := (List.range s.params.size).filter fun k => (s.bound? line k).isSome
  refine ⟨ks.map fun k => 2 + s.nameSlot k, ?_, ?_, ?_⟩
  · have hasc : ks.Pairwise (· < ·) := List.pairwise_lt_range.sublist List.filter_sublist
    refine List.Pairwise.map _ ?_ hasc
    intro j k hjk
    simp only [nameSlot]
    omega
  · refine List.forall_mem_map.2 ?_
    intro k hk
    exact ⟨k, List.mem_range.1 (List.mem_of_mem_filter hk), rfl⟩
  · rw [s.reading_bindings, List.forall₂_map_right_iff]
    exact (forall₂_filterMap (s.bound? line) _).imp fun _ _ h => s.sentAt_of_bound line h

theorem reading_mismatches :
    (s.reading line).mismatches = (List.range s.width).flatMap (s.noted line) ++
      (closing ((line.tokens.drop 2).drop s.width)).1 := by
  rw [← s.walkTo_mismatches line (Nat.le_refl _), ← s.walk_eq_walkTo, ← s.walk_rest line]
  rfl

theorem free_ne_nil {k : Nat} (hk : k < s.params.size) :
    (s.params.without (s.taken line k)).words ≠ [] := by
  have hsize := s.size_le_taken line k
  apply List.ne_nil_of_length_pos
  change 0 < (s.params.without (s.taken line k)).size
  omega

theorem noted_expected {j : Nat} {m : Mismatch} (hj : j < s.width) (hm : m ∈ s.noted line j) :
    m.expected ≠ [] := by
  obtain ⟨slot, hslot⟩ : ∃ slot, s.slots[j]? = some slot :=
    ⟨_, List.getElem?_eq_getElem (s.slots_length ▸ hj : j < s.slots.length)⟩
  cases slot with
  | word | target | value =>
    rw [s.noted_eq line hslot] at hm
    rw [Slot.expected_of_mem_blame hm]
    exact List.cons_ne_nil _ _
  | param =>
    obtain ⟨k, hk, rfl⟩ := s.getElem?_slots_eq_param.1 hslot
    rw [s.noted_nameSlot line hk] at hm
    rw [Slot.expected_of_mem_blame hm]
    exact s.free_ne_nil line hk

theorem exists_freeAt {k : Nat} (hk : k < s.params.size) : ∃ free, s.FreeAt line k free := by
  let free := s.params.without (s.taken line k)
  obtain ⟨hblamed, hproposal⟩ := Slot.blame_param line free line.tokens[2 + s.nameSlot k]?
  rw [← s.noted_nameSlot line hk] at hblamed hproposal
  exact ⟨free.words, s.free_ne_nil line hk, free.ascending, fun p => WordSet.mem_without, hblamed,
    hproposal⟩

theorem reading_expected {m : Mismatch} (hm : m ∈ (s.reading line).mismatches) :
    m.expected ≠ [] ∨ ∃ t, m = .extra t := by
  rw [s.reading_mismatches line] at hm
  rcases List.mem_append.1 hm with hslots | hclosing
  · obtain ⟨j, hj, hnoted⟩ := List.mem_flatMap.1 hslots
    exact .inl (s.noted_expected line (List.mem_range.1 hj) hnoted)
  · exact closing_expected hclosing

end Shape

theorem judge_expected {shapes : List Shape} {line : TokenLine} {m : Mismatch}
    (hm : m ∈ (judge shapes line).mismatches) : m.expected ≠ [] ∨ ∃ t, m = .extra t := by
  rcases List.mem_append.1 hm with hopening | hreading
  · refine .inl ?_
    rcases judge_opening_cases hopening with (⟨t, rfl⟩ | ⟨n, c, rfl⟩) | ⟨t, rfl⟩ | ⟨n, c, rfl⟩
    all_goals exact List.cons_ne_nil _ _
  · obtain ⟨c, hc, hmc⟩ := List.mem_flatMap.1 hreading
    obtain ⟨⟨s, -, rfl⟩, -⟩ := mem_judge_readings.1 hc
    exact s.reading_expected line hmc

/-- Names and bindings of the readings of a line, whatever their mismatches. The parameters that are bound are
parameters of the shape, none of them twice, and all of them if there is no mismatch; the bindings stand in
their order at name slots, each name with its identifier right behind, and a slot that takes a name binds it
if an identifier follows. A name slot blames exactly what is not the name of a parameter that is still free,
and says which ones are; at least one always is. So a mismatch without a proposal is about a token that is
left over. -/
theorem every_name_accounted {H : Type} (r : Registry H) (line : TokenLine) :
    (∀ c ∈ (judge r.shapes line).readings,
      (c.bindings.map Prod.fst).Nodup ∧ (∀ b ∈ c.bindings, b.1 ∈ c.shape.params) ∧
      (c.mismatches = [] → (c.bindings.map Prod.fst).Perm c.shape.params.words) ∧
      (∃ places : List Nat, places.Pairwise (· < ·) ∧
        (∀ i ∈ places, ∃ k < c.shape.params.size, i = 2 + c.shape.nameSlot k) ∧
        List.Forall₂ (SentAt line) c.bindings places) ∧
      c.bindings = (List.range c.shape.params.size).filterMap (c.shape.bound? line) ∧
      c.mismatches = (List.range c.shape.width).flatMap (c.shape.noted line) ++
        (closing ((line.tokens.drop 2).drop c.shape.width)).1 ∧
      (∀ j, c.shape.slots[j]? = some .param ↔ ∃ k < c.shape.params.size, j = c.shape.nameSlot k) ∧
      ∀ k < c.shape.params.size, ∃ free, c.shape.FreeAt line k free) ∧
    ∀ m ∈ (judge r.shapes line).mismatches, m.expected = [] ↔ ∃ t, m = .extra t := by
  refine ⟨?_, ?_⟩
  · intro c hc
    obtain ⟨⟨s, -, rfl⟩, -⟩ := mem_judge_readings.1 hc
    have hsub : ((s.reading line).bindings.map Prod.fst).Sublist (s.taken line s.params.size) := by
      rw [s.reading_bindings]
      exact s.bound_sublist line _
    refine ⟨hsub.nodup (s.taken_nodup line _), ?_, Shape.bindings_perm, s.exists_sent_places line,
      s.reading_bindings line, s.reading_mismatches line, fun j => s.getElem?_slots_eq_param,
      fun k hk => s.exists_freeAt line hk⟩
    intro b hb
    exact s.taken_subset line _ (hsub.subset (List.mem_map_of_mem hb))
  · intro m hm
    constructor
    · intro hnil
      exact (judge_expected hm).resolve_left fun hne => hne hnil
    · rintro ⟨t, rfl⟩
      rfl

section Muddled

-- One parameter is named twice, and one is named but sent no identifier: the first stays bound once, the
-- second is taken without being bound.

def muddledShape : Shape := ⟨.absent, ⟨["a", "b", "c"], by decide⟩, ["tick"]⟩

def muddledRegistry : Registry Unit := .ofEntries [⟨"names", muddledShape, by decide, ()⟩] (by decide)

def sendTokens (name : Char) (value : List Char) (start : Nat) : List Token :=
  [.ofRaw ['s', 'e', 'n', 'd'] 2 start, .ofRaw [name] 2 (start + 5), .ofRaw value 2 (start + 7),
    .ofRaw ['a', 'n', 'd'] 2 (start + 11)]

def muddledLine (second third : Char) (value : List Char) : TokenLine where
  tokens := [.ofRaw ['T', 'h', 'e', 'n'] 2 0, .ofRaw ['I'] 2 5] ++ sendTokens 'b' ['\'', 'x', '\''] 7 ++
    sendTokens second ['\'', 'y', '\''] 22 ++ sendTokens third value 37 ++
    [.ofRaw ['t', 'i', 'c', 'k'] 2 52]
  number := 2

theorem every_name_accounted_muddled :
    let line := muddledLine 'b' 'a' ['n', 'i', 'l']
    let clean := muddledLine 'c' 'a' ['\'', 'z', '\'']
    let c := muddledShape.reading line
    (c ∈ (judge muddledRegistry.shapes line).readings ∧
      c.bindings = [("b", .ofRaw ['\'', 'x', '\''] 2 14)] ∧ muddledShape.taken line 3 = ["b", "a"] ∧
      c.mismatches = [.wrong (.ofRaw ['b'] 2 27) ["a", "c"],
        .wrong (.ofRaw ['n', 'i', 'l'] 2 44) ["<identifier>"]] ∧
      (c.bindings.map Prod.fst).Nodup ∧ "b" ∈ c.shape.params ∧
      ∃ free, c.shape.FreeAt line 1 free) ∧
    (muddledShape.reading clean ∈ (judge muddledRegistry.shapes clean).readings ∧
      (muddledShape.reading clean).mismatches = [] ∧
      ((muddledShape.reading clean).bindings.map Prod.fst).Perm ["a", "b", "c"]) ∧
    let m := Mismatch.wrong (.ofRaw ['b'] 2 27) ["a", "c"]
    m ∈ (judge muddledRegistry.shapes line).mismatches ∧ (m.expected = [] ↔ ∃ t, m = .extra t) := by
  intro line clean c
  have hc : c ∈ (judge muddledRegistry.shapes line).readings := by decide
  have hclean : muddledShape.reading clean ∈ (judge muddledRegistry.shapes clean).readings := by decide
  have hb : ("b", Token.ofRaw ['\'', 'x', '\''] 2 14) ∈ c.bindings := by decide
  obtain ⟨hreadings, hproposals⟩ := every_name_accounted muddledRegistry line
  obtain ⟨hnodup, hparams, -, -, -, -, -, hslots⟩ := hreadings c hc
  obtain ⟨-, -, hperm, -⟩ := (every_name_accounted muddledRegistry clean).1 _ hclean
  refine ⟨⟨hc, by decide, by decide, by decide, hnodup, hparams _ hb, hslots 1 (by decide)⟩,
    ⟨hclean, by decide, hperm (by decide)⟩, ?_⟩
  intro m
  have hm : m ∈ (judge muddledRegistry.shapes line).mismatches := by decide
  exact ⟨hm, hproposals m hm⟩

end Muddled

end Rider
