import Rider.Proofs.Reading.Exhaustive
import Rider.Proofs.Reading.Score

set_option autoImplicit false

namespace Rider

def wrongs (ws : List (Token × List String)) : List Mismatch := ws.map fun w => .wrong w.1 w.2

def missings (line : TokenLine) (es : List (List String)) : List Mismatch :=
  es.map fun e => .missing e line.number line.nextColumn

def Mismatch.token? : Mismatch → Option Token
  | .wrong t _ => some t
  | .missing _ _ _ => none
  | .extra t => some t

def blamed (ms : List Mismatch) : List Token := ms.filterMap Mismatch.token?

theorem blamed_append (ms ns : List Mismatch) : blamed (ms ++ ns) = blamed ms ++ blamed ns :=
  List.filterMap_append

theorem blamed_wrongs (ws : List (Token × List String)) : blamed (wrongs ws) = ws.map Prod.fst := by
  rw [blamed, wrongs, List.filterMap_map]
  exact congrFun List.filterMap_eq_map ws

theorem blamed_missings (line : TokenLine) (es : List (List String)) :
    blamed (missings line es) = [] := by
  rw [blamed, missings, List.filterMap_map]
  exact List.filterMap_eq_nil_iff.2 fun _ _ => rfl

theorem blamed_extra (ts : List Token) : blamed (ts.map .extra) = ts := by
  rw [blamed, List.filterMap_map]
  exact List.filterMap_some

/-- A walk notes wrong tokens while there are tokens, and then a missing one for each slot that is left. -/
theorem Walk.run_account (line : TokenLine) (slots : List Slot) (ts : List Token) (w : Walk) :
    ∃ ws es, (run line slots ts w).1.mismatches = w.mismatches ++ (wrongs ws ++ missings line es) ∧
      (ws.map Prod.fst).Sublist (ts.take slots.length) ∧ es.length = slots.length - ts.length := by
  induction slots generalizing ts w with
  | nil => exact ⟨[], [], (List.append_nil _).symm, List.Sublist.refl _, (Nat.zero_sub _).symm⟩
  | cons slot slots ih =>
    obtain ⟨ws, es, hmismatches, hsub, hlen⟩ := ih ts.tail (w.meet line slot ts.head?)
    rw [run, hmismatches, meet_mismatches]
    cases ts with
    | nil =>
      have hws : ws = [] := by simpa using hsub
      subst hws
      refine ⟨[], slot.expected w.waiting :: es, ?_, List.Sublist.refl _, ?_⟩
      · rw [List.append_assoc]
        rfl
      · rw [List.length_cons, hlen]
        rfl
    | cons t ts =>
      have hshorter : es.length = (slot :: slots).length - (t :: ts).length := by
        rw [hlen, List.length_cons, List.length_cons, Nat.succ_sub_succ]
        rfl
      simp only [List.head?_cons, Slot.blame]
      split
      · refine ⟨ws, es, ?_, hsub.cons t, hshorter⟩
        rw [List.append_nil]
      · refine ⟨(t, slot.expected w.waiting) :: ws, es, ?_, hsub.cons_cons t, hshorter⟩
        rw [List.append_assoc]
        rfl

/-- What becomes of the tokens behind the phrase: the last of four or more is the output, if it is an
identifier, and the words of the output clause should stand before it; else all of them are left over. -/
inductive LeftOver : List Token → List Mismatch → Option Token → Prop
  | output {front : List Token} {a o i x : Token} : x.isIdent = true →
      LeftOver (front ++ [a, o, i, x])
        (front.map .extra ++ wrongs
          (([("and", a), ("output", o), ("into", i)].filter fun p => !p.2.isWord p.1).map
            fun p => (p.2, [p.1]))) (some x)
  | extra {rest : List Token} : (4 ≤ rest.length → rest.getLast?.any Token.isIdent = false) →
      LeftOver rest (rest.map .extra) none

theorem strayWords_eq (a o i : Token) :
    strayWord "and" a ++ strayWord "output" o ++ strayWord "into" i = wrongs
      (([("and", a), ("output", o), ("into", i)].filter fun p => !p.2.isWord p.1).map
        fun p => (p.2, [p.1])) := by
  by_cases ha : a.isWord "and" = true <;> by_cases ho : o.isWord "output" = true <;>
    by_cases hi : i.isWord "into" = true <;> simp [strayWord, wrongs, ha, ho, hi]

theorem leftOver_closing (rest : List Token) : LeftOver rest (closing rest).1 (closing rest).2 := by
  by_cases hlen : 4 ≤ rest.length
  · obtain ⟨front, a, o, i, x, rfl⟩ := exists_last_four hlen
    rw [closing_append]
    by_cases hx : x.isIdent = true
    · rw [if_pos hx, List.append_assoc, List.append_assoc, ← List.append_assoc (strayWord _ _),
        strayWords_eq]
      exact .output hx
    · rw [if_neg hx]
      exact .extra fun _ => by simpa using hx
  · rw [closing_of_short (by omega)]
    exact .extra fun h => absurd h hlen

theorem LeftOver.blamed_sublist {rest : List Token} {ms : List Mismatch} {output : Option Token}
    (h : LeftOver rest ms output) : (blamed ms).Sublist rest := by
  cases h with
  | @output front a o i x hx =>
    rw [blamed_append, blamed_extra, blamed_wrongs, List.map_map]
    apply List.Sublist.append (List.Sublist.refl front)
    have hwords : (([("and", a), ("output", o), ("into", i)].filter fun p => !p.2.isWord p.1).map
        Prod.snd).Sublist [a, o, i] := List.filter_sublist.map Prod.snd
    exact hwords.trans (List.sublist_append_left [a, o, i] [x])
  | extra =>
    rewrite [blamed_extra]
    exact List.Sublist.refl _

theorem exists_places {us ts : List Token} (h : us.Sublist ts) : ∃ places : List Nat,
    places.Pairwise (· < ·) ∧ us.map some = places.map (ts[·]?) := by
  induction h with
  | slnil => exact ⟨[], .nil, rfl⟩
  | @cons us ts t _ ih =>
    obtain ⟨places, hasc, htokens⟩ := ih
    refine ⟨places.map (· + 1), ?_, ?_⟩
    · exact List.Pairwise.map _ (fun _ _ => Nat.succ_lt_succ) hasc
    · rw [htokens, List.map_map]
      rfl
  | @cons_cons us ts t _ ih =>
    obtain ⟨places, hasc, htokens⟩ := ih
    refine ⟨0 :: places.map (· + 1), List.pairwise_cons.2 ⟨?_, ?_⟩, ?_⟩
    · exact List.forall_mem_map.2 fun i _ => Nat.succ_pos i
    · exact List.Pairwise.map _ (fun _ _ => Nat.succ_lt_succ) hasc
    · rw [List.map_cons, htokens, List.map_cons, List.map_map]
      rfl

theorem Shape.reading_account (s : Shape) (line : TokenLine) : ∃ ws es,
    (s.reading line).mismatches = wrongs ws ++ missings line es ++ (closing (s.walk line).2).1 ∧
      (ws.map Prod.fst).Sublist ((line.tokens.drop 2).take s.width) ∧
      es.length = s.width - (line.tokens.drop 2).length := by
  obtain ⟨ws, es, hmismatches, hsub, hlen⟩ :=
    Walk.run_account line s.slots (line.tokens.drop 2) (.start s)
  rw [s.slots_length] at hsub hlen
  refine ⟨ws, es, ?_, hsub, hlen⟩
  rw [reading, walk, hmismatches]
  rfl

theorem Shape.blamed_sublist (s : Shape) (line : TokenLine) :
    (blamed (s.reading line).mismatches).Sublist (line.tokens.drop 2) := by
  obtain ⟨ws, es, hmismatches, hsub, -⟩ := s.reading_account line
  have hleft := (leftOver_closing (s.walk line).2).blamed_sublist
  rw [s.walk_rest line] at hleft
  rw [hmismatches, blamed_append, blamed_append, blamed_wrongs, blamed_missings, List.append_nil,
    s.walk_rest line]
  have hboth := hsub.append hleft
  rwa [List.take_append_drop] at hboth

theorem Walk.along_rest {bound : Option Nat} {line : TokenLine} {s : Shape} {w : Walk}
    {rest : List Token} (h : along bound line s.slots (line.tokens.drop 2) (.start s) = some (w, rest)) :
    ∃ cursor ≤ line.tokens.length, cursor = min (2 + s.width) line.tokens.length ∧
      rest = line.tokens.drop cursor := by
  have hstart : passes bound (Walk.start s).score = true := passes_zero bound
  rw [along_eq bound line s.slots _ _ hstart] at h
  split at h
  · have hrest : rest = (line.tokens.drop 2).drop s.width := by
      rw [← s.walk_rest line, Shape.walk, Option.some.inj h]
    refine ⟨min (2 + s.width) line.tokens.length, Nat.min_le_right _ _, rfl, ?_⟩
    rw [hrest, List.drop_drop, ← List.drop_eq_drop_min]
  · contradiction

/-- Every token is accounted for once. If there are fewer tokens than slots, the slots without a token are
missing, behind all wrong tokens, and there is no output. Otherwise nothing is missing, and the tokens behind
the phrase are the output clause or left over. What is blamed is blamed in the order of the line, at one place
each and behind the opening; and what is left over begins within the line. -/
theorem every_token_accounted {H : Type} (r : Registry H) (line : TokenLine) (c : Reading)
    (hc : c ∈ (judge r.shapes line).readings) :
    c.shape.slots.length = c.shape.width ∧
    ((line.tokens.drop 2).length < c.shape.width → ∃ ws es,
      c.mismatches = wrongs ws ++ missings line es ∧
      es.length = c.shape.width - (line.tokens.drop 2).length ∧ c.output = none) ∧
    (c.shape.width ≤ (line.tokens.drop 2).length → ∃ ws left,
      c.mismatches = wrongs ws ++ left ∧
      (ws.map Prod.fst).Sublist ((line.tokens.drop 2).take c.shape.width) ∧
      LeftOver ((line.tokens.drop 2).drop c.shape.width) left c.output) ∧
    (∃ places : List Nat, places.Pairwise (· < ·) ∧ (∀ i ∈ places, 2 ≤ i) ∧
      (blamed c.mismatches).map some = places.map (line.tokens[·]?)) ∧
    ∀ bound w rest,
      Walk.along bound line c.shape.slots (line.tokens.drop 2) (.start c.shape) = some (w, rest) →
      ∃ cursor ≤ line.tokens.length, cursor = min (2 + c.shape.width) line.tokens.length ∧
        rest = line.tokens.drop cursor := by
  obtain ⟨⟨s, -, rfl⟩, -⟩ := mem_judge_readings.1 hc
  obtain ⟨ws, es, hmismatches, hsub, hlen⟩ := s.reading_account line
  have hleft : LeftOver ((line.tokens.drop 2).drop s.width) (closing (s.walk line).2).1
      (s.reading line).output := by
    rw [← s.walk_rest line]
    exact leftOver_closing _
  refine ⟨s.slots_length, ?_, ?_, ?_, fun _ _ _ h => Walk.along_rest h⟩
  · intro hshort
    have hnone : (s.walk line).2 = [] := by
      rw [s.walk_rest line]
      exact List.drop_eq_nil_of_le (Nat.le_of_lt hshort)
    refine ⟨ws, es, ?_, hlen, ?_⟩
    · rw [hmismatches, hnone]
      exact List.append_nil _
    · change (closing (s.walk line).2).2 = none
      rw [hnone]
      rfl
  · intro hlong
    have hes : es = [] := by
      apply List.length_eq_zero_iff.1
      rw [hlen]
      exact Nat.sub_eq_zero_of_le hlong
    rw [hes] at hmismatches
    refine ⟨ws, _, ?_, hsub, hleft⟩
    rw [hmismatches]
    simp [missings]
  · obtain ⟨places, hasc, htokens⟩ := exists_places (s.blamed_sublist line)
    refine ⟨places.map (2 + ·), ?_, ?_, ?_⟩
    · exact List.Pairwise.map _ (fun _ _ h => Nat.add_lt_add_left h 2) hasc
    · exact List.forall_mem_map.2 fun i _ => Nat.le_add_right 2 i
    · rw [htokens, List.map_map]
      apply List.map_congr_left
      intro i _
      exact List.getElem?_drop

section Post

-- A line that is too long by a word and one that ends within the clause.

def postShape : Shape := ⟨.connecting, ⟨["to"], by decide⟩, ["post"]⟩

def postRegistry : Registry Unit := .ofEntries [⟨"posts", postShape, by decide, ()⟩] (by decide)

def postClause : List Token :=
  [.ofRaw ['t', 'h', 'e', 'n'] 3 0, .ofRaw ['I'] 3 5, .ofRaw ['c', 'o', 'n', 'n', 'e', 'c', 't'] 3 7,
    .ofRaw ['t', 'o'] 3 15, .ofRaw ['\'', 'a', '\''] 3 18]

def postLine : TokenLine where
  tokens := postClause ++
    [.ofRaw ['o', 'r'] 3 22, .ofRaw ['s', 'e', 'n', 'd'] 3 25, .ofRaw ['t', 'o'] 3 30,
      .ofRaw ['\'', 'b', '\''] 3 33, .ofRaw ['a', 'n', 'd'] 3 37, .ofRaw ['p', 'o', 's', 't'] 3 41,
      .ofRaw ['n', 'o', 'w'] 3 46, .ofRaw ['a', 'n', 'd'] 3 50, .ofRaw ['o', 'u', 't', 'p', 'u', 't'] 3 54,
      .ofRaw ['o', 'n'] 3 61, .ofRaw ['\'', 'c', '\''] 3 64]
  number := 3

theorem every_token_accounted_post :
    (postShape.reading postLine ∈ (judge postRegistry.shapes postLine).readings ∧
      postShape.width ≤ (postLine.tokens.drop 2).length ∧
      (postShape.reading postLine).mismatches = [.wrong (.ofRaw ['o', 'r'] 3 22) ["and"],
        .extra (.ofRaw ['n', 'o', 'w'] 3 46), .wrong (.ofRaw ['o', 'n'] 3 61) ["into"]] ∧
      (∃ ws left, (postShape.reading postLine).mismatches = wrongs ws ++ left ∧
        (ws.map Prod.fst).Sublist ((postLine.tokens.drop 2).take postShape.width) ∧
        LeftOver ((postLine.tokens.drop 2).drop postShape.width) left
          (postShape.reading postLine).output) ∧
      ∃ w rest, Walk.along none postLine postShape.slots (postLine.tokens.drop 2) (.start postShape) =
          some (w, rest) ∧
        ∃ cursor ≤ postLine.tokens.length,
          cursor = min (2 + postShape.width) postLine.tokens.length ∧
            rest = postLine.tokens.drop cursor) ∧
    postShape.reading ⟨postClause, 3⟩ ∈ (judge postRegistry.shapes ⟨postClause, 3⟩).readings ∧
      (postClause.drop 2).length < postShape.width ∧
      ∃ ws es, (postShape.reading ⟨postClause, 3⟩).mismatches =
          wrongs ws ++ missings ⟨postClause, 3⟩ es ∧
        es.length = postShape.width - (postClause.drop 2).length ∧
        (postShape.reading ⟨postClause, 3⟩).output = none := by
  have hkept : postShape.reading postLine ∈ (judge postRegistry.shapes postLine).readings := by decide
  have hkept' : postShape.reading ⟨postClause, 3⟩ ∈
      (judge postRegistry.shapes ⟨postClause, 3⟩).readings := by decide
  obtain ⟨-, -, hlong, -, hcursor⟩ := every_token_accounted postRegistry postLine _ hkept
  obtain ⟨-, hshort, -⟩ := every_token_accounted postRegistry ⟨postClause, 3⟩ _ hkept'
  exact ⟨⟨hkept, by decide, by decide, hlong (by decide), _, _, rfl, hcursor none _ _ rfl⟩,
    hkept', by decide, hshort (by decide)⟩

end Post

end Rider
