import Mathlib.Data.List.Perm.Basic
import Rider.Proofs.Reading.Acceptance
import Rider.Proofs.Reading.Score
import Rider.Proofs.Statement.Resolution

set_option autoImplicit false

namespace Rider

def blocksOf : Nat → List Token → List (List Token)
  | 0, _ => []
  | k + 1, ts => ts.take 4 :: blocksOf k (ts.drop 4)

theorem blocksOf_length (k : Nat) (ts : List Token) : (blocksOf k ts).length = k := by
  induction k generalizing ts with
  | zero => rfl
  | succ k ih => rw [blocksOf, List.length_cons, ih]

theorem length_of_mem_blocksOf {k : Nat} {ts : List Token} (h : 4 * k ≤ ts.length) :
    ∀ block ∈ blocksOf k ts, block.length = 4 := by
  induction k generalizing ts with
  | zero => exact List.forall_mem_nil _
  | succ k ih =>
    refine List.forall_mem_cons.2 ⟨?_, ih ?_⟩
    · rw [List.length_take]
      omega
    · rw [List.length_drop]
      omega

theorem flatten_blocksOf (k : Nat) (ts : List Token) :
    (blocksOf k ts).flatten ++ ts.drop (4 * k) = ts := by
  induction k generalizing ts with
  | zero => rfl
  | succ k ih =>
    have hrest := ih (ts.drop 4)
    rw [List.drop_drop] at hrest
    rw [blocksOf, List.flatten_cons, List.append_assoc, Nat.mul_succ, Nat.add_comm, hrest,
      List.take_append_drop]

theorem paired_sends {ps : List String} {blocks : List (List Token)}
    (hcount : ps.length = blocks.length) (hfour : ∀ block ∈ blocks, block.length = 4) :
    paired (ps.flatMap fun _ => sendSlots) blocks.flatten = blocks.flatMap (paired sendSlots) := by
  induction blocks generalizing ps with
  | nil =>
    obtain rfl := List.length_eq_zero_iff.1 hcount
    rfl
  | cons block blocks ih =>
    obtain _ | ⟨p, ps⟩ := ps
    · simp at hcount
    · obtain ⟨hblock, hblocks⟩ := List.forall_mem_cons.1 hfour
      have hfirst : sendSlots.length = block.length := hblock.symm
      rw [List.flatMap_cons, List.flatten_cons, paired_append hfirst,
        ih (Nat.succ.inj hcount) hblocks, List.flatMap_cons]

namespace Shape

/-- The tokens fill the places of the clause and of the parameters. -/
structure Filled (s : Shape) (clause : List Token) (blocks : List (List Token)) : Prop where
  clause_length : clause.length = s.clause.width
  count : blocks.length = s.params.size
  block_length : ∀ block ∈ blocks, block.length = 4

namespace Filled

variable {s : Shape} {clause : List Token} {blocks others : List (List Token)}

theorem perm (h : s.Filled clause blocks) (hperm : others.Perm blocks) : s.Filled clause others where
  clause_length := h.clause_length
  count := hperm.length_eq.trans h.count
  block_length block hblock := h.block_length block (hperm.mem_iff.1 hblock)

theorem length_flatten (h : s.Filled clause blocks) :
    blocks.flatten.length = 4 * s.params.size := by
  have hlengths : blocks.map List.length = List.replicate blocks.length 4 :=
    List.eq_replicate_iff.2 ⟨List.length_map _, List.forall_mem_map.2 h.block_length⟩
  rw [List.length_flatten, hlengths, List.sum_replicate_nat, h.count, Nat.mul_comm]

theorem sends_length (h : s.Filled clause blocks) :
    (s.params.words.flatMap fun _ => sendSlots).length = blocks.flatten.length := by
  rw [length_sends, h.length_flatten]
  rfl

theorem clause_slots (h : s.Filled clause blocks) : s.clause.slots.length = clause.length := by
  rw [Clause.slots_length, h.clause_length]

theorem paired_eq (h : s.Filled clause blocks) (rest : List Token) :
    paired s.slots (clause ++ (blocks.flatten ++ rest)) = paired s.clause.slots clause ++
      (blocks.flatMap (paired sendSlots) ++ paired (s.phrase.map .word) rest) := by
  rw [slots, List.append_assoc, paired_append h.clause_slots, paired_append h.sends_length,
    paired_sends h.count.symm h.block_length]

theorem paired_perm (h : s.Filled clause blocks) (hperm : others.Perm blocks) (rest : List Token) :
    (paired s.slots (clause ++ (others.flatten ++ rest))).Perm
      (paired s.slots (clause ++ (blocks.flatten ++ rest))) := by
  rw [(h.perm hperm).paired_eq, h.paired_eq]
  exact ((hperm.flatMap_right _).append_right _).append_left _

theorem drop_width (h : s.Filled clause blocks) (rest : List Token) :
    (clause ++ (blocks.flatten ++ rest)).drop s.width = rest.drop s.phrase.length := by
  have hlen : (clause ++ blocks.flatten).length + s.phrase.length = s.width := by
    rw [List.length_append, h.clause_length, h.length_flatten, width]
  rw [← hlen, ← List.append_assoc, List.drop_length_add_append]

end Filled

variable (s : Shape) (line : TokenLine)

def clausePart : List Token := (line.tokens.drop 2).take s.clause.width

def blocks : List (List Token) :=
  blocksOf s.params.size ((line.tokens.drop 2).drop s.clause.width)

def phrasePart : List Token :=
  ((line.tokens.drop 2).drop s.clause.width).drop (4 * s.params.size)

def withBlocks (blocks : List (List Token)) : TokenLine where
  tokens := line.tokens.take 2 ++ (s.clausePart line ++ (blocks.flatten ++ s.phrasePart line))
  number := line.number

theorem drop_eq_blocks :
    line.tokens.drop 2 = s.clausePart line ++ ((s.blocks line).flatten ++ s.phrasePart line) := by
  rw [blocks, phrasePart, flatten_blocksOf, clausePart, List.take_append_drop]

variable {s line} {others : List (List Token)}

theorem filled_of_le (h : s.clause.width + 4 * s.params.size ≤ (line.tokens.drop 2).length) :
    s.Filled (s.clausePart line) (s.blocks line) where
  clause_length := by
    rw [clausePart, List.length_take]
    omega
  count := blocksOf_length _ _
  block_length := by
    apply length_of_mem_blocksOf
    rw [List.length_drop]
    omega

theorem drop_withBlocks (hperm : others.Perm (s.blocks line)) :
    (s.withBlocks line others).tokens.drop 2 =
      s.clausePart line ++ (others.flatten ++ s.phrasePart line) := by
  by_cases hlen : 2 ≤ line.tokens.length
  · have htake : (line.tokens.take 2).length = 2 := by
      rw [List.length_take]
      omega
    exact List.drop_left' htake
  · -- A line that ends in its opening has no parts that could change places.
    have hbody : line.tokens.drop 2 = [] := List.drop_eq_nil_of_le (by omega)
    have hparts := s.drop_eq_blocks line
    have hflatten : others.flatten.Perm (s.blocks line).flatten := hperm.flatten
    rw [hbody] at hparts
    obtain ⟨hclause, hrest⟩ := List.append_eq_nil_iff.1 hparts.symm
    obtain ⟨hblocks, hphrase⟩ := List.append_eq_nil_iff.1 hrest
    rw [hblocks] at hflatten
    rw [withBlocks, hclause, hphrase, hflatten.eq_nil]
    simp

theorem Filled.reading_score_eq (h : s.Filled (s.clausePart line) (s.blocks line))
    (hperm : others.Perm (s.blocks line)) :
    (s.reading (s.withBlocks line others)).score = (s.reading line).score := by
  have hpaired := h.paired_perm hperm (s.phrasePart line)
  rw [reading_score, reading_score, drop_withBlocks hperm, s.drop_eq_blocks line,
    (h.perm hperm).drop_width, h.drop_width]
  congr 2
  · exact hpaired.countP_eq _
  · apply congrArg WordSet.size
    apply WordSet.without_congr
    intro p
    exact (hpaired.flatMap_right _).mem_iff

end Shape

def BlockSpelt (block : List Token) (b : String × Token) : Prop := SendsSpelt [b] block

theorem sendsSpelt_flatten {bs : List (String × Token)} {blocks : List (List Token)}
    (h : List.Forall₂ BlockSpelt blocks bs) : SendsSpelt bs blocks.flatten := by
  induction h with
  | nil => exact .nil
  | cons hblock _ ih =>
    obtain _ | ⟨hs, hn, hx, ha, hnil⟩ := hblock
    cases hnil
    exact .cons hs hn hx ha ih

theorem blocksSpelt_of_flatten {bs : List (String × Token)} {blocks : List (List Token)}
    (h : SendsSpelt bs blocks.flatten) (hfour : ∀ block ∈ blocks, block.length = 4) :
    List.Forall₂ BlockSpelt blocks bs := by
  induction blocks generalizing bs with
  | nil =>
    cases h
    exact .nil
  | cons block blocks ih =>
    obtain ⟨hblock, hblocks⟩ := List.forall_mem_cons.1 hfour
    rw [List.flatten_cons] at h
    generalize hts : block ++ blocks.flatten = ts at h
    cases h with
    | nil =>
      have hnil := (List.append_eq_nil_iff.1 hts).1
      rw [hnil] at hblock
      contradiction
    | @cons p s n x a bs ts hs hn hx ha hrest =>
      have hsplit : block ++ blocks.flatten = [s, n, x, a] ++ ts := hts
      obtain ⟨rfl, rfl⟩ := List.append_inj hsplit hblock
      exact .cons (.cons hs hn hx ha .nil) (ih hrest hblocks)

theorem ClauseSpelt.length {c : Clause} {ts : List Token} {target : Option Token}
    (h : ClauseSpelt c ts target) : ts.length = c.width := by
  cases h <;> rfl

theorem SendsSpelt.length {bs : List (String × Token)} {ts : List Token} (h : SendsSpelt bs ts) :
    ts.length = 4 * bs.length := by
  induction h with
  | nil => rfl
  | cons _ _ _ _ _ ih =>
    simp only [List.length_cons, ih]
    omega

namespace Shape

variable {s : Shape}

/-- A statement is spelt in every order of its blocks, with the bindings in the order of the blocks. -/
theorem Filled.spelt_perm {clause rest : List Token} {blocks others : List (List Token)}
    {target output : Option Token} {bindings : List (String × Token)} (h : s.Filled clause blocks)
    (hspelt : s.Spelt (clause ++ (blocks.flatten ++ rest)) target bindings output)
    (hperm : others.Perm blocks) :
    ∃ bound, bound.Perm bindings ∧
      s.Spelt (clause ++ (others.flatten ++ rest)) target bound output := by
  obtain ⟨clause', sends, phrase, tail, hts, hc, hnames, hsends, hphrase, htail⟩ := hspelt
  have hclause : clause.length = clause'.length := by rw [h.clause_length, hc.length]
  obtain ⟨rfl, hrest⟩ := List.append_inj hts hclause
  have hlen : blocks.flatten.length = sends.length := by
    have hcount : bindings.length = s.params.size := by
      rw [← List.length_map Prod.fst, hnames.length_eq]
      rfl
    rw [h.length_flatten, hsends.length, hcount]
  obtain ⟨rfl, rfl⟩ := List.append_inj hrest hlen
  obtain ⟨bound, hbound, hperm'⟩ := List.perm_comp_forall₂ hperm
    (blocksSpelt_of_flatten hsends h.block_length)
  exact ⟨bound, hperm', clause, others.flatten, phrase, tail, rfl, hc,
    (hperm'.map Prod.fst).trans hnames, sendsSpelt_flatten hbound, hphrase, htail⟩

end Shape

theorem bindAll_perm {bs cs : List (String × Token)} (hnodup : (bs.map Prod.fst).Nodup)
    (h : cs.Perm bs) : bindAll [] cs = bindAll [] bs := by
  have hnodup' : (cs.map Prod.fst).Nodup := (h.map Prod.fst).nodup_iff.2 hnodup
  have hnames : ((bs.map fun b => (b.1, unquote b.2.raw)).map Prod.fst).Nodup := by
    rwa [List.map_map]
  rw [bindAll_eq hnodup fun _ _ => rfl, bindAll_eq hnodup' fun _ _ => rfl]
  exact congrArg Except.ok (Members.ofList_congr hnames (h.map _))

theorem Reading.resolve_perm {c d : Reading} (hshape : d.shape = c.shape)
    (htarget : d.target = c.target) (houtput : d.output = c.output)
    (hmismatches : d.mismatches = c.mismatches) (hnodup : (c.bindings.map Prod.fst).Nodup)
    (h : d.bindings.Perm c.bindings) : d.resolve = c.resolve := by
  simp only [resolve, hshape, htarget, houtput, hmismatches, score, bindAll_perm hnodup h]

theorem nodup_bindings {shapes : List Shape} {line : TokenLine} {c : Reading}
    (hc : c ∈ (judge shapes line).readings) (hclean : c.mismatches = []) :
    (c.bindings.map Prod.fst).Nodup := by
  obtain ⟨⟨s, -, rfl⟩, -⟩ := mem_judge_readings.1 hc
  exact (Shape.bindings_perm hclean).nodup_iff.2 s.params.nodup_words

theorem Shape.Filled.lineSpelt_perm {s : Shape} {line : TokenLine} {others : List (List Token)}
    {phase : Phase} {target output : Option Token} {bindings : List (String × Token)}
    (h : s.Filled (s.clausePart line) (s.blocks line))
    (hspelt : LineSpelt phase s line.tokens target bindings output)
    (hperm : others.Perm (s.blocks line)) : ∃ bound, bound.Perm bindings ∧
      LineSpelt phase s (s.withBlocks line others).tokens target bound output := by
  generalize hts : line.tokens = ts at hspelt
  obtain ⟨ha, hb, hs⟩ := hspelt
  rename_i a b ts
  have hbody : ts = s.clausePart line ++ ((s.blocks line).flatten ++ s.phrasePart line) := by
    rw [← s.drop_eq_blocks line, hts]
    rfl
  obtain ⟨bound, hbound, hs⟩ := h.spelt_perm (hbody ▸ hs) hperm
  refine ⟨bound, hbound, ?_⟩
  rw [withBlocks, hts]
  exact .intro ha hb hs

/-- Parameters may come in any order. Changing the places of the blocks of a line leaves the score along the
shape as it was; and if the line matches with a reading of the shape, then so does the line with its blocks in
the other order, in the same phase and as the same statement. -/
theorem block_order_irrelevant (s : Shape) (line : TokenLine)
    (hlong : s.clause.width + 4 * s.params.size ≤ (line.tokens.drop 2).length)
    (others : List (List Token)) (hperm : others.Perm (s.blocks line)) :
    (∃ c d, s.read? none line = some c ∧ s.read? none (s.withBlocks line others) = some d ∧
      d.score = c.score) ∧
    ∀ (H : Type) (r : Registry H) (c : Reading), (judge r.shapes line).isMatch = true →
      c ∈ (judge r.shapes line).readings → c.shape = s → ∃ d statement,
        (judge r.shapes (s.withBlocks line others)).isMatch = true ∧
        (judge r.shapes (s.withBlocks line others)).phase = (judge r.shapes line).phase ∧
        (judge r.shapes (s.withBlocks line others)).readings = [d] ∧ d.shape = s ∧
        c.resolve = .ok statement ∧ d.resolve = .ok statement := by
  have hfilled := Shape.filled_of_le hlong
  refine ⟨?_, ?_⟩
  · exact ⟨_, _, s.read?_none line, s.read?_none _, hfilled.reading_score_eq hperm⟩
  · rintro H r c hmatch hc rfl
    obtain ⟨⟨phase, hopening⟩, -⟩ := judge_isMatch_iff.1 hmatch
    have hphase : (judge r.shapes line).phase = some phase := judge_phase.2 hopening
    obtain ⟨hmem, hclean, hspelt⟩ := Registry.isMatch_reading_iff.1 ⟨hmatch, hphase, hc⟩
    obtain ⟨bound, hbound, hspelt'⟩ := hfilled.lineSpelt_perm hspelt hperm
    obtain ⟨hmatch', hphase', hreadings⟩ := Registry.judge_of_lineSpelt hmem hspelt'
    obtain ⟨-, statement, hresolve, -⟩ := Registry.resolve_of_clean hc hclean
    have hsame : (Reading.mk c.shape bound c.target c.output []).resolve = c.resolve :=
      Reading.resolve_perm rfl rfl rfl hclean.symm (nodup_bindings hc hclean) hbound
    exact ⟨_, statement, hmatch', hphase'.trans hphase.symm, hreadings, rfl, hresolve,
      hsame.trans hresolve⟩

section Fetch

-- Two parameters behind a clause, sent in the order of their names and the other way round.

def fetchShape : Shape := ⟨.opening, ⟨["by", "from"], by decide⟩, ["fetch"]⟩

def fetchRegistry : Registry Unit := .ofEntries [⟨"fetches", fetchShape, by decide, ()⟩] (by decide)

def sendBlock (name value : List Char) (start : Nat) : List Token :=
  [.ofRaw ['s', 'e', 'n', 'd'] 2 start, .ofRaw name 2 (start + 5), .ofRaw value 2 (start + 10),
    .ofRaw ['A', 'N', 'D'] 2 (start + 14)]

def fetchLine (blocks : List (List Token)) : TokenLine where
  tokens := [.ofRaw ['T', 'h', 'e', 'n'] 2 0, .ofRaw ['I'] 2 5, .ofRaw ['o', 'p', 'e', 'n'] 2 7,
    .ofRaw ['\'', 'u', '\''] 2 12, .ofRaw ['a', 'n', 'd'] 2 16] ++
      (blocks.flatten ++ [.ofRaw ['f', 'e', 't', 'c', 'h'] 2 60])
  number := 2

def fetchBlocks : List (List Token) :=
  [sendBlock ['f', 'r', 'o', 'm'] ['\'', 'x', '\''] 20, sendBlock ['B', 'y'] ['\'', 'y', '\''] 40]

def faultyBlocks : List (List Token) :=
  [sendBlock ['b', 'y'] ['x'] 20, sendBlock ['B', 'y'] ['\'', 'y', '\''] 40]

theorem block_order_irrelevant_fetch :
    (fetchShape.clause.width + 4 * fetchShape.params.size ≤
        ((fetchLine fetchBlocks).tokens.drop 2).length ∧
      fetchBlocks.reverse.Perm (fetchShape.blocks (fetchLine fetchBlocks)) ∧
      (judge fetchRegistry.shapes (fetchLine fetchBlocks)).isMatch = true ∧
      ∃ c ∈ (judge fetchRegistry.shapes (fetchLine fetchBlocks)).readings,
        c.shape = fetchShape ∧ ∃ d statement,
          (judge fetchRegistry.shapes (fetchLine fetchBlocks.reverse)).isMatch = true ∧
          (judge fetchRegistry.shapes (fetchLine fetchBlocks.reverse)).phase =
            (judge fetchRegistry.shapes (fetchLine fetchBlocks)).phase ∧
          (judge fetchRegistry.shapes (fetchLine fetchBlocks.reverse)).readings = [d] ∧
          d.shape = fetchShape ∧ c.resolve = .ok statement ∧ d.resolve = .ok statement) ∧
    ∃ c d, fetchShape.read? none (fetchLine faultyBlocks) = some c ∧
      fetchShape.read? none (fetchLine faultyBlocks.reverse) = some d ∧ d.score = c.score := by
  have hlong : fetchShape.clause.width + 4 * fetchShape.params.size ≤
      ((fetchLine fetchBlocks).tokens.drop 2).length := by decide
  have hperm : fetchBlocks.reverse.Perm (fetchShape.blocks (fetchLine fetchBlocks)) := by decide
  have hmatch : (judge fetchRegistry.shapes (fetchLine fetchBlocks)).isMatch = true := by decide
  have hkept : fetchShape.reading (fetchLine fetchBlocks) ∈
      (judge fetchRegistry.shapes (fetchLine fetchBlocks)).readings := by decide
  obtain ⟨-, hmeaning⟩ := block_order_irrelevant fetchShape (fetchLine fetchBlocks) hlong _ hperm
  obtain ⟨hscore, -⟩ := block_order_irrelevant fetchShape (fetchLine faultyBlocks) (by decide)
    faultyBlocks.reverse (by decide)
  exact ⟨⟨hlong, hperm, hmatch, _, hkept, rfl, hmeaning Unit fetchRegistry _ hmatch hkept rfl⟩, hscore⟩

end Fetch

end Rider
