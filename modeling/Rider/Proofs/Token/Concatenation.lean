import Rider.Proofs.Token.Layout

set_option autoImplicit false

namespace Rider

def Token.moved (k : Nat) (t : Token) : Token := { t with start := t.start + k, stop := t.stop + k }

def UnclosedQuote.moved (k : Nat) (e : UnclosedQuote) : UnclosedQuote := ⟨e.token.moved k⟩

def movedCut (k : Nat) : Except UnclosedQuote (List Token) → Except UnclosedQuote (List Token)
  | .ok ts => .ok (ts.map (Token.moved k))
  | .error e => .error (e.moved k)

theorem Token.ofRaw_moved (raw : List Char) (line start k : Nat) :
    (Token.ofRaw raw line start).moved k = .ofRaw raw line (start + k) := by
  rw [moved, ofRaw, ofRaw, Nat.add_right_comm]

theorem movedCut_map_cons (k : Nat) (raw : List Char) (line start : Nat)
    (r : Except UnclosedQuote (List Token)) :
    movedCut k (r.map (Token.ofRaw raw line start :: ·)) =
      (movedCut k r).map (Token.ofRaw raw line (start + k) :: ·) := by
  cases r with
  | error e => rfl
  | ok ts => rw [← Token.ofRaw_moved]; rfl

theorem scan_moved (line start k : Nat) (s : List Char) :
    scan line (start + k) s = movedCut k (scan line start s) := by
  fun_induction scan line start s with
  | case1 => rw [scan]; rfl
  | case2 start c rest hblank ih => rw [scan, if_pos hblank, ← ih, Nat.add_right_comm]
  | case3 start rest hopen =>
    rw [scan_unclosed hopen, movedCut, UnclosedQuote.moved, Token.ofRaw_moved]
  | case4 start rest inside after hclosed hblank ih =>
    have hrest := takeQuoted?_append hclosed
    have hstop : start + k + 1 + inside.length = start + 1 + inside.length + k := by omega
    rw [movedCut_map_cons, ← ih, ← hrest, scan_quoted (takeQuoted?_inside hclosed after),
      add_length_cons, hstop]
  | case5 start c rest hblank hquote ih =>
    have hstop : start + k + 1 + (takeWord rest).length = start + 1 + (takeWord rest).length + k := by
      omega
    rw [movedCut_map_cons, ← ih, scan, if_neg hblank, if_neg hquote, hstop]

theorem Token.isIdent_ofRaw {c : Char} {s : List Char} {line start : Nat} :
    (Token.ofRaw (c :: s) line start).isIdent = true ↔ c = '\'' := by
  simp only [isIdent, ofRaw, String.toList_ofList]
  split
  · rename_i heq
    simp [(List.cons.inj heq).1]
  · rename_i hne
    simp only [Bool.false_eq_true, false_iff]
    rintro rfl
    exact hne s rfl

theorem map_map_append (r : Except UnclosedQuote (List Token)) (t : Token) (ts : List Token) :
    (r.map (ts ++ ·)).map (t :: ·) = r.map (t :: ts ++ ·) := by
  cases r with
  | error e => rfl
  | ok us => rfl

/-- A text goes on where the cut of the one before it came to an end, unless that one ends in a word, which
would run on. -/
theorem scan_append {line start stop : Nat} {s rest : List Char} {ts : List Token}
    (h : scan line start s = .ok ts) (hstop : start + s.length = stop)
    (hclear : Gapped rest ∨ ∀ t ∈ ts, t.stop = stop → t.isIdent = true) :
    scan line start (s ++ rest) = (scan line stop rest).map (ts ++ ·) := by
  fun_induction scan line start s generalizing ts with
  | case1 start =>
    obtain rfl := Except.ok.inj h
    obtain rfl : start = stop := hstop
    rw [List.nil_append]
    cases scan line start rest with
    | error e => rfl
    | ok us => rfl
  | case2 start c r hblank ih =>
    rw [List.length_cons] at hstop
    rw [List.cons_append, scan, if_pos hblank, ih h (by omega) hclear]
  | case3 => contradiction
  | case4 start r inside after hclosed hblank ih =>
    obtain ⟨us, hus, rfl⟩ := map_eq_ok.1 h
    have hr := takeQuoted?_append hclosed
    have hlength : inside.length + after.length = r.length := by rw [← hr, List.length_append]
    rw [List.length_cons] at hstop
    have hlater := ih hus (by omega) (hclear.imp_right fun hts => (List.forall_mem_cons.1 hts).2)
    rw [← hr, List.cons_append, List.append_assoc, scan_quoted (takeQuoted?_inside hclosed _),
      add_length_cons, hlater, map_map_append]
  | case5 start c r hblank hquote ih =>
    obtain ⟨us, hus, rfl⟩ := map_eq_ok.1 h
    have hr := takeWord_append_dropWord r
    have hlength : (takeWord r).length + (dropWord r).length = r.length := by
      rw [← List.length_append, hr]
    rw [List.length_cons] at hstop
    have hlater := ih hus (by omega) (hclear.imp_right fun hts => (List.forall_mem_cons.1 hts).2)
    -- If nothing of the text is left, the word reaches its end.
    have hgapped : Gapped (dropWord r ++ rest) := by
      by_cases hdrop : dropWord r = []
      · rw [hdrop]
        refine hclear.resolve_right ?_
        intro hts
        rw [hdrop, List.length_nil] at hlength
        have hend : (Token.ofRaw (c :: takeWord r) line start).stop = stop := by
          change start + (c :: takeWord r).length = stop
          rw [List.length_cons]
          omega
        exact hquote (Token.isIdent_ofRaw.1 (hts _ List.mem_cons_self hend))
      · exact (gapped_append_iff hdrop rest).2 (gapped_dropWord r)
    have hsplit : c :: r ++ rest = c :: (takeWord r ++ (dropWord r ++ rest)) := by
      rw [← List.append_assoc, hr, List.cons_append]
    rw [hsplit, scan_word hquote (takeWord_solid hblank r) hgapped, add_length_cons, hlater, map_map_append]

theorem scan_append_gap {line : Nat} {s gap rest : List Char} {ts : List Token}
    (h : scan line 0 s = .ok ts) (hgap : Blanks gap) (hne : gap ≠ []) :
    scan line 0 (s ++ gap ++ rest) =
      (movedCut (s ++ gap).length (scan line 0 rest)).map (ts ++ ·) := by
  have hclear : Gapped (gap ++ rest) := (gapped_append_iff hne rest).2 hgap.gapped
  rw [List.append_assoc, scan_append h (Nat.zero_add s.length) (.inl hclear), scan_gap hgap,
    ← List.length_append, ← Nat.zero_add (s ++ gap).length, scan_moved, Nat.zero_add]

/-- The texts in their order, with a gap between any two of them and blanks around them. -/
def Spaced (raws : List (List Char)) (s : List Char) : Prop := Laid raws s ∨ raws = [] ∧ Blanks s

theorem tokenize_spaced {raws : List (List Char)} {src : String} (h : Spaced raws src.toList)
    (hraws : ∀ raw ∈ raws, Lexeme raw) (line : Nat) :
    ∃ ts, tokenize src line = .ok ⟨ts, line⟩ ∧ List.Forall₂ (Token.Of line) raws ts := by
  rcases h with hlaid | ⟨rfl, hblanks⟩
  · exact tokenize_laid hlaid hraws line
  · obtain ⟨ts, hts, htokens⟩ := scan_continues (.done hblanks) hraws line 0
    exact ⟨ts, tokenize_eq_ok.2 ⟨ts, hts, rfl⟩, htokens⟩

theorem texts_of_forall₂ {line : Nat} {raws : List (List Char)} {ts : List Token}
    (h : List.Forall₂ (Token.Of line) raws ts) :
    ts.map Token.raw = raws.map String.ofList ∧
      ts.map Token.name = raws.map fun raw => String.ofList (Text.lowerCase raw) := by
  refine ⟨(map_eq_of_forall₂ ?_ h).symm, (map_eq_of_forall₂ ?_ h).symm⟩
  · rintro raw t ⟨start, rfl⟩
    rfl
  · rintro raw t ⟨start, rfl⟩
    rfl

/-- A line that can be cut into tokens can be put before any other, with a gap between the two: the cut of the
other line follows, be it tokens or a quote that is never closed, moved by the characters before it. And the
tokens of a line may be spaced out in any other way without changing what they are. -/
theorem tokenize_append_gap {first : String} {number : Nat} {line : TokenLine}
    (h : tokenize first number = .ok line) :
    (∀ gap second : String, Blanks gap.toList → gap ≠ "" →
      (∀ next, tokenize second number = .ok next → tokenize (first ++ gap ++ second) number =
        .ok ⟨line.tokens ++ next.tokens.map (Token.moved (first ++ gap).length), number⟩) ∧
      ∀ e, tokenize second number = .error e →
        tokenize (first ++ gap ++ second) number = .error (e.moved (first ++ gap).length)) ∧
    ∀ src m, Spaced (line.tokens.map fun t => t.raw.toList) src.toList →
      ∃ again, tokenize src m = .ok again ∧
        again.tokens.map Token.raw = line.tokens.map Token.raw ∧
        again.tokens.map Token.name = line.tokens.map Token.name := by
  obtain ⟨ts, hts, rfl⟩ := tokenize_eq_ok.1 h
  refine ⟨?_, ?_⟩
  · intro gap second hgap hne
    have hscan : scan number 0 (first ++ gap ++ second).toList =
        (movedCut (first ++ gap).length (scan number 0 second.toList)).map (ts ++ ·) := by
      rw [String.toList_append, String.toList_append, scan_append_gap hts hgap (by simpa using hne),
        ← String.toList_append, String.length_toList]
    refine ⟨?_, ?_⟩
    · intro next hnext
      obtain ⟨us, hus, rfl⟩ := tokenize_eq_ok.1 hnext
      rw [tokenize, hscan, hus]
      rfl
    · intro e he
      rw [tokenize, hscan, tokenize_eq_error.1 he]
      rfl
  · intro src m hsrc
    have hlexemes := scan_lexemes hts
    have hraws : ∀ raw ∈ ts.map fun t => t.raw.toList, Lexeme raw :=
      List.forall_mem_map.2 fun t ht => (hlexemes t ht).1
    have htokens : List.Forall₂ (Token.Of number) (ts.map fun t => t.raw.toList) ts :=
      List.forall₂_map_left_iff.2 (List.forall₂_same.2 fun t ht => (hlexemes t ht).2)
    obtain ⟨us, hus, hagain⟩ := tokenize_spaced hsrc hraws m
    obtain ⟨hraw, hname⟩ := texts_of_forall₂ htokens
    obtain ⟨hraw', hname'⟩ := texts_of_forall₂ hagain
    exact ⟨⟨us, m⟩, hus, hraw'.trans hraw.symm, hname'.trans hname.symm⟩

section Glued

def gluedLine : TokenLine :=
  ⟨[.ofRaw ['s', 'e', 'n', 'd'] 4 0, .ofRaw ['\'', 'i', 't', '\\', '\'', 's', '\''] 4 5,
    .ofRaw ['x'] 4 12], 4⟩

theorem tokenize_append_gap_glued :
    tokenize "send 'it\\'s'x" 4 = .ok gluedLine ∧
      tokenize ("send 'it\\'s'x" ++ "\t\u3000" ++ "'a b' c") 4 = .ok ⟨gluedLine.tokens ++
        [.ofRaw ['\'', 'a', ' ', 'b', '\''] 4 15, .ofRaw ['c'] 4 21], 4⟩ ∧
      tokenize ("send 'it\\'s'x" ++ "\t\u3000" ++ "and 'open\\") 4 =
        .error ⟨.ofRaw ['\'', 'o', 'p', 'e', 'n', '\\'] 4 19⟩ ∧
      ∃ again, tokenize ("\n ".intercalate ["send", "'it\\'s'", "x"]) 9 = .ok again ∧
        again.tokens.map Token.raw = ["send", "'it\\'s'", "x"] ∧
        again.tokens.map Token.name = ["send", "'it\\'s'", "x"] := by
  have hfirst : tokenize "send 'it\\'s'x" 4 = .ok gluedLine := by decide +kernel
  have hgap : Blanks "\t\u3000".toList := List.all_eq_true.1 (by decide)
  have hbreak : Blanks "\n ".toList := List.all_eq_true.1 (by decide)
  have hsecond : tokenize "'a b' c" 4 =
      .ok ⟨[.ofRaw ['\'', 'a', ' ', 'b', '\''] 4 0, .ofRaw ['c'] 4 6], 4⟩ := by decide +kernel
  have hopen : tokenize "and 'open\\" 4 =
      .error ⟨.ofRaw ['\'', 'o', 'p', 'e', 'n', '\\'] 4 4⟩ := by decide +kernel
  obtain ⟨happend, hspaced⟩ := tokenize_append_gap hfirst
  refine ⟨hfirst, ?_, ?_, ?_⟩
  · exact (happend "\t\u3000" _ hgap (by decide)).1 _ hsecond
  · exact (happend "\t\u3000" _ hgap (by decide)).2 _ hopen
  · refine hspaced _ 9 (.inl ?_)
    rw [String.toList_intercalate]
    exact laid_intercalate hbreak (by decide) (by decide)

end Glued

end Rider
