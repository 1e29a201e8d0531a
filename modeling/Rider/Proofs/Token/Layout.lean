import Mathlib.Data.List.Forall2
import Mathlib.Data.List.TakeWhile
import Rider.Proofs.Lists
import Rider.Proofs.Token.Place
import Rider.Proofs.Token.Quote

set_option autoImplicit false

namespace Rider

def Blanks (s : List Char) : Prop := ∀ c ∈ s, Text.isBlank c = true

/-- The characters of one token: a word, or an identifier up to the quote that closes it. -/
inductive Lexeme : List Char → Prop
  | word {c : Char} {s : List Char} : c ≠ '\'' → (∀ d ∈ c :: s, Text.isBlank d = false) →
      Lexeme (c :: s)
  | quoted {inside : List Char} :
      (∀ rest, takeQuoted? (inside ++ rest) = some (inside, rest)) → Lexeme ('\'' :: inside)

/-- What follows a token: each further token after a gap, and blanks at the end. -/
inductive Continues : List (List Char) → List Char → Prop
  | done {gap : List Char} : Blanks gap → Continues [] gap
  | next {gap raw rest : List Char} {raws : List (List Char)} : Blanks gap → gap ≠ [] →
      Continues raws rest → Continues (raw :: raws) (gap ++ (raw ++ rest))

inductive Laid : List (List Char) → List Char → Prop
  | intro {gap raw rest : List Char} {raws : List (List Char)} : Blanks gap →
      Continues raws rest → Laid (raw :: raws) (gap ++ (raw ++ rest))

def Token.Of (line : Nat) (raw : List Char) (t : Token) : Prop := ∃ start, t = .ofRaw raw line start

/-- No token runs on into the text. -/
def Gapped (s : List Char) : Prop := ∀ c ∈ s.head?, Text.isBlank c = true

theorem Blanks.gapped {s : List Char} (h : Blanks s) : Gapped s :=
  fun c hc => h c (List.mem_of_mem_head? hc)

theorem gapped_append_iff {s : List Char} (hne : s ≠ []) (t : List Char) :
    Gapped (s ++ t) ↔ Gapped s := by
  obtain ⟨c, s, rfl⟩ := List.exists_cons_of_ne_nil hne
  exact Iff.rfl

theorem Continues.gapped {raws : List (List Char)} {s : List Char} (h : Continues raws s) :
    Gapped s := by
  cases h with
  | done hgap => exact hgap.gapped
  | next hgap hne => exact (gapped_append_iff hne _).2 hgap.gapped

theorem continues_intercalate {gap : List Char} (hgap : Blanks gap) (hne : gap ≠ [])
    (raw : List Char) (raws : List (List Char)) :
    ∃ rest, gap.intercalate (raw :: raws) = raw ++ rest ∧ Continues raws rest := by
  induction raws generalizing raw with
  | nil =>
    refine ⟨[], ?_, .done fun c hc => absurd hc List.not_mem_nil⟩
    rw [List.intercalate_singleton, List.append_nil]
  | cons next raws ih =>
    obtain ⟨rest, heq, hrest⟩ := ih next
    refine ⟨gap ++ (next ++ rest), ?_, .next hgap hne hrest⟩
    rw [List.intercalate_cons_cons, heq, List.append_assoc]

theorem laid_intercalate {gap : List Char} (hgap : Blanks gap) (hne : gap ≠ [])
    {raws : List (List Char)} (hraws : raws ≠ []) : Laid raws (gap.intercalate raws) := by
  obtain ⟨raw, raws, rfl⟩ := List.exists_cons_of_ne_nil hraws
  obtain ⟨rest, heq, hrest⟩ := continues_intercalate hgap hne raw raws
  have lead : Blanks [] := fun c hc => absurd hc List.not_mem_nil
  rw [heq]
  exact .intro lead hrest

theorem tokenize_eq_ok {src : String} {number : Nat} {line : TokenLine} :
    tokenize src number = .ok line ↔ ∃ ts, scan number 0 src.toList = .ok ts ∧ ⟨ts, number⟩ = line := by
  rw [tokenize]
  exact map_eq_ok

theorem tokenize_eq_error {src : String} {number : Nat} {e : UnclosedQuote} :
    tokenize src number = .error e ↔ scan number 0 src.toList = .error e := by
  rw [tokenize]
  exact map_eq_error

theorem scan_gap {gap : List Char} (h : Blanks gap) (line start : Nat) (s : List Char) :
    scan line start (gap ++ s) = scan line (start + gap.length) s := by
  induction gap generalizing start with
  | nil => rfl
  | cons c gap ih =>
    have hc : Text.isBlank c = true := h c List.mem_cons_self
    have hgap : Blanks gap := fun d hd => h d (List.mem_cons_of_mem c hd)
    rw [List.cons_append, scan, if_pos hc, ih hgap, List.length_cons]
    congr 1
    omega

theorem takeWord_append {s rest : List Char} (hs : ∀ c ∈ s, Text.isBlank c = false)
    (hrest : Gapped rest) : takeWord (s ++ rest) = s ∧ dropWord (s ++ rest) = rest := by
  have hpos : ∀ c ∈ s, (!Text.isBlank c) = true := by
    intro c hc
    rw [hs c hc]
    rfl
  rw [takeWord, dropWord, List.takeWhile_append_of_pos hpos, List.dropWhile_append_of_pos hpos]
  cases rest with
  | nil => exact ⟨List.append_nil s, rfl⟩
  | cons c rest =>
    have hc : Text.isBlank c = true := hrest c rfl
    simp [hc]

theorem gapped_dropWord (s : List Char) : Gapped (dropWord s) := by
  intro c hc
  have hstop := List.head?_dropWhile_not (fun c => !Text.isBlank c) s
  rw [dropWord, Option.mem_def] at hc
  simp only [hc] at hstop
  rwa [Bool.not_eq_false'] at hstop

theorem scan_word {c : Char} {s rest : List Char} (hq : c ≠ '\'')
    (hs : ∀ d ∈ c :: s, Text.isBlank d = false) (hrest : Gapped rest) (line start : Nat) :
    scan line start (c :: (s ++ rest)) =
      (scan line (start + (c :: s).length) rest).map (Token.ofRaw (c :: s) line start :: ·) := by
  have hc : ¬ Text.isBlank c = true := by
    rw [hs c List.mem_cons_self]
    exact Bool.false_ne_true
  obtain ⟨htake, hdrop⟩ := takeWord_append (fun d hd => hs d (List.mem_cons_of_mem c hd)) hrest
  rw [scan, if_neg hc, if_neg hq, htake, hdrop, add_length_cons]

theorem scan_quoted {inside rest : List Char}
    (h : takeQuoted? (inside ++ rest) = some (inside, rest)) (line start : Nat) :
    scan line start ('\'' :: (inside ++ rest)) =
      (scan line (start + ('\'' :: inside).length) rest).map
        (Token.ofRaw ('\'' :: inside) line start :: ·) := by
  have hblank : ¬ Text.isBlank '\'' = true := by decide
  rw [scan, if_neg hblank, if_pos rfl]
  split
  · rename_i hnone
    rw [h] at hnone
    contradiction
  · rename_i inside' after hsome
    rw [h, Option.some.injEq, Prod.mk.injEq] at hsome
    obtain ⟨rfl, rfl⟩ := hsome
    rw [add_length_cons]

theorem scan_unclosed {rest : List Char} (h : takeQuoted? rest = none) (line start : Nat) :
    scan line start ('\'' :: rest) = .error ⟨.ofRaw ('\'' :: rest) line start⟩ := by
  have hblank : ¬ Text.isBlank '\'' = true := by decide
  rw [scan, if_neg hblank, if_pos rfl]
  split
  · rfl
  · rename_i inside after hsome
    rw [h] at hsome
    contradiction

theorem scan_lexeme {raw rest : List Char} (h : Lexeme raw) (hrest : Gapped rest)
    (line start : Nat) : scan line start (raw ++ rest) =
      (scan line (start + raw.length) rest).map (Token.ofRaw raw line start :: ·) := by
  cases h with
  | word hq hs => exact scan_word hq hs hrest line start
  | quoted hquoted => exact scan_quoted (hquoted rest) line start

theorem takeWord_solid {c : Char} (hc : ¬ Text.isBlank c = true) (s : List Char) :
    ∀ d ∈ c :: takeWord s, Text.isBlank d = false := by
  refine List.forall_mem_cons.2 ⟨Bool.eq_false_iff.2 hc, ?_⟩
  intro d hd
  unfold takeWord at hd
  have hsolid := List.mem_takeWhile_imp hd
  rwa [Bool.not_eq_true'] at hsolid

theorem Lexeme.token {raw : List Char} (h : Lexeme raw) (line start : Nat) :
    Lexeme (Token.ofRaw raw line start).raw.toList ∧
      (Token.ofRaw raw line start).Of line (Token.ofRaw raw line start).raw.toList := by
  have htext : (Token.ofRaw raw line start).raw.toList = raw := String.toList_ofList
  rw [htext]
  exact ⟨h, start, rfl⟩

theorem scan_lexemes {line start : Nat} {s : List Char} {ts : List Token}
    (h : scan line start s = .ok ts) :
    ∀ t ∈ ts, Lexeme t.raw.toList ∧ t.Of line t.raw.toList := by
  fun_induction scan line start s generalizing ts with
  | case1 =>
    obtain rfl := Except.ok.inj h
    exact List.forall_mem_nil _
  | case2 start c rest hblank ih => exact ih h
  | case3 => contradiction
  | case4 start rest inside after hclosed hblank ih =>
    obtain ⟨us, hus, rfl⟩ := map_eq_ok.1 h
    have hquoted := Lexeme.quoted (takeQuoted?_inside hclosed)
    exact List.forall_mem_cons.2 ⟨hquoted.token line start, ih hus⟩
  | case5 start c rest hblank hquote ih =>
    obtain ⟨us, hus, rfl⟩ := map_eq_ok.1 h
    have hword := Lexeme.word hquote (takeWord_solid hblank rest)
    exact List.forall_mem_cons.2 ⟨hword.token line start, ih hus⟩

theorem scan_continues {raws : List (List Char)} {s : List Char} (h : Continues raws s)
    (hraws : ∀ raw ∈ raws, Lexeme raw) (line start : Nat) :
    ∃ ts, scan line start s = .ok ts ∧ List.Forall₂ (Token.Of line) raws ts := by
  induction h generalizing start with
  | @done gap hgap =>
    refine ⟨[], ?_, .nil⟩
    have := scan_gap hgap line start []
    rw [List.append_nil] at this
    rw [this, scan]
  | @next gap raw rest raws hgap _ hrest ih =>
    obtain ⟨ts, hts, htokens⟩ := ih (fun r hr => hraws r (List.mem_cons_of_mem raw hr))
      (start + gap.length + raw.length)
    refine ⟨.ofRaw raw line (start + gap.length) :: ts, ?_, .cons ⟨_, rfl⟩ htokens⟩
    rw [scan_gap hgap, scan_lexeme (hraws raw List.mem_cons_self) hrest.gapped, hts]
    rfl

theorem tokenize_laid {raws : List (List Char)} {src : String} (h : Laid raws src.toList)
    (hraws : ∀ raw ∈ raws, Lexeme raw) (line : Nat) :
    ∃ ts, tokenize src line = .ok ⟨ts, line⟩ ∧ List.Forall₂ (Token.Of line) raws ts := by
  generalize hsrc : src.toList = s at h
  obtain ⟨hgap, hrest⟩ := h
  rename_i gap raw rest raws
  obtain ⟨ts, hts, htokens⟩ := scan_continues hrest
    (fun r hr => hraws r (List.mem_cons_of_mem raw hr)) line (0 + gap.length + raw.length)
  refine ⟨.ofRaw raw line (0 + gap.length) :: ts, ?_, .cons ⟨_, rfl⟩ htokens⟩
  rw [tokenize, hsrc, scan_gap hgap, scan_lexeme (hraws raw List.mem_cons_self) hrest.gapped, hts]
  rfl

end Rider
