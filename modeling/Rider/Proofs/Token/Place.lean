import Rider.Proofs.Lists
import Rider.Token.Scan

set_option autoImplicit false

namespace Rider

/-- The token is the characters `start ≤ i < stop` of the line, and there is at least one. -/
structure Token.Stands (own : List Char) (number : Nat) (t : Token) : Prop where
  line_eq : t.line = number
  start_lt : t.start < t.stop
  stop_le : t.stop ≤ own.length
  raw_eq : t.raw.toList = own.extract t.start t.stop

theorem Token.ofRaw_stands {raw : List Char} (h : raw ≠ []) (before after : List Char) (number : Nat) :
    (Token.ofRaw raw number before.length).Stands (before ++ (raw ++ after)) number := by
  have hpos : 0 < raw.length := List.length_pos_iff.2 h
  refine ⟨rfl, ?_, ?_, ?_⟩
  · change before.length < before.length + raw.length
    omega
  · change before.length + raw.length ≤ (before ++ (raw ++ after)).length
    rw [List.length_append, List.length_append]
    omega
  · change (String.ofList raw).toList =
      ((before ++ (raw ++ after)).drop before.length).take (before.length + raw.length - before.length)
    rw [List.drop_left, Nat.add_sub_cancel_left, List.take_left, String.toList_ofList]

inductive Placed (own : List Char) (number : Nat) : Except UnclosedQuote (List Token) → Prop
  | tokens {ts : List Token} : (∀ t ∈ ts, t.Stands own number) → Placed own number (.ok ts)
  | unclosed {e : UnclosedQuote} : e.token.Stands own number → e.token.stop = own.length →
      Placed own number (.error e)

theorem Placed.cut {before raw after : List Char} {number : Nat}
    {r : Except UnclosedQuote (List Token)} (h : Placed ((before ++ raw) ++ after) number r)
    (hraw : raw ≠ []) :
    Placed (before ++ (raw ++ after)) number (r.map (Token.ofRaw raw number before.length :: ·)) := by
  rw [List.append_assoc] at h
  cases h with
  | tokens hts =>
    have hraw := Token.ofRaw_stands hraw before after number
    exact .tokens (List.forall_mem_cons.2 ⟨hraw, hts⟩)
  | unclosed he hstop => exact .unclosed he hstop

theorem takeWord_append_dropWord (s : List Char) : takeWord s ++ dropWord s = s :=
  List.takeWhile_append_dropWhile

/-- A scan that is past the characters of `before` places what follows them. -/
theorem scan_placed (before s : List Char) (number : Nat) :
    Placed (before ++ s) number (scan number before.length s) := by
  -- A blank or a token that is read moves from what is scanned to what is before it.
  generalize hstart : before.length = start
  fun_induction scan number start s generalizing before with
  | case1 => exact .tokens (List.forall_mem_nil _)
  | case2 start c rest hblank ih =>
    have hbefore : (before ++ [c]).length = start + 1 := by rw [List.length_append, hstart]; rfl
    have := ih (before ++ [c]) hbefore
    rwa [← List.append_cons] at this
  | case3 start rest hblank hopen =>
    subst hstart
    have hstands := Token.ofRaw_stands (List.cons_ne_nil '\'' rest) before [] number
    rw [List.append_nil] at hstands
    exact .unclosed hstands List.length_append.symm
  | case4 start rest inside after hclosed hblank ih =>
    subst hstart
    have hlength : (before ++ '\'' :: inside).length = before.length + 1 + inside.length := by
      rw [List.length_append, add_length_cons]
    have hcut := (ih _ hlength).cut (List.cons_ne_nil _ _)
    rwa [List.cons_append, takeQuoted?_append hclosed] at hcut
  | case5 start c rest hblank hquote ih =>
    subst hstart
    have hlength : (before ++ c :: takeWord rest).length =
        before.length + 1 + (takeWord rest).length := by
      rw [List.length_append, add_length_cons]
    have hcut := (ih _ hlength).cut (List.cons_ne_nil _ _)
    rwa [List.cons_append, takeWord_append_dropWord] at hcut

theorem scan_stands {number : Nat} {s : List Char} {ts : List Token}
    (h : scan number 0 s = .ok ts) : ∀ t ∈ ts, t.Stands s number := by
  have hplaced := scan_placed [] s number
  rw [List.length_nil, List.nil_append, h] at hplaced
  cases hplaced with
  | tokens hts => exact hts

theorem tokenize_stands {src : String} {number : Nat} {line : TokenLine}
    (h : tokenize src number = .ok line) :
    line.number = number ∧ ∀ t ∈ line.tokens, t.Stands src.toList number := by
  cases hr : scan number 0 src.toList with
  | error e =>
    rw [tokenize, hr] at h
    contradiction
  | ok ts =>
    rw [tokenize, hr] at h
    obtain rfl := Except.ok.inj h
    exact ⟨rfl, scan_stands hr⟩

theorem tokenize_unclosed_stands {src : String} {number : Nat} {e : UnclosedQuote}
    (h : tokenize src number = .error e) :
    e.token.Stands src.toList number ∧ e.token.stop = src.toList.length := by
  have hplaced := scan_placed [] src.toList number
  rw [List.length_nil, List.nil_append] at hplaced
  unfold tokenize at h
  generalize scan number 0 src.toList = r at h hplaced
  cases hplaced with
  | tokens => contradiction
  | unclosed he hstop =>
    obtain rfl := Except.error.inj h
    exact ⟨he, hstop⟩

end Rider
