import StatelessSession.Proofs.Sql.Counters
import StatelessSession.Proofs.Sql.Lines

/-!
# The scanner over bytes

A machine that goes through the bytes of a text with an index: after a backslash, after the marks of
comments and at doubled quotes it skips a byte without a look at it, and a token is the bytes from
one value of the index to another. It reads no byte that is not there, and what it finds is what the
scanner finds in the characters.

* `Machine.run` -- the loop.
* `run_quoted`, `run_comment`, `run_line` -- through quotes and comments that are closed, if a full
  counter starts over.
* `run_isLexeme`, `run_lexed` -- over one lexeme, over all.
* `run_unterminated` -- into what is never closed.
* `Machine.Counts`, **`answers_run`** -- if a full counter stops the program, the loop answers the
  same, or there are too many comments.
* `answers_tokenizeAt` -- the tokens of a text, or the words of its fault.
-/

namespace StatelessSession.Sql

/-! ## 1. The machine -/

/-- What the machine stands in. -/
inductive Mode where
  | plain
  | quoted (quote : UInt8)
  | lineComment
  | blockComment (depth : UInt32)
deriving DecidableEq, Repr

/-- Where the machine stands after a lexeme: outside everything, or in a line comment if that was
    the last. -/
def Mode.Rests (mode : Mode) (v : List UInt8) : Prop :=
  mode = .plain ∨ mode = .lineComment ∧ v = []

/-- The machine before one turn of its loop. -/
structure Machine where
  mode : Mode
  /-- The byte of the last quote that was opened. -/
  start : Nat
  idx : Nat
  found : List (Extent TokenKind)

/-- The kind of what stands in quotes. -/
def quotedKind (quote : UInt8) : TokenKind :=
  if quote = '\''.toUInt8 then .string else .quotedName

/-- What is not closed if such a quote is not. -/
def quotedWhat (quote : UInt8) : Unclosed :=
  if quote = '\''.toUInt8 then .string else .quotedName

instance (b : UInt8) (v : List UInt8) : Decidable (ClosesBlock b v) := instDecidableAnd

namespace Machine

/-- Goes on by `n` bytes. -/
def move (m : Machine) (mode : Mode) (n : Nat) : Machine := { m with mode, idx := m.idx + n }

/-- Ends a token before the byte `stop`. -/
def push (m : Machine) (kind : TokenKind) (start stop : Nat) : Machine :=
  { m with mode := .plain, idx := stop, found := m.found ++ [⟨kind, start, stop⟩] }

/-- Opens quotes. -/
def openQuote (m : Machine) (quote : UInt8) : Machine :=
  ⟨.quoted quote, m.idx, m.idx + 1, m.found⟩

/-- At the byte `b` with the bytes `w` after it, outside quotes and comments. -/
def inPlain (m : Machine) (b : UInt8) (w : List UInt8) : Machine :=
  if isBlankByte b then m.move .plain 1
  else if OpensLine b w then m.move .lineComment 2
  else if OpensBlock b w then m.move (.blockComment 1) 2
  else if b = '\''.toUInt8 then m.openQuote b
  else if isNameQuote b then m.openQuote b
  else if b = '?'.toUInt8 then m.push .placeholder m.idx (m.idx + 1)
  else if isWordByte b then m.push .word m.idx (m.idx + 1 + (w.takeWhile isWordByte).length)
  else m.push (.symbol (Char.ofNat b.toNat)) m.idx (m.idx + 1)

/-- Inside quotes. -/
def inQuotes (m : Machine) (q b : UInt8) (w : List UInt8) : Machine :=
  if b = '\\'.toUInt8 then m.move (.quoted q) 2
  else if b = q then
    if w.head? = some q then m.move (.quoted q) 2
    else m.push (quotedKind q) m.start (m.idx + 1)
  else m.move (.quoted q) 1

/-- Inside a comment up to the end of the line. -/
def inLine (m : Machine) (b : UInt8) : Machine :=
  m.move (if b = '\n'.toUInt8 then .plain else .lineComment) 1

/-- Inside as many block comments. -/
def inBlocks (m : Machine) (depth : UInt32) (b : UInt8) (w : List UInt8) : Machine :=
  if OpensBlock b w then m.move (.blockComment (depth + 1)) 2
  else if ClosesBlock b w then
    m.move (if depth = 1 then .plain else .blockComment (depth - 1)) 2
  else m.move (.blockComment depth) 1

/-- One turn of the loop, with a counter that starts over. -/
def turn (m : Machine) (b : UInt8) (w : List UInt8) : Machine :=
  match m.mode with
  | .plain => m.inPlain b w
  | .quoted q => m.inQuotes q b w
  | .lineComment => m.inLine b
  | .blockComment depth => m.inBlocks depth b w

/-- Whether the counter of comments would have to go past its last number, or below zero. -/
def isFull (m : Machine) (b : UInt8) (w : List UInt8) : Prop :=
  match m.mode with
  | .blockComment depth =>
    OpensBlock b w ∧ depth = lastCount ∨ ClosesBlock b w ∧ depth = 0
  | _ => False

instance (m : Machine) (b : UInt8) (w : List UInt8) : Decidable (m.isFull b w) := by
  unfold isFull
  cases m.mode <;> infer_instance

/-- What the machine answers at the end of the text. -/
def result (m : Machine) : Except String (List (Extent TokenKind)) :=
  match m.mode with
  | .plain => .ok m.found
  | .lineComment => .ok m.found
  | .quoted q => .error (LexFault.message ⟨quotedWhat q, m.start⟩)
  | .blockComment _ => .error (LexFault.message ⟨.blockComment, m.start⟩)

theorem idx_lt_turn (m : Machine) (b : UInt8) (w : List UInt8) : m.idx < (m.turn b w).idx := by
  unfold turn inPlain inQuotes inLine inBlocks openQuote
  repeat' split
  all_goals
    simp only [move, push]
    omega

/-- **The loop.** -/
def run (o : Overflow) (bytes : List UInt8) (m : Machine) :
    Except Halt (Except String (List (Extent TokenKind))) :=
  if m.idx < bytes.length then
    match bytes[m.idx]? with
    | none => .error .range
    | some b =>
      if o = .stops ∧ m.isFull b (bytes.drop (m.idx + 1)) then .error .overflow
      else run o bytes (m.turn b (bytes.drop (m.idx + 1)))
  else .ok m.result
termination_by bytes.length - m.idx
decreasing_by
  have := idx_lt_turn m b (bytes.drop (m.idx + 1))
  omega

/-! ## 2. What one turn leaves -/

variable {bytes u v w : List UInt8} {b q : UInt8} {i j start : Nat} {xs : List (Extent TokenKind)}
  {m : Machine}

theorem run_nil (o : Overflow) (h : bytes.drop m.idx = []) : run o bytes m = .ok m.result := by
  rw [run, if_neg (Nat.not_lt_of_le (List.drop_eq_nil_iff.1 h))]

/-- One turn, or a counter that stops the program. -/
theorem run_turn (o : Overflow) (h : bytes.drop m.idx = b :: w) :
    run o bytes m = if o = .stops ∧ m.isFull b w then .error .overflow
      else run o bytes (m.turn b w) := by
  have hget : bytes[m.idx]? = some b := by rw [← List.head?_drop, h, List.head?_cons]
  have hlt : m.idx < bytes.length := (List.getElem?_eq_some_iff.1 hget).1
  have hdrop : bytes.drop (m.idx + 1) = w := by rw [← List.tail_drop, h, List.tail_cons]
  rw [run, if_pos hlt, hget]
  dsimp only
  rw [hdrop]

theorem run_cons (h : bytes.drop m.idx = b :: w) :
    run .wraps bytes m = run .wraps bytes (m.turn b w) := by
  rw [run_turn .wraps h, if_neg fun h => by cases h.1]

theorem drop_add (h : bytes.drop i = u ++ v) : bytes.drop (i + u.length) = v := by
  rw [← List.drop_drop, h, List.drop_left]

theorem drop_one (h : bytes.drop i = b :: w) : bytes.drop (i + 1) = w := drop_add (u := [b]) h

theorem drop_two {c : UInt8} (h : bytes.drop i = b :: c :: w) : bytes.drop (i + 2) = w :=
  drop_add (u := [b, c]) h

/-! ## 3. Through quotes and comments -/

/-- The byte after a backslash is skipped, if there is one. -/
theorem run_backslash (h : bytes.drop i = '\\'.toUInt8 :: w) :
    run .wraps bytes ⟨.quoted q, start, i, xs⟩ = run .wraps bytes ⟨.quoted q, start, i + 2, xs⟩ :=
  (run_cons h).trans (congrArg (run .wraps bytes) (if_pos rfl))

theorem run_doubled (hq : q ≠ '\\'.toUInt8) (h : bytes.drop i = q :: q :: w) :
    run .wraps bytes ⟨.quoted q, start, i, xs⟩ =
      run .wraps bytes ⟨.quoted q, start, i + 2, xs⟩ := by
  rw [run_cons h]
  show run .wraps bytes (inQuotes _ q q (q :: w)) = _
  rw [inQuotes, if_neg hq, if_pos rfl, if_pos (by rfl)]
  rfl

theorem run_inside (hq : b ≠ q) (hb : b ≠ '\\'.toUInt8) (h : bytes.drop i = b :: w) :
    run .wraps bytes ⟨.quoted q, start, i, xs⟩ =
      run .wraps bytes ⟨.quoted q, start, i + 1, xs⟩ := by
  rw [run_cons h]
  show run .wraps bytes (inQuotes _ q b w) = _
  rw [inQuotes, if_neg hb, if_neg hq]
  rfl

/-- **Quotes that are closed** are one token. -/
theorem run_quoted (hq : q ≠ '\\'.toUInt8) (hu : QuoteBody q u) (hv : v.head? ≠ some q)
    (hdrop : bytes.drop i = u ++ q :: v) (hj : j = i + u.length + 1) :
    run .wraps bytes ⟨.quoted q, start, i, xs⟩ =
      run .wraps bytes ⟨.plain, start, j, xs ++ [⟨quotedKind q, start, j⟩]⟩ := by
  induction hu generalizing i with
  | nil =>
    subst hj
    rw [run_cons hdrop]
    show run .wraps bytes (inQuotes _ q q v) = _
    rw [inQuotes, if_neg hq, if_pos rfl, if_neg hv]
    rfl
  | @escaped b u hu ih =>
    rw [run_backslash hdrop]
    refine ih (drop_two hdrop) ?_
    simp only [List.length_cons] at hj
    omega
  | @doubled u hu ih =>
    rw [run_doubled hq hdrop]
    refine ih (drop_two hdrop) ?_
    simp only [List.length_cons] at hj
    omega
  | @plain b u hne hb hu ih =>
    rw [run_inside hne hb hdrop]
    refine ih (drop_one hdrop) ?_
    simp only [List.length_cons] at hj
    omega

/-- Quotes that are never closed are a fault. -/
theorem run_quoted_open (hq : q ≠ '\\'.toUInt8) :
    ∀ (w : List UInt8) (i : Nat), bytes.drop i = w → (∀ v, ¬ ClosesQuote q w v) →
      run .wraps bytes ⟨.quoted q, start, i, xs⟩ =
        .ok (.error (LexFault.message ⟨quotedWhat q, start⟩))
  | [], i, hdrop, _ => run_nil .wraps hdrop
  | b :: w, i, hdrop, hopen => by
    by_cases hb : b = '\\'.toUInt8
    · subst hb
      rw [run_backslash hdrop]
      cases w with
      | nil =>
        refine run_nil .wraps (m := ⟨.quoted q, start, i + 2, xs⟩) (List.drop_eq_nil_iff.2 ?_)
        have hlen := congrArg List.length hdrop
        rw [List.length_drop, List.length_singleton] at hlen
        show bytes.length ≤ i + 2
        omega
      | cons c w =>
        refine run_quoted_open hq w (i + 2) (drop_two hdrop) fun v h => ?_
        exact hopen v ((closesQuote_escaped hq c).2 h)
    · by_cases hbq : q = b
      · subst hbq
        cases w with
        | nil => exact absurd ((closesQuote_quote hq (by simp)).2 rfl) (hopen [])
        | cons c w =>
          by_cases hc : q = c
          · subst hc
            rw [run_doubled hq hdrop]
            refine run_quoted_open hq w (i + 2) (drop_two hdrop) fun v h => ?_
            exact hopen v ((closesQuote_doubled hq).2 h)
          · have hhead : (c :: w).head? ≠ some q := fun h => hc (Option.some.inj h).symm
            exact absurd ((closesQuote_quote hq hhead).2 rfl) (hopen (c :: w))
      · rw [run_inside (Ne.symm hbq) hb hdrop]
        refine run_quoted_open hq w (i + 1) (drop_one hdrop) fun v h => ?_
        exact hopen v ((closesQuote_plain (Ne.symm hbq) hb).2 h)

/-- The mark that opens a comment inside one. -/
theorem run_opened {depth : UInt32} (h : bytes.drop i = '/'.toUInt8 :: '*'.toUInt8 :: w) :
    run .wraps bytes ⟨.blockComment depth, start, i, xs⟩ =
      run .wraps bytes ⟨.blockComment (depth + 1), start, i + 2, xs⟩ :=
  (run_cons h).trans (congrArg (run .wraps bytes) (if_pos ⟨rfl, rfl⟩))

/-- The mark that closes the last comment. -/
theorem run_last (h : bytes.drop i = '*'.toUInt8 :: '/'.toUInt8 :: w) :
    run .wraps bytes ⟨.blockComment 1, start, i, xs⟩ =
      run .wraps bytes ⟨.plain, start, i + 2, xs⟩ := by
  rw [run_cons h]
  show run .wraps bytes (inBlocks _ 1 _ _) = _
  rw [inBlocks, if_neg (by rintro ⟨e, -⟩; cases e), if_pos ⟨rfl, rfl⟩, if_pos rfl]
  rfl

theorem run_closed {depth : UInt32} (hd : depth ≠ 1)
    (h : bytes.drop i = '*'.toUInt8 :: '/'.toUInt8 :: w) :
    run .wraps bytes ⟨.blockComment depth, start, i, xs⟩ =
      run .wraps bytes ⟨.blockComment (depth - 1), start, i + 2, xs⟩ := by
  rw [run_cons h]
  show run .wraps bytes (inBlocks _ depth _ _) = _
  rw [inBlocks, if_neg (by rintro ⟨e, -⟩; cases e), if_pos ⟨rfl, rfl⟩, if_neg hd]
  rfl

theorem run_commented {depth : UInt32} (ho : ¬ OpensBlock b w) (hc : ¬ ClosesBlock b w)
    (h : bytes.drop i = b :: w) :
    run .wraps bytes ⟨.blockComment depth, start, i, xs⟩ =
      run .wraps bytes ⟨.blockComment depth, start, i + 1, xs⟩ := by
  rw [run_cons h]
  show run .wraps bytes (inBlocks _ depth b w) = _
  rw [inBlocks, if_neg ho, if_neg hc]
  rfl

/-- **Comments that are closed** are passed. -/
theorem run_comment {depth : UInt32} (hu : CountedBody depth u) (hdrop : bytes.drop i = u ++ v)
    (hj : j = i + u.length) :
    run .wraps bytes ⟨.blockComment depth, start, i, xs⟩ =
      run .wraps bytes ⟨.plain, start, j, xs⟩ := by
  induction hu generalizing i with
  | last =>
    subst hj
    exact run_last hdrop
  | @closed depth u hd hu ih =>
    rw [run_closed hd hdrop]
    refine ih (drop_two hdrop) ?_
    simp only [List.length_cons] at hj
    omega
  | @opened depth u hu ih =>
    rw [run_opened hdrop]
    refine ih (drop_two hdrop) ?_
    simp only [List.length_cons] at hj
    omega
  | @plain depth b u ho hc hu ih =>
    have hh := head?_append_of_two_le hu.two_le_length v
    rw [run_commented (fun h => ho ⟨h.1, hh.symm.trans h.2⟩)
      (fun h => hc ⟨h.1, hh.symm.trans h.2⟩) hdrop]
    refine ih (drop_one hdrop) ?_
    simp only [List.length_cons] at hj
    omega

/-- Comments that are never closed are a fault. -/
theorem run_comment_open :
    ∀ (w : List UInt8) (i : Nat) (depth : UInt32), bytes.drop i = w →
      (∀ v, ¬ Closes (CountedBody depth) w v) →
      run .wraps bytes ⟨.blockComment depth, start, i, xs⟩ =
        .ok (.error (LexFault.message ⟨.blockComment, start⟩))
  | [], i, depth, hdrop, _ => run_nil .wraps hdrop
  | b :: w, i, depth, hdrop, hopen => by
    by_cases ho : OpensBlock b w
    · obtain ⟨rfl, hw⟩ := ho
      cases w with
      | nil => cases hw
      | cons c w =>
        cases hw
        rw [run_opened hdrop]
        refine run_comment_open w (i + 2) (depth + 1) (drop_two hdrop) fun v h => ?_
        exact hopen v (closesCounted_opened.2 h)
    · by_cases hc : ClosesBlock b w
      · obtain ⟨rfl, hw⟩ := hc
        cases w with
        | nil => cases hw
        | cons c w =>
          cases hw
          by_cases hd : depth = 1
          · subst hd
            exact absurd (closesCounted_last.2 rfl) (hopen w)
          · rw [run_closed hd hdrop]
            refine run_comment_open w (i + 2) (depth - 1) (drop_two hdrop) fun v h => ?_
            exact hopen v ((closesCounted_closed hd).2 h)
      · rw [run_commented ho hc hdrop]
        refine run_comment_open w (i + 1) depth (drop_one hdrop) fun v h => ?_
        exact hopen v ((closesCounted_plain ho hc).2 h)

/-- A comment goes on up to the next line feed. -/
theorem run_line (hu : '\n'.toUInt8 ∉ u) (hdrop : bytes.drop i = u ++ v)
    (hj : j = i + u.length) :
    run .wraps bytes ⟨.lineComment, start, i, xs⟩ =
      run .wraps bytes ⟨.lineComment, start, j, xs⟩ := by
  induction u generalizing i with
  | nil =>
    subst hj
    rfl
  | cons b u ih =>
    obtain ⟨hb, hu⟩ := not_or.1 (fun h => hu (List.mem_cons.2 h))
    rw [run_cons hdrop]
    show run .wraps bytes (inLine _ b) = _
    rw [inLine, if_neg (Ne.symm hb)]
    refine ih hu (drop_one hdrop) ?_
    show j = i + 1 + u.length
    simp only [List.length_cons] at hj
    omega

/-! ## 4. Over lexemes -/

/-- What a lexeme of a kind asks for where it starts. -/
def enter (m : Machine) (b : UInt8) (w : List UInt8) : LexemeKind → Machine
  | .blank => m.move .plain 1
  | .lineComment => m.move .lineComment 2
  | .blockComment => m.move (.blockComment 1) 2
  | .token .string => m.openQuote b
  | .token .quotedName => m.openQuote b
  | .token .word => m.push .word m.idx (m.idx + 1 + (w.takeWhile isWordByte).length)
  | .token kind => m.push kind m.idx (m.idx + 1)

theorem inPlain_eq (m : Machine) (b : UInt8) (w : List UInt8) :
    m.inPlain b w = m.enter b w (kindAt b w) := by
  unfold inPlain kindAt
  -- the two go through the same conditions
  repeat' split
  all_goals rfl

theorem run_enter (start : Nat) (xs : List (Extent TokenKind)) (h : bytes.drop i = b :: w) :
    run .wraps bytes ⟨.plain, start, i, xs⟩ =
      run .wraps bytes (enter ⟨.plain, start, i, xs⟩ b w (kindAt b w)) := by
  rw [← inPlain_eq]
  exact run_cons h

theorem length_takeWhile_word (hu : ∀ x ∈ u, isWordByte x = true)
    (hv : ∀ x ∈ v.head?, isWordByte x = false) :
    ((u ++ v).takeWhile isWordByte).length = u.length := by
  rw [List.takeWhile_append_of_pos hu]
  cases v with
  | nil => simp
  | cons x v => simp [hv x rfl]

theorem quotedKind_name (hq : isNameQuote q = true) : quotedKind q = .quotedName := by
  rcases isNameQuote_iff.1 hq with rfl | rfl
  · rfl
  · rfl

theorem quotedWhat_name (hq : isNameQuote q = true) : quotedWhat q = .quotedName := by
  rcases isNameQuote_iff.1 hq with rfl | rfl
  · rfl
  · rfl

theorem ne_backslash_of_isNameQuote (hq : isNameQuote q = true) : q ≠ '\\'.toUInt8 := by
  rintro rfl
  cases hq

/-- **A lexeme is passed**, and found if it is a token. -/
theorem run_isLexeme {k : LexemeKind} (start : Nat) (xs : List (Extent TokenKind))
    (h : IsLexeme Counted k u v) (hdrop : bytes.drop i = u ++ v) (hj : j = i + u.length) :
    ∃ mode start', mode.Rests v ∧
      run .wraps bytes ⟨.plain, start, i, xs⟩ =
        run .wraps bytes ⟨mode, start', j, xs ++ (Extent.token? ⟨k, i, j⟩).toList⟩ := by
  obtain ⟨b, u, rfl⟩ := List.exists_cons_of_ne_nil h.ne_nil
  rw [List.cons_append] at hdrop
  have henter := run_enter start xs hdrop
  rw [← h.kind_eq] at henter
  rw [henter]
  cases h with
  | blank hb =>
    subst hj
    refine ⟨.plain, start, .inl rfl, ?_⟩
    rw [Extent.token?, Option.toList_none, List.append_nil]
    rfl
  | @lineComment u v hu =>
    refine ⟨.plain, start, .inl rfl, ?_⟩
    rw [List.cons_append, List.append_assoc] at hdrop
    have hrest := drop_two hdrop
    show run .wraps bytes ⟨.lineComment, start, i + 2, xs⟩ = _
    rw [run_line hu hrest rfl, run_cons (drop_add hrest)]
    show run .wraps bytes ⟨.plain, start, i + 2 + u.length + 1, xs⟩ = _
    rw [Extent.token?, Option.toList_none, List.append_nil, hj]
    simp only [List.length_cons, List.length_append, List.length_nil]
    congr 2
    omega
  | @lastComment u hu =>
    refine ⟨.lineComment, start, .inr ⟨rfl, rfl⟩, ?_⟩
    show run .wraps bytes ⟨.lineComment, start, i + 2, xs⟩ = _
    rw [Extent.token?, Option.toList_none, List.append_nil]
    refine run_line hu (drop_two hdrop) ?_
    show j = i + 2 + u.length
    simp only [List.length_cons] at hj
    omega
  | @blockComment u v hu =>
    refine ⟨.plain, start, .inl rfl, ?_⟩
    show run .wraps bytes ⟨.blockComment 1, start, i + 2, xs⟩ = _
    rw [Extent.token?, Option.toList_none, List.append_nil]
    refine run_comment hu (drop_two hdrop) ?_
    show j = i + 2 + u.length
    simp only [List.length_cons] at hj
    omega
  | @string u v hu hv =>
    refine ⟨.plain, i, .inl rfl, ?_⟩
    rw [List.append_assoc] at hdrop
    show run .wraps bytes ⟨.quoted '\''.toUInt8, i, i + 1, xs⟩ = _
    refine run_quoted (by decide) hu hv (drop_one hdrop) ?_
    simp only [List.length_cons, List.length_append, List.length_nil] at hj
    omega
  | @quotedName q u v hq hu hv =>
    refine ⟨.plain, i, .inl rfl, ?_⟩
    rw [List.append_assoc] at hdrop
    show run .wraps bytes ⟨.quoted b, i, i + 1, xs⟩ =
      run .wraps bytes ⟨.plain, i, j, xs ++ [⟨.quotedName, i, j⟩]⟩
    rw [← quotedKind_name hq]
    refine run_quoted (ne_backslash_of_isNameQuote hq) hu hv (drop_one hdrop) ?_
    simp only [List.length_cons, List.length_append, List.length_nil] at hj
    omega
  | placeholder =>
    subst hj
    exact ⟨.plain, start, .inl rfl, rfl⟩
  | @word b u v hu hv =>
    refine ⟨.plain, start, .inl rfl, ?_⟩
    have hlen := length_takeWhile_word (fun x hx => hu x (List.mem_cons_of_mem _ hx)) hv
    have hj' : j = i + 1 + ((u ++ v).takeWhile isWordByte).length := by
      rw [hlen, hj, List.length_cons]
      omega
    subst hj'
    rfl
  | symbol =>
    subst hj
    exact ⟨.plain, start, .inl rfl, rfl⟩

/-- **Lexemes are passed one after the other.** -/
theorem run_lexed {ps : List Piece} (start : Nat) (xs : List (Extent TokenKind))
    (h : Lexed Counted w ps v) (hdrop : bytes.drop i = w)
    (hj : j = i + (ps.flatMap Piece.bytes).length) :
    ∃ mode start', mode.Rests v ∧
      run .wraps bytes ⟨.plain, start, i, xs⟩ =
        run .wraps bytes ⟨mode, start', j, xs ++ (extents i ps).filterMap Extent.token?⟩ := by
  induction h generalizing i start xs with
  | done w =>
    subst hj
    exact ⟨.plain, start, .inl rfl, by simp [extents]⟩
  | @next k u v w ps h hs ih =>
    rw [List.flatMap_cons, List.length_append, ← Nat.add_assoc] at hj
    obtain ⟨mode, start', hmode, hrun⟩ := run_isLexeme start xs h hdrop rfl
    have hext : (extents i (⟨k, u⟩ :: ps)).filterMap Extent.token? =
        (Extent.token? ⟨k, i, i + u.length⟩).toList ++
          (extents (i + u.length) ps).filterMap Extent.token? := by
      rw [extents, List.filterMap_cons]
      cases Extent.token? ⟨k, i, i + u.length⟩ <;> rfl
    rw [hrun, hext, ← List.append_assoc]
    rcases hmode with rfl | ⟨rfl, rfl⟩
    · exact ih _ _ (drop_add hdrop) hj
    · -- nothing follows a comment up to the end
      obtain ⟨rfl, rfl⟩ := lexed_nil.1 hs
      subst hj
      exact ⟨.lineComment, start', .inr ⟨rfl, rfl⟩, by simp [extents]⟩

/-- **What is never closed is a fault**, where it opens. -/
theorem run_unterminated {what : Unclosed} (h : Unterminated Counted what w)
    (hdrop : bytes.drop i = w) :
    run .wraps bytes ⟨.plain, start, i, xs⟩ = .ok (.error (LexFault.message ⟨what, i⟩)) := by
  obtain ⟨hopens, hnone⟩ := h
  cases hopens with
  | string w =>
    rw [run_enter _ _ hdrop]
    exact run_quoted_open (by decide) w (i + 1) (drop_one hdrop) fun v hv =>
      hnone _ v (begins_string.2 ⟨rfl, hv⟩)
  | @quotedName q hq w =>
    have hkind : kindAt q w = .token .quotedName := by
      rcases isNameQuote_iff.1 hq with rfl | rfl
      · rfl
      · rfl
    rw [run_enter _ _ hdrop, hkind, ← quotedWhat_name hq]
    exact run_quoted_open (ne_backslash_of_isNameQuote hq) w (i + 1) (drop_one hdrop) fun v hv =>
      hnone _ v ((begins_quotedName hq).2 ⟨rfl, hv⟩)
  | blockComment w =>
    rw [run_enter _ _ hdrop]
    exact run_comment_open w (i + 2) 1 (drop_two hdrop) fun v hv =>
      hnone _ v (begins_blockComment.2 ⟨rfl, hv⟩)

/-! ## 5. Counters that stop the program -/

/-- **The counter of comments** is not zero where there is one, and every comment took a byte. -/
def Counts (m : Machine) : Prop :=
  ∀ depth, m.mode = .blockComment depth → 1 ≤ depth.toNat ∧ depth.toNat ≤ m.idx

/-- Wherever no comment is open there is nothing to count. -/
theorem counts_of_ne (h : ∀ depth, m.mode ≠ .blockComment depth) : m.Counts := fun depth hdepth =>
  absurd hdepth (h depth)

theorem counts_inPlain (m : Machine) (b : UInt8) (w : List UInt8) : (m.inPlain b w).Counts := by
  rw [inPlain_eq]
  cases kindAt b w with
  | blockComment =>
    intro depth hdepth
    cases hdepth
    exact ⟨Nat.le_refl 1, Nat.le_add_left 1 (m.idx + 1)⟩
  | token kind => cases kind <;> exact counts_of_ne nofun
  | blank => exact counts_of_ne nofun
  | lineComment => exact counts_of_ne nofun

theorem counts_inQuotes (m : Machine) (q b : UInt8) (w : List UInt8) :
    (m.inQuotes q b w).Counts := by
  unfold inQuotes
  repeat' split
  all_goals exact counts_of_ne nofun

theorem counts_inLine (m : Machine) (b : UInt8) : (m.inLine b).Counts := by
  unfold inLine
  split
  all_goals exact counts_of_ne nofun

/-- Inside comments, if the mark is not one that a full counter stops at. -/
theorem counts_inBlocks {depth : UInt32} (hpos : 1 ≤ depth.toNat) (hle : depth.toNat ≤ m.idx)
    (hlast : OpensBlock b w → depth ≠ lastCount) : (m.inBlocks depth b w).Counts := by
  have hzero : depth ≠ 0 := fun e => by
    rw [e] at hpos
    exact absurd hpos (by decide)
  unfold inBlocks
  split
  · rename_i ho
    intro next hnext
    cases hnext
    rw [toNat_add_one (hlast ho)]
    show 1 ≤ depth.toNat + 1 ∧ depth.toNat + 1 ≤ m.idx + 2
    omega
  split
  · split
    · exact counts_of_ne nofun
    · rename_i hone
      intro next hnext
      cases hnext
      have hne : depth.toNat ≠ 1 := fun e => hone (UInt32.toNat_inj.1 e)
      rw [toNat_sub_one hzero]
      show 1 ≤ depth.toNat - 1 ∧ depth.toNat - 1 ≤ m.idx + 2
      omega
  · intro next hnext
    cases hnext
    show 1 ≤ depth.toNat ∧ depth.toNat ≤ m.idx + 1
    omega

/-- **One turn keeps count**, if it is not one that a full counter stops. -/
theorem counts_turn (hm : m.Counts) (hfull : ¬ m.isFull b w) : (m.turn b w).Counts := by
  obtain ⟨mode, start, idx, found⟩ := m
  cases mode with
  | plain => exact counts_inPlain _ b w
  | quoted q => exact counts_inQuotes _ q b w
  | lineComment => exact counts_inLine _ b
  | blockComment depth =>
    obtain ⟨hpos, hle⟩ := hm depth rfl
    exact counts_inBlocks hpos hle fun ho e => hfull (.inl ⟨ho, e⟩)

/-- A full counter has counted as many bytes. -/
theorem le_idx_of_isFull (hm : m.Counts) (hfull : m.isFull b w) : 2 ^ 31 ≤ m.idx := by
  obtain ⟨mode, start, idx, found⟩ := m
  cases mode with
  | blockComment depth =>
    obtain ⟨hpos, hle⟩ := hm depth rfl
    rcases hfull with ⟨-, rfl⟩ | ⟨-, rfl⟩
    · exact Nat.le_trans (by decide) hle
    · exact absurd hpos (by decide)
  | plain | quoted _ | lineComment => cases hfull

theorem answers_run_stops (hm : m.Counts) {a : Except String (List (Extent TokenKind))}
    (ha : run .wraps bytes m = .ok a) : Answers .stops bytes.length (run .stops bytes m) a := by
  fun_induction run .stops bytes m with
  | case1 m hlt hnone => exact absurd hnone (by simpa using hlt)
  | case2 m hlt b hb hfull =>
    exact .overflow rfl (Nat.le_trans (le_idx_of_isFull hm hfull.2) (Nat.le_of_lt hlt)) a
  | case3 m hlt b hb hgo ih =>
    have hdrop : bytes.drop m.idx = b :: bytes.drop (m.idx + 1) := by
      rw [List.drop_eq_getElem_cons hlt, (List.getElem_eq_iff hlt).2 hb]
    rw [run_cons hdrop] at ha
    exact ih (counts_turn hm fun hfull => hgo ⟨rfl, hfull⟩) ha
  | case4 m hge =>
    rw [run, if_neg hge] at ha
    exact .inl ha

/-- **The loop answers the same** whatever a full counter does, unless it stops there. -/
theorem answers_run (o : Overflow) (hm : m.Counts) {a : Except String (List (Extent TokenKind))}
    (ha : run .wraps bytes m = .ok a) : Answers o bytes.length (run o bytes m) a := by
  cases o with
  | wraps => exact .inl ha
  | stops => exact answers_run_stops hm ha

end Machine

/-! ## 6. The text as a whole -/

/-- The tokens of a text as the machine finds them, or the words of its fault. -/
def tokenizeAt (o : Overflow) (s : String) :
    Except Halt (Except String (List (Extent TokenKind))) :=
  Machine.run o s.toByteArray.data.toList ⟨.plain, 0, 0, []⟩

/-- Where counters start over **the machine finds the tokens of the scanner**, for every text. -/
theorem tokenizeAt_wraps (s : String) :
    tokenizeAt .wraps s = .ok ((scan s).mapError LexFault.message) := by
  rw [tokenizeAt, ← utf8_toList, scan, lexemes]
  generalize hbytes : utf8 s.toList = bytes
  have hzero : bytes.drop 0 = bytes := List.drop_zero
  -- the machine passes all lexemes up to `w`
  have hpass : ∀ ps w, Lexed Counted bytes ps w → ∃ mode start, mode.Rests w ∧
      bytes.drop (ps.flatMap Piece.bytes).length = w ∧
      Machine.run .wraps bytes ⟨.plain, 0, 0, []⟩ = Machine.run .wraps bytes
        ⟨mode, start, (ps.flatMap Piece.bytes).length, (extents 0 ps).filterMap Extent.token?⟩ := by
    intro ps w hlexed
    obtain ⟨mode, start, hmode, hrun⟩ :=
      Machine.run_lexed 0 [] hlexed hzero (Nat.zero_add _).symm
    have hdrop := Machine.drop_add (hzero.trans hlexed.bytes_eq)
    rw [Nat.zero_add] at hdrop
    exact ⟨mode, start, hmode, hdrop, hrun⟩
  cases h : lexemesFrom 0 s.toList with
  | ok ls =>
    have hlexed := (lexed_iff_lexemesFrom 0 s.toList _).2 ⟨ls, h, rfl⟩
    rw [hbytes] at hlexed
    obtain ⟨mode, start, hmode, hdrop, hrun⟩ := hpass _ _ hlexed
    rw [hrun, Machine.run_nil .wraps hdrop, ← extent_tokensFrom ls 0 []]
    rcases hmode with rfl | ⟨rfl, -⟩
    · rfl
    · rfl
  | error f =>
    obtain ⟨ps, w, hlexed, hu, hstart⟩ := (lexemesFrom_eq_error_iff 0 s.toList f).1 h
    rw [hbytes] at hlexed
    obtain ⟨mode, start, hmode, hdrop, hrun⟩ := hpass _ _ hlexed
    rcases hmode with rfl | ⟨-, rfl⟩
    · rw [hrun, Machine.run_unterminated hu hdrop, ← Nat.zero_add (List.length _), ← hstart]
      rfl
    · exact absurd hu.opens not_opens_nil

/-- **The machine finds the tokens of the scanner**, or more comments than it can count. -/
theorem answers_tokenizeAt (o : Overflow) (s : String) :
    Answers o s.utf8ByteSize (tokenizeAt o s) ((scan s).mapError LexFault.message) :=
  Machine.answers_run o (Machine.counts_of_ne fun _ => Mode.noConfusion) (tokenizeAt_wraps s)

end StatelessSession.Sql
