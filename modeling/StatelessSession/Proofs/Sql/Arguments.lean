import StatelessSession.Proofs.Sql.Indices

/-!
# Arguments of a call are read back

A list of arguments is written with commas between them and in parentheses. If brackets in each
argument are balanced and its commas are all in brackets, the reader gives these arguments, whatever
stands before and after the list; and if the list breaks off before its closing parenthesis, it
gives none. The reader counts brackets in 32 bits, so they have to be nested less than 2 ^ 32 deep.

* `Bracketed`, `Listed` -- the grammar.
* `argumentsFrom_bracketed` -- the reader passes through balanced brackets.
* `argumentsFrom_closed` -- through a whole list.
* `argumentsFrom_append` -- what is read does not depend on what follows; so nothing is read from a
  list that breaks off.
* `ArgumentOf` -- what an argument is in its text.
* **`arguments_read_back`** -- the arguments of a list.

NOT here: brackets that do not match, of which the reader takes any for any (`Sql.Call`).
-/

namespace StatelessSession.Sql

variable {s : List Char} {o c t : Token} {a inner us ts r current : List Token}
  {args : List (List Token)} {done answers : List Argument} {inside : Bool} {depth : UInt32}
  {n : Nat}

/-! ## 1. The grammar -/

/-- A bracket and the one that closes it. -/
def Matching (o c : Token) : Prop :=
  o.isSymbol '(' = true ∧ c.isSymbol ')' = true ∨ o.isSymbol '[' = true ∧ c.isSymbol ']' = true

/-- **Balanced brackets**, nested no more than `n` deep. A comma stands in brackets, unless the
    tokens themselves stand in brackets (`inside`). -/
inductive Bracketed : Nat → Bool → List Token → Prop where
  | nil {n : Nat} {inside : Bool} : Bracketed n inside []
  | plain {n : Nat} {inside : Bool} {t : Token} {ts : List Token} (ho : t.opens = false)
      (hc : t.closes = false) (hcomma : t.isSymbol ',' = true → inside = true)
      (h : Bracketed n inside ts) : Bracketed n inside (t :: ts)
  | brackets {n : Nat} {inside : Bool} {o c : Token} {ts us : List Token} (hm : Matching o c)
      (ht : Bracketed n true ts) (hu : Bracketed (n + 1) inside us) :
      Bracketed (n + 1) inside (o :: (ts ++ c :: us))

/-- **Arguments with commas between them.** -/
inductive Listed : List (List Token) → List Token → Prop where
  | nil : Listed [] []
  | single (a : List Token) : Listed [a] a
  | cons {a b : List Token} {comma : Token} {args : List (List Token)} {ts : List Token}
      (hcomma : comma.isSymbol ',' = true) (h : Listed (b :: args) ts) :
      Listed (a :: b :: args) (a ++ comma :: ts)

/-! ## 2. Single tokens -/

theorem isSymbol_iff {d : Char} : t.isSymbol d = true ↔ t.kind = .symbol d := beq_iff_eq

/-- A token is one symbol at most. -/
theorem not_isSymbol {d e : Char} (h : t.isSymbol d = true) (hne : d ≠ e) :
    t.isSymbol e = false := by
  refine Bool.eq_false_iff.2 fun h' => hne ?_
  exact TokenKind.symbol.inj ((isSymbol_iff.1 h).symm.trans (isSymbol_iff.1 h'))

theorem opens_of_isSymbol {d : Char} (h : t.isSymbol d = true) (hround : d ≠ '(')
    (hsquare : d ≠ '[') : t.opens = false := by
  rw [Token.opens, not_isSymbol h hround, not_isSymbol h hsquare, Bool.or_false]

theorem Matching.opens (h : Matching o c) : o.opens = true := by
  rw [Token.opens, Bool.or_eq_true]
  exact h.imp And.left And.left

theorem Matching.closes (h : Matching o c) : c.opens = false ∧ c.closes = true := by
  rw [Token.closes, Bool.or_eq_true]
  rcases h with ⟨-, h⟩ | ⟨-, h⟩
  · exact ⟨opens_of_isSymbol h (by decide) (by decide), .inl h⟩
  · exact ⟨opens_of_isSymbol h (by decide) (by decide), .inr h⟩

theorem argumentsFrom_open (ho : o.opens = true) (r : List Token) :
    argumentsFrom depth current done (o :: r) =
      argumentsFrom (depth + 1) (o :: current) done r := by
  rw [argumentsFrom, if_pos ho]

theorem argumentsFrom_close (ho : c.opens = false) (hc : c.closes = true) (hd : depth ≠ 0)
    (r : List Token) :
    argumentsFrom depth current done (c :: r) =
      argumentsFrom (depth - 1) (c :: current) done r := by
  have hend : ¬ (c.isSymbol ')' = true ∧ depth = 0) := fun h => hd h.2
  rw [argumentsFrom, ho, if_neg Bool.false_ne_true, if_neg hend, if_pos hc, lower, if_neg hd]

theorem argumentsFrom_plain (ho : t.opens = false) (hc : t.closes = false)
    (hcomma : t.isSymbol ',' = true → depth ≠ 0) (r : List Token) :
    argumentsFrom depth current done (t :: r) = argumentsFrom depth (t :: current) done r := by
  have hend : ¬ (t.isSymbol ')' = true ∧ depth = 0) := fun h => by
    rw [Token.closes, h.1] at hc
    cases hc
  have hcut : ¬ (t.isSymbol ',' = true ∧ depth = 0) := fun h => hcomma h.1 h.2
  rw [argumentsFrom, ho, if_neg Bool.false_ne_true, if_neg hend, hc, if_neg Bool.false_ne_true,
    if_neg hcut]

/-- A comma outside brackets ends an argument. -/
theorem argumentsFrom_comma (hc : c.isSymbol ',' = true) (r : List Token) :
    argumentsFrom 0 current done (c :: r) =
      argumentsFrom 0 [] (Argument.ofTokens current.reverse :: done) r := by
  have hround : c.isSymbol ')' = false := not_isSymbol hc (by decide)
  have hopens := opens_of_isSymbol hc (by decide) (by decide)
  have hcloses : c.closes = false := by
    rw [Token.closes, hround, not_isSymbol hc (by decide), Bool.or_false]
  have hend : ¬ (c.isSymbol ')' = true ∧ (0 : UInt32) = 0) := fun h => by
    rw [hround] at h
    cases h.1
  rw [argumentsFrom, hopens, if_neg Bool.false_ne_true, if_neg hend, hcloses,
    if_neg Bool.false_ne_true, if_pos ⟨hc, rfl⟩]

/-- A parenthesis outside brackets ends the list. -/
theorem argumentsFrom_end (hc : c.isSymbol ')' = true) (r : List Token) :
    argumentsFrom 0 current done (c :: r) =
      if current.isEmpty && done.isEmpty then some ([], r)
      else some ((Argument.ofTokens current.reverse :: done).reverse, r) := by
  rw [argumentsFrom, opens_of_isSymbol hc (by decide) (by decide), if_neg Bool.false_ne_true,
    if_pos ⟨hc, rfl⟩]

/-! ## 3. Lists that are closed -/

/-- Short of the last number a bracket is counted. -/
theorem count_open (h : depth.toNat + (n + 1) < 2 ^ 32) :
    (depth + 1).toNat + n < 2 ^ 32 ∧ depth + 1 ≠ 0 := by
  have hlast : depth ≠ lastCount := fun e => by
    have htoNat : lastCount.toNat = 2 ^ 32 - 1 := rfl
    rw [e, htoNat] at h
    omega
  have hnext := toNat_add_one hlast
  refine ⟨by omega, fun e => ?_⟩
  rw [e] at hnext
  exact absurd hnext.symm (Nat.succ_ne_zero _)

/-- **The reader passes through balanced brackets** and is as deep after them as before, if it can
    count them. -/
theorem argumentsFrom_bracketed (h : Bracketed n inside ts) (hd : inside = true → depth ≠ 0)
    (hn : depth.toNat + n < 2 ^ 32) (r : List Token) :
    argumentsFrom depth current done (ts ++ r) =
      argumentsFrom depth (ts.reverse ++ current) done r := by
  induction h generalizing depth current r with
  | nil => rfl
  | plain ho hc hcomma _ ih =>
    rw [List.cons_append, argumentsFrom_plain ho hc fun h => hd (hcomma h), ih hd hn]
    simp
  | brackets hm _ _ iht ihu =>
    obtain ⟨hopens, hcloses⟩ := hm.closes
    obtain ⟨hin, hne⟩ := count_open hn
    rw [List.cons_append, List.append_assoc, List.cons_append, argumentsFrom_open hm.opens,
      iht (fun _ => hne) hin, argumentsFrom_close hopens hcloses hne, UInt32.add_sub_cancel,
      ihu hd hn]
    simp

/-- The rest of a list, after the arguments `done`. -/
theorem argumentsFrom_listed (hn : n < 2 ^ 32) (hargs : ∀ x ∈ a :: args, Bracketed n false x)
    (h : Listed (a :: args) inner) (hc : c.isSymbol ')' = true) (r : List Token) :
    argumentsFrom 0 [] done (inner ++ c :: r) =
      some (if a :: args = [[]] ∧ done = [] then []
        else done.reverse ++ (a :: args).map Argument.ofTokens, r) := by
  have hzero : (0 : UInt32).toNat + n < 2 ^ 32 := by rwa [UInt32.toNat_zero, Nat.zero_add]
  induction args generalizing a inner done with
  | nil =>
    cases h
    obtain ⟨ha, -⟩ := List.forall_mem_cons.1 hargs
    rw [argumentsFrom_bracketed ha (absurd · Bool.false_ne_true) hzero, argumentsFrom_end hc,
      List.append_nil, List.reverse_reverse, List.isEmpty_reverse]
    cases a <;> cases done <;> simp
  | cons b args ih =>
    obtain ⟨ha, hargs⟩ := List.forall_mem_cons.1 hargs
    cases h with
    | @cons _ _ comma _ ts hcomma h =>
      rw [List.append_assoc, argumentsFrom_bracketed ha (absurd · Bool.false_ne_true) hzero,
        List.cons_append, argumentsFrom_comma hcomma, ih hargs h]
      simp

/-- **A list that is closed is read as its arguments**; the list of one empty argument is written as
    the empty list is, and read as it. -/
theorem argumentsFrom_closed (hn : n < 2 ^ 32) (hargs : ∀ x ∈ args, Bracketed n false x)
    (h : Listed args inner) (hc : c.isSymbol ')' = true) (r : List Token) :
    argumentsFrom 0 [] [] (inner ++ c :: r) =
      some (if args = [[]] then [] else args.map Argument.ofTokens, r) := by
  cases args with
  | nil =>
    cases h
    exact argumentsFrom_end hc r
  | cons a args =>
    rw [argumentsFrom_listed hn hargs h hc]
    simp

/-! ## 4. Lists that break off -/

/-- **What is read does not depend on what follows.** -/
theorem argumentsFrom_append (h : argumentsFrom depth current done ts = some (answers, r))
    (us : List Token) : argumentsFrom depth current done (ts ++ us) = some (answers, r ++ us) := by
  fun_induction argumentsFrom depth current done ts with
  | case1 => cases h
  | case2 depth current done t ts ho ih => rw [List.cons_append, argumentsFrom, if_pos ho, ih h]
  | case3 depth current done t ts ho hend hempty =>
    cases h
    rw [List.cons_append, argumentsFrom, if_neg ho, if_pos hend, if_pos hempty]
  | case4 depth current done t ts ho hend hempty =>
    cases h
    rw [List.cons_append, argumentsFrom, if_neg ho, if_pos hend, if_neg hempty]
  | case5 depth current done t ts ho hend hc ih =>
    rw [List.cons_append, argumentsFrom, if_neg ho, if_neg hend, if_pos hc, ih h]
  | case6 depth current done t ts ho hend hc hcomma ih =>
    rw [List.cons_append, argumentsFrom, if_neg ho, if_neg hend, if_neg hc, if_pos hcomma, ih h]
  | case7 depth current done t ts ho hend hc hcomma ih =>
    rw [List.cons_append, argumentsFrom, if_neg ho, if_neg hend, if_neg hc, if_neg hcomma, ih h]

/-- **A list that breaks off is not read**: closed after all, it would be read up to its end, and so
    what is read before the end would have to leave nothing. -/
theorem argumentsFrom_open_eq_none (hn : n < 2 ^ 32) (hargs : ∀ x ∈ args, Bracketed n false x)
    (h : Listed args inner) (hu : us <+: inner) : argumentsFrom 0 [] [] us = none := by
  obtain ⟨vs, rfl⟩ := hu
  have hclosed := argumentsFrom_closed (c := ⟨.symbol ')', [')'], 0, []⟩) hn hargs h rfl []
  cases hread : argumentsFrom 0 [] [] us with
  | none => rfl
  | some p =>
    obtain ⟨answers, r⟩ := p
    rw [List.append_assoc, argumentsFrom_append hread] at hclosed
    have hrest := congrArg Prod.snd (Option.some.inj hclosed)
    simp at hrest

/-! ## 5. What is read -/

/-- **What an argument is**, by its tokens in the text `s`: empty, a string literal on its own, or
    the source from its first to its last token. -/
inductive ArgumentOf (s : List Char) : List Token → Argument → Prop where
  | empty : ArgumentOf s [] (.expression [])
  | literal {t : Token} {text : List Char} (hk : t.kind = .string)
      (h : slice? s t.start t.stop = some text) : ArgumentOf s [t] (.literal text)
  | single {t : Token} {text : List Char} (hk : t.kind ≠ .string)
      (h : slice? s t.start t.stop = some text) : ArgumentOf s [t] (.expression text)
  | span {first second last : Token} {ts : List Token} {text : List Char}
      (hlast : (second :: ts).getLast? = some last)
      (h : slice? s first.start last.stop = some text) :
      ArgumentOf s (first :: second :: ts) (.expression text)

theorem argumentOf_ofTokens (h : Sliced s ts) : ArgumentOf s ts (Argument.ofTokens ts) := by
  match ts, h with
  | [], _ => exact .empty
  | [t], h =>
    have htext := h.text (t := t) List.mem_cons_self
    rw [Argument.ofTokens]
    split
    · exact .literal ‹_› htext
    · exact .single ‹_› htext
  | first :: second :: ts, h =>
    have hlast := List.getLast?_eq_some_getLast (List.cons_ne_nil second ts)
    exact .span hlast (h _ (List.infix_refl _) first rfl _ ((List.getLast?_cons_cons).trans hlast))

/-- The reader at the token after the first `before.length`. -/
theorem readArguments?_drop (before : List Token) (ho : o.isSymbol '(' = true) (ts : List Token) :
    readArguments? ((before ++ o :: ts).drop before.length) = argumentsFrom 0 [] [] ts := by
  rw [List.drop_left, readArguments?, if_pos ho]

/-- Every argument stands in its list. -/
theorem Listed.isInfix (h : Listed args inner) (ha : a ∈ args) : a <:+: inner := by
  induction h with
  | nil => cases ha
  | single b =>
    cases List.mem_singleton.1 ha
    exact List.infix_refl _
  | @cons b c comma args ts _ _ ih =>
    rcases List.mem_cons.1 ha with rfl | ha
    · exact (List.prefix_append _ _).isInfix
    · exact (ih ha).trans ((List.suffix_cons comma ts).trans (List.suffix_append b _)).isInfix

/-- **Reading inverts writing.** Arguments `args` whose brackets are balanced, nested less than
    2 ^ 32 deep, and whose commas are in brackets are written, with commas between them, as `inner`,
    after the tokens `before` and the parenthesis `o`. Before a closing parenthesis exactly these
    arguments are read, up to this parenthesis, unless they are one empty argument, which is written
    as no argument is; from a part of `inner` that ends before the closing parenthesis none are
    read. Indices give the same where counters start over, and where a full one stops the program
    for every text of less than 2 ^ 31 tokens. -/
theorem arguments_read_back (ho : o.isSymbol '(' = true) (hn : n < 2 ^ 32)
    (hargs : ∀ x ∈ args, Bracketed n false x) (hlist : Listed args inner) (before : List Token) :
    (∀ (c : Token) (after whole : List Token), c.isSymbol ')' = true → args ≠ [[]] →
      whole = before ++ o :: (inner ++ c :: after) →
      readArguments? (whole.drop before.length) = some (args.map Argument.ofTokens, after) ∧
      ∀ s overflow, Sliced s whole → overflow = .wraps ∨ whole.length < 2 ^ 31 →
        ∃ answers, List.Forall₂ (ArgumentOf s) args answers ∧
          argumentsAt overflow s (whole.map Token.extent) before.length =
            .ok (some (answers, before.length + inner.length + 2))) ∧
    (∀ us whole : List Token, us <+: inner → whole = before ++ o :: us →
      readArguments? (whole.drop before.length) = none ∧
      ∀ s overflow, Sliced s whole → overflow = .wraps ∨ whole.length < 2 ^ 31 →
        argumentsAt overflow s (whole.map Token.extent) before.length = .ok none) := by
  constructor
  case left =>
    rintro c after whole hc hne rfl
    have hread : readArguments? ((before ++ o :: (inner ++ c :: after)).drop before.length) =
        some (args.map Argument.ofTokens, after) := by
      rw [readArguments?_drop before ho, argumentsFrom_closed hn hargs hlist hc, if_neg hne]
    refine ⟨hread, fun s overflow hs hsize => ⟨args.map Argument.ofTokens, ?_, ?_⟩⟩
    · refine List.forall₂_map_right_iff.2 (List.forall₂_same.2 fun a ha => ?_)
      -- an argument is a part of the whole text, so it is cut from it
      have hpart : inner <:+: before ++ o :: (inner ++ c :: after) :=
        ⟨before ++ [o], c :: after, by simp⟩
      exact argumentOf_ofTokens (hs.mono ((hlist.isInfix ha).trans hpart))
    · rw [(answers_argumentsAt overflow hs before.length).eq_ok hsize, hread]
      simp only [Option.map_some, List.length_append, List.length_cons]
      congr 3
      omega
  case right =>
    rintro us whole hu rfl
    have hread : readArguments? ((before ++ o :: us).drop before.length) = none := by
      rw [readArguments?_drop before ho, argumentsFrom_open_eq_none hn hargs hlist hu]
    refine ⟨hread, fun s overflow hs hsize => ?_⟩
    rw [(answers_argumentsAt overflow hs before.length).eq_ok hsize, hread]
    rfl

/-- A literal, a list and an empty argument. -/
def nestedCall : String := "f('a', [b, c],)"

/-- Its first argument. -/
def literalTokens : List Token := [⟨.string, "'a'".toList, 2, []⟩]

/-- Its second argument, with a comma in brackets; the third is empty. -/
def listTokens : List Token :=
  [⟨.symbol '[', ['['], 7, [' ']⟩, ⟨.word, ['b'], 8, []⟩, ⟨.symbol ',', [','], 9, []⟩,
    ⟨.word, ['c'], 11, [' ']⟩, ⟨.symbol ']', [']'], 12, []⟩]

/-- Its tokens between the parentheses. -/
def nestedTokens : List Token :=
  literalTokens ++ ⟨.symbol ',', [','], 5, []⟩ :: (listTokens ++ ⟨.symbol ',', [','], 13, []⟩ :: [])

theorem listed_nestedTokens : Listed [literalTokens, listTokens, []] nestedTokens :=
  .cons rfl (.cons rfl (.single []))

theorem bracketed_nestedTokens : ∀ x ∈ [literalTokens, listTokens, []], Bracketed 1 false x := by
  have hliteral : Bracketed 1 false literalTokens := .plain rfl rfl (fun h => by cases h) .nil
  have hinside : Bracketed 0 true
      [⟨.word, ['b'], 8, []⟩, ⟨.symbol ',', [','], 9, []⟩, ⟨.word, ['c'], 11, [' ']⟩] :=
    .plain rfl rfl (fun _ => rfl)
      (.plain rfl rfl (fun _ => rfl) (.plain rfl rfl (fun _ => rfl) .nil))
  have hlist : Bracketed 1 false listTokens := .brackets (.inr ⟨rfl, rfl⟩) hinside .nil
  simp only [List.forall_mem_cons]
  exact ⟨hliteral, hlist, .nil, List.forall_mem_nil _⟩

/-- **The arguments of a call are read back from its text**, and none before it is closed. -/
theorem arguments_read_back_nested :
    ∃ ls, lexemes nestedCall.toList = .ok ls ∧
      (∀ overflow, ∃ answers,
        List.Forall₂ (ArgumentOf nestedCall.toList) [literalTokens, listTokens, []] answers ∧
        argumentsAt overflow nestedCall.toList ((tokens ls).map Token.extent) 1 =
          .ok (some (answers, 11))) ∧
      ∀ us, us <+: nestedTokens → readArguments? (⟨.symbol '(', ['('], 1, []⟩ :: us) = none := by
  have htokens : (lexemes nestedCall.toList).map tokens = .ok ([⟨.word, ['f'], 0, []⟩] ++
      ⟨.symbol '(', ['('], 1, []⟩ :: (nestedTokens ++ [⟨.symbol ')', [')'], 14, []⟩])) := by
    decide +kernel
  obtain ⟨ls, hls, htokens⟩ := map_eq_ok_iff.1 htokens
  have hlen : (tokens ls).length < 2 ^ 31 := by
    rw [htokens]
    decide
  obtain ⟨hclosed, hopen⟩ := arguments_read_back (o := ⟨.symbol '(', ['('], 1, []⟩) rfl
    (n := 1) (by decide) bracketed_nestedTokens listed_nestedTokens [⟨.word, ['f'], 0, []⟩]
  obtain ⟨-, hanswers⟩ := hclosed _ _ _ rfl (by decide) htokens
  exact ⟨ls, hls, fun overflow => hanswers _ overflow (sliced_tokens hls) (.inr hlen),
    fun us hu => (hopen us _ hu rfl).1⟩

end StatelessSession.Sql
