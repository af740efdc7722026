import StatelessSession.Proofs.Sql.Calls
import StatelessSession.Proofs.Sql.Machine
import StatelessSession.Proofs.Sql.Slices

/-!
# Tokens by their indices

The searches for keywords and for calls, and the reader of arguments, with indices into a list of
tokens instead of on what is left of it, and with tokens that are known by their bytes alone. An
index outside the list and a slice that cannot be taken are `none`, and stop the program; there are
none of either, and what is found stands where the recursions leave off. The reader of arguments
counts brackets, and can have too many of them.

* `range?`, `Extent.text?` -- what can fail.
* `afterKeywordsAt?_eq` -- the first run of keywords.
* `argumentAt?_eq`, `answers_argumentsAt` -- one argument, a list of them.
* `nextCallAt?_eq`, `answers_callsAt` -- the next call, all calls.
-/

namespace StatelessSession.Sql

variable {α : Type} {s : List Char} {t : Token} {ts us all current : List Token}
  {ks : List String} {name : String} {i j n first : Nat}

/-! ## 1. Ranges -/

/-- The elements from index `i` up to index `j`; `none` if `j` is before `i` or after the end. -/
def range? (xs : List α) (i j : Nat) : Option (List α) :=
  if i ≤ j ∧ j ≤ xs.length then some ((xs.drop i).take (j - i)) else none

theorem range?_append (u m v : List α) (hi : i = u.length) (hj : j = i + m.length) :
    range? (u ++ (m ++ v)) i j = some m := by
  subst hi hj
  rw [range?, if_pos ⟨Nat.le_add_right _ _, by simp⟩, List.drop_left, Nat.add_sub_cancel_left,
    List.take_left]

theorem range?_to_end {xs : List α} (hi : i ≤ xs.length) :
    range? xs i xs.length = some (xs.drop i) := by
  rw [range?, if_pos ⟨hi, Nat.le_refl _⟩, List.take_of_length_le]
  rw [List.length_drop]

/-- A list is left over at the index that its length tells. -/
theorem drop_length_sub {xs rest : List α} (h : rest <:+ xs) :
    xs.drop (xs.length - rest.length) = rest := (List.suffix_iff_eq_drop.1 h).symm

theorem Sliced.mono (h : Sliced s ts) (hu : us <:+: ts) : Sliced s us := fun vs hv =>
  h vs (hv.trans hu)

/-- The text of a token by its bytes. -/
def Extent.text? (s : List Char) (x : Extent TokenKind) : Option (List Char) :=
  slice? s x.start x.stop

theorem Sliced.text? (h : Sliced s ts) (ht : t ∈ ts) : t.extent.text? s = some t.text := h.text ht

/-! ## 2. Keywords -/

/-- Whether a token is a given lower-case word. Only the text of a word is cut. -/
def isKeywordAt? (s : List Char) (x : Extent TokenKind) (keyword : String) : Option Bool :=
  if x.kind = .word then
    (x.text? s).map fun text => text.map Char.toLower == keyword.toList
  else some false

theorem isKeywordAt?_eq (h : Sliced s ts) (ht : t ∈ ts) (keyword : String) :
    isKeywordAt? s t.extent keyword = some (t.isKeyword keyword) := by
  rw [isKeywordAt?, h.text? ht, Token.isKeyword]
  by_cases hk : t.kind = .word
  · rw [if_pos (by exact hk), hk]
    rfl
  · rw [if_neg (by exact hk), beq_false_of_ne hk]
    rfl

/-- Whether the tokens at the front are the keywords, pair by pair up to the end of either. -/
def keywordsAt? (s : List Char) : List String → List (Extent TokenKind) → Option Bool
  | [], _ => some true
  | _ :: _, [] => some true
  | k :: ks, x :: xs => do
    if ← isKeywordAt? s x k then keywordsAt? s ks xs else return false

theorem dropKeywords?_length {rest : List Token} (h : dropKeywords? ks us = some rest) :
    us.length = ks.length + rest.length := by
  fun_induction dropKeywords? ks us with
  | case1 us =>
    cases h
    exact (Nat.zero_add _).symm
  | case2 => cases h
  | case3 k ks t us hk ih =>
    rw [List.length_cons, List.length_cons, ih h]
    omega
  | case4 => cases h

theorem dropKeywords?_suffix {rest : List Token} (h : dropKeywords? ks us = some rest) :
    rest <:+ us := by
  fun_induction dropKeywords? ks us with
  | case1 us =>
    cases h
    exact List.suffix_refl _
  | case2 => cases h
  | case3 k ks t us hk ih => exact (ih h).trans (List.suffix_cons t us)
  | case4 => cases h

/-- **Where there are as many tokens as keywords** the comparison is that of the recursion. -/
theorem keywordsAt?_eq (h : Sliced s us) (hlen : ks.length ≤ us.length) :
    keywordsAt? s ks (us.map Token.extent) = some (dropKeywords? ks us).isSome := by
  fun_induction dropKeywords? ks us with
  | case1 => rfl
  | case2 k ks => simp at hlen
  | case3 k ks t us hk ih =>
    rw [List.map_cons, keywordsAt?, isKeywordAt?_eq h List.mem_cons_self, hk]
    refine ih (h.mono (List.suffix_cons t us).isInfix) ?_
    simp only [List.length_cons] at hlen
    omega
  | case4 k ks t us hk =>
    rw [List.map_cons, keywordsAt?, isKeywordAt?_eq h List.mem_cons_self,
      Bool.eq_false_iff.2 hk]
    rfl

/-- Tries `n` indices from `i` on, and goes past the keywords that are found. -/
def searchKeywords? (s : List Char) (xs : List (Extent TokenKind)) (ks : List String) :
    Nat → Nat → Option (Option Nat)
  | 0, _ => some none
  | n + 1, i => do
    let rest ← range? xs i xs.length
    if ← keywordsAt? s ks rest then return some (i + ks.length)
    else searchKeywords? s xs ks n (i + 1)

/-- The index after the first run of keywords at `first` or later. -/
def afterKeywordsAt? (s : List Char) (xs : List (Extent TokenKind)) (first : Nat)
    (ks : List String) : Option (Option Nat) :=
  if ks = [] ∨ xs.length < first + ks.length then some none
  else searchKeywords? s xs ks (xs.length - ks.length + 1 - first) first

theorem afterKeywords?_eq_none (h : us.length < ks.length) : afterKeywords? ks us = none := by
  induction us with
  | nil => rfl
  | cons t us ih =>
    rw [afterKeywords?]
    split
    · rename_i rest hrest
      have hlen := dropKeywords?_length hrest
      omega
    · refine ih ?_
      rw [List.length_cons] at h
      omega

theorem searchKeywords?_eq (h : Sliced s ts) (hks : ks ≠ [])
    (hn : i + n + ks.length = ts.length + 1) :
    searchKeywords? s (ts.map Token.extent) ks n i =
      some ((afterKeywords? ks (ts.drop i)).map fun rest => ts.length - rest.length) := by
  have hpos := List.length_pos_iff.2 hks
  induction n generalizing i with
  | zero =>
    rw [searchKeywords?, afterKeywords?_eq_none]
    · rfl
    · rw [List.length_drop]
      omega
  | succ n ih =>
    have hi : i < ts.length := by omega
    have hrange : range? (ts.map Token.extent) i (ts.map Token.extent).length =
        some ((ts.drop i).map Token.extent) := by
      rw [range?_to_end (by rw [List.length_map]; omega), List.map_drop]
    have hsame : keywordsAt? s ks ((ts.drop i).map Token.extent) = _ :=
      keywordsAt?_eq (h.mono (List.drop_suffix i ts).isInfix) (by rw [List.length_drop]; omega)
    have hcons := List.drop_eq_getElem_cons hi
    rw [searchKeywords?, hrange]
    refine (congrArg (Option.bind · _) hsame).trans ?_
    rw [hcons, afterKeywords?]
    cases hd : dropKeywords? ks (ts[i] :: ts.drop (i + 1)) with
    | none => exact ih (by omega)
    | some rest =>
      have hlen := dropKeywords?_length hd
      rw [← hcons, List.length_drop] at hlen
      show some (some (i + ks.length)) = some (some (ts.length - rest.length))
      congr 2
      omega

/-- **The first run of keywords** is found where the recursion finds it; of no keywords there is
    none. -/
theorem afterKeywordsAt?_eq (h : Sliced s ts) (first : Nat) (ks : List String) :
    afterKeywordsAt? s (ts.map Token.extent) first ks =
      some (if ks = [] then none
        else (afterKeywords? ks (ts.drop first)).map fun rest => ts.length - rest.length) := by
  rw [afterKeywordsAt?, List.length_map]
  by_cases hks : ks = []
  · rw [if_pos (.inl hks), if_pos hks]
  · by_cases hlen : ts.length < first + ks.length
    · have hpos := List.length_pos_iff.2 hks
      rw [if_pos (.inr hlen), if_neg hks, afterKeywords?_eq_none]
      · rfl
      · rw [List.length_drop]
        omega
    · rw [if_neg (not_or.2 ⟨hks, hlen⟩), if_neg hks]
      exact searchKeywords?_eq h hks (by omega)

/-! ## 3. Arguments -/

/-- The argument that some tokens are, by the bytes from the first to the last. -/
def argumentAt? (s : List Char) : List (Extent TokenKind) → Option Argument
  | [] => some (.expression [])
  | [x] =>
    if x.kind = .string then (x.text? s).map .literal else (x.text? s).map .expression
  | x :: y :: xs =>
    (slice? s x.start ((y :: xs).getLast (List.cons_ne_nil y xs)).stop).map .expression

theorem argumentAt?_eq (h : Sliced s us) :
    argumentAt? s (us.map Token.extent) = some (Argument.ofTokens us) := by
  match us with
  | [] => rfl
  | [t] =>
    have htext := h.text? (t := t) List.mem_cons_self
    rw [List.map_cons, List.map_nil, argumentAt?, htext, Argument.ofTokens]
    by_cases hk : t.kind = .string
    · rw [if_pos hk, if_pos (by exact hk)]
      rfl
    · rw [if_neg hk, if_neg (by exact hk)]
      rfl
  | t :: u :: us =>
    have hlast := List.getLast?_eq_some_getLast (List.cons_ne_nil u us)
    have hspan := h _ (List.infix_refl _) t rfl _ ((List.getLast?_cons_cons).trans hlast)
    have hmap : ((u :: us).map Token.extent).getLast (by simp) =
        ((u :: us).getLast (List.cons_ne_nil u us)).extent := List.getLast_map _
    refine (congrArg (fun x : Extent TokenKind => (slice? s t.start x.stop).map _) hmap).trans ?_
    exact congrArg _ hspan

/-- The argument from index `i` up to index `j`. -/
def cutArgument? (s : List Char) (xs : List (Extent TokenKind)) (i j : Nat) : Option Argument := do
  let tokens ← range? xs i j
  argumentAt? s tokens

theorem cutArgument?_eq {u v : List Token} (h : Sliced s (u ++ (us ++ v))) (hi : i = u.length)
    (hj : j = i + us.length) :
    cutArgument? s ((u ++ (us ++ v)).map Token.extent) i j = some (Argument.ofTokens us) := by
  have hrange := range?_append (u.map Token.extent) (us.map Token.extent) (v.map Token.extent)
    (hi.trans (List.length_map _).symm) (hj.trans (congrArg (i + ·) (List.length_map _).symm))
  rw [← List.map_append, ← List.map_append] at hrange
  rw [cutArgument?, hrange]
  exact argumentAt?_eq (h.mono ⟨u, v, List.append_assoc u us v⟩)

/-- Goes through the tokens from index `i` on, inside `depth` brackets, in an argument from index
    `argStart` on, after the arguments `args`. -/
def argumentsLoop (o : Overflow) (s : List Char) (all : List (Extent TokenKind)) :
    Nat → UInt32 → Nat → List Argument → List (Extent TokenKind) →
      Except Halt (Option (List Argument × Nat))
  | _, _, _, _, [] => .ok none
  | i, depth, argStart, args, x :: xs =>
    if x.kind == .symbol '(' || x.kind == .symbol '[' then
      if o = .stops ∧ depth = lastCount then .error .overflow
      else argumentsLoop o s all (i + 1) (depth + 1) argStart args xs
    else if (x.kind == .symbol ')') ∧ depth = 0 then
      if argStart < i || !args.isEmpty then do
        let arg ← reach (cutArgument? s all argStart i)
        return some (args ++ [arg], i + 1)
      else return some (args, i + 1)
    else if x.kind == .symbol ')' || x.kind == .symbol ']' then
      argumentsLoop o s all (i + 1) (lower depth) argStart args xs
    else if (x.kind == .symbol ',') ∧ depth = 0 then do
      let arg ← reach (cutArgument? s all argStart i)
      argumentsLoop o s all (i + 1) depth (i + 1) (args ++ [arg]) xs
    else argumentsLoop o s all (i + 1) depth argStart args xs

/-- The arguments of a call whose opening parenthesis is the token at index `first`, and the index
    after its closing one. -/
def argumentsAt (o : Overflow) (s : List Char) (xs : List (Extent TokenKind)) (first : Nat) :
    Except Halt (Option (List Argument × Nat)) :=
  match xs[first]? with
  | none => .ok none
  | some x =>
    if x.kind == .symbol '(' then
      argumentsLoop o s xs (first + 1) 0 (first + 1) [] (xs.drop (first + 1))
    else .ok none

/-- There are never fewer than no brackets. -/
theorem toNat_lower_le {depth : UInt32} (h : depth.toNat ≤ n) : (lower depth).toNat ≤ n + 1 := by
  unfold lower
  split
  · exact Nat.zero_le _
  · rename_i hd
    rw [toNat_sub_one hd]
    omega

/-- **The loop reads the arguments of the recursion.** Before the argument that it stands in are the
    tokens `u`, of that argument it has passed `current`. If a full counter stops the program, every
    bracket took a token so far. -/
theorem answers_argumentsLoop {o : Overflow} {depth : UInt32} {argStart : Nat}
    {args done : List Argument} (h : Sliced s all) (u : List Token)
    (hall : all = u ++ (current.reverse ++ ts)) (hstart : argStart = u.length)
    (hi : i = argStart + current.length) (hargs : args = done.reverse)
    (hcount : o = .stops → depth.toNat ≤ i) :
    Answers o all.length
      (argumentsLoop o s (all.map Token.extent) i depth argStart args (ts.map Token.extent))
      ((argumentsFrom depth current done ts).map fun p => (p.1, all.length - p.2.length)) := by
  -- what is passed of an argument is the argument that is cut
  have hcut : ∀ {v w : List Token} (u : List Token) {i j : Nat}, all = u ++ (v.reverse ++ w) →
      i = u.length → j = i + v.length →
      reach (cutArgument? s (all.map Token.extent) i j) = .ok (Argument.ofTokens v.reverse) := by
    intro v w u i j hall hi hj
    subst hall
    rw [cutArgument?_eq h hi (by rw [hj, List.length_reverse]), reach_some]
  have hnext : ∀ {v w : List Token} {u : List Token} {i j : Nat} (t : Token),
      all = u ++ (v.reverse ++ t :: w) → i = u.length → j = i + v.length →
      all = u ++ ((t :: v).reverse ++ w) ∧ j + 1 = i + (t :: v).length ∧
        all.length - w.length = j + 1 ∧ j < all.length := by
    intro v w u i j t hall hi hj
    subst hall
    refine ⟨by simp, by rw [hj, List.length_cons, Nat.add_assoc], ?_⟩
    simp only [List.length_append, List.length_reverse, List.length_cons]
    omega
  fun_induction argumentsFrom depth current done ts generalizing u i argStart args with
  | case1 => exact .ok none
  | case2 depth current done t ts ho ih =>
    obtain ⟨hall', hi', -, hlt⟩ := hnext t hall hstart hi
    refine (congrArg (Answers o _ · _) (if_pos ho)).mpr
      (.guard (fun hstops hfull => ?_) fun hgo => ?_)
    · have hle := hcount hstops
      rw [hfull] at hle
      exact Nat.le_trans (by decide) (Nat.le_trans hle (Nat.le_of_lt hlt))
    · refine ih u hall' hstart hi' hargs fun hstops => ?_
      rw [toNat_add_one fun e => hgo ⟨hstops, e⟩]
      exact Nat.succ_le_succ (hcount hstops)
  | case3 depth current done t ts ho hc he =>
    obtain ⟨-, -, hend, -⟩ := hnext t hall hstart hi
    simp only [Bool.and_eq_true, List.isEmpty_iff] at he
    obtain ⟨rfl, rfl⟩ := he
    subst hargs
    refine .inl ((if_neg ho).trans ((if_pos hc).trans ((if_neg (by simp [hi])).trans ?_)))
    rw [← hend]
    rfl
  | case4 depth current done t ts ho hc he =>
    obtain ⟨-, -, hend, -⟩ := hnext t hall hstart hi
    have hsome : (argStart < i || !args.isEmpty) = true := by
      rw [hi, hargs, Bool.or_eq_true, decide_eq_true_eq]
      cases current with
      | nil => exact .inr (by simpa using he)
      | cons t current => exact .inl (Nat.lt_add_of_pos_right (Nat.succ_pos _))
    refine .inl ((if_neg ho).trans ((if_pos hc).trans ((if_pos hsome).trans ?_)))
    rw [hcut u hall hstart hi, ← hend, hargs]
    simp [bind, Except.bind, pure, Except.pure]
  | case5 depth current done t ts ho hc hcl ih =>
    obtain ⟨hall', hi', -, -⟩ := hnext t hall hstart hi
    refine (congrArg (Answers o _ · _)
      ((if_neg ho).trans ((if_neg hc).trans (if_pos hcl)))).mpr ?_
    exact ih u hall' hstart hi' hargs fun hstops => toNat_lower_le (hcount hstops)
  | case6 depth current done t ts ho hc hcl hco ih =>
    obtain ⟨hall', hi', -, -⟩ := hnext t hall hstart hi
    refine (congrArg (Answers o _ · _)
      ((if_neg ho).trans ((if_neg hc).trans ((if_neg hcl).trans (if_pos hco))))).mpr ?_
    refine .bind_ok (hcut u hall hstart hi) ?_
    -- the next argument starts after the comma
    refine ih (u ++ (t :: current).reverse) (by rw [hall']; simp) ?_ rfl (by rw [hargs]; simp)
      fun hstops => Nat.le_succ_of_le (hcount hstops)
    rw [hi', hstart, List.length_append, List.length_reverse]
  | case7 depth current done t ts ho hc hcl hco ih =>
    obtain ⟨hall', hi', -, -⟩ := hnext t hall hstart hi
    refine (congrArg (Answers o _ · _)
      ((if_neg ho).trans ((if_neg hc).trans ((if_neg hcl).trans (if_neg hco))))).mpr ?_
    exact ih u hall' hstart hi' hargs fun hstops => Nat.le_succ_of_le (hcount hstops)

/-- **The arguments of a call** are those of the recursion, or there are more brackets than can be
    counted. -/
theorem answers_argumentsAt (o : Overflow) (h : Sliced s ts) (first : Nat) :
    Answers o ts.length (argumentsAt o s (ts.map Token.extent) first)
      ((readArguments? (ts.drop first)).map fun p => (p.1, ts.length - p.2.length)) := by
  rw [argumentsAt, List.getElem?_map]
  by_cases hlt : first < ts.length
  · rw [List.getElem?_eq_getElem hlt, List.drop_eq_getElem_cons hlt, readArguments?]
    by_cases ho : ts[first].isSymbol '(' = true
    · rw [if_pos ho]
      refine (congrArg (Answers o _ · _) (if_pos ho)).mpr ?_
      rw [← List.map_drop]
      refine answers_argumentsLoop h (ts.take (first + 1)) (by simp) ?_ rfl rfl
        fun _ => Nat.zero_le _
      rw [List.length_take]
      omega
    · rw [if_neg ho]
      exact .inl (if_neg ho)
  · have hle := Nat.le_of_not_lt hlt
    rw [List.getElem?_eq_none hle, List.drop_eq_nil_of_le hle]
    exact .ok none

theorem argumentsFrom_suffix {depth : UInt32} {done args : List Argument} {rest : List Token}
    (h : argumentsFrom depth current done ts = some (args, rest)) : rest <:+ ts := by
  fun_induction argumentsFrom depth current done ts with
  | case1 => cases h
  | case2 depth current done t ts ho ih => exact (ih h).trans (List.suffix_cons t ts)
  | case3 =>
    cases h
    exact List.suffix_cons _ _
  | case4 =>
    cases h
    exact List.suffix_cons _ _
  | case5 depth current done t ts ho hc hcl ih => exact (ih h).trans (List.suffix_cons t ts)
  | case6 depth current done t ts ho hc hcl hco ih => exact (ih h).trans (List.suffix_cons t ts)
  | case7 depth current done t ts ho hc hcl hco ih => exact (ih h).trans (List.suffix_cons t ts)

theorem readArguments?_suffix {args : List Argument} {rest : List Token}
    (h : readArguments? ts = some (args, rest)) : rest <:+ ts := by
  cases ts with
  | nil => cases h
  | cons t ts =>
    rw [readArguments?] at h
    split at h
    · exact (argumentsFrom_suffix h).trans (List.suffix_cons t ts)
    · cases h

/-! ## 4. Calls -/

/-- Tries `n` indices from `i` on for a call, and goes to its opening parenthesis. -/
def searchCall? (s : List Char) (xs : List (Extent TokenKind)) (name : String) :
    Nat → Nat → Option (Option Nat)
  | 0, _ => some none
  | n + 1, i => do
    let x ← xs[i]?
    if ← isKeywordAt? s x name then
      let y ← xs[i + 1]?
      if y.kind == .symbol '(' then return some (i + 1) else searchCall? s xs name n (i + 1)
    else searchCall? s xs name n (i + 1)

/-- The index of the opening parenthesis of the next call at `first` or later. -/
def nextCallAt? (s : List Char) (xs : List (Extent TokenKind)) (name : String) (first : Nat) :
    Option (Option Nat) :=
  searchCall? s xs name (xs.length - 1 - first) first

theorem nextCall?_of_length (h : us.length ≤ 1) : nextCall? name us = none := by
  match us with
  | [] => rfl
  | [t] => simp [nextCall?]

theorem searchCall?_eq (h : Sliced s ts) (hn : n = ts.length - 1 - i) :
    searchCall? s (ts.map Token.extent) name n i =
      some ((nextCall? name (ts.drop i)).map fun rest => ts.length - rest.length) := by
  induction n generalizing i with
  | zero =>
    rw [searchCall?, nextCall?_of_length]
    · rfl
    · rw [List.length_drop]
      omega
  | succ n ih =>
    have hi : i < ts.length := by omega
    have hi' : i + 1 < ts.length := by omega
    have hrest := ih (i := i + 1) (by omega)
    have hx : (ts.map Token.extent)[i]? = some ts[i].extent := by
      rw [List.getElem?_map, List.getElem?_eq_getElem hi]
      rfl
    have hy : (ts.map Token.extent)[i + 1]? = some ts[i + 1].extent := by
      rw [List.getElem?_map, List.getElem?_eq_getElem hi']
      rfl
    have hkeyword := isKeywordAt?_eq h (List.getElem_mem hi) name
    rw [List.drop_eq_getElem_cons hi, nextCall?, List.drop_eq_getElem_cons hi', List.head?_cons,
      Option.any_some, ← List.drop_eq_getElem_cons hi', searchCall?, hx]
    refine (congrArg (Option.bind · _) hkeyword).trans ?_
    cases hk : ts[i].isKeyword name with
    | false => exact hrest
    | true =>
      refine (congrArg (Option.bind · _) hy).trans ?_
      by_cases ho : ts[i + 1].isSymbol '(' = true
      · refine (if_pos ho).trans ?_
        rw [ho]
        show some (some (i + 1)) = some (some (ts.length - (ts.drop (i + 1)).length))
        rw [List.length_drop]
        congr 2
        omega
      · refine (if_neg ho).trans ?_
        rw [Bool.eq_false_iff.2 ho]
        exact hrest

theorem nextCallAt?_eq (h : Sliced s ts) (name : String) (first : Nat) :
    nextCallAt? s (ts.map Token.extent) name first =
      some ((nextCall? name (ts.drop first)).map fun rest => ts.length - rest.length) := by
  rw [nextCallAt?, List.length_map]
  exact searchCall?_eq h rfl

theorem nextCall?_suffix {rest : List Token} (h : nextCall? name ts = some rest) : rest <:+ ts := by
  induction ts with
  | nil => cases h
  | cons t ts ih =>
    rw [nextCall?] at h
    split at h
    · cases h
      exact List.suffix_cons t rest
    · exact (ih h).trans (List.suffix_cons t ts)

/-- The arguments of the call at index `i` and of every later call, in as many rounds at most; out
    of range if these are too few. -/
def callsAt (o : Overflow) (s : List Char) (xs : List (Extent TokenKind)) (name : String) :
    Nat → Nat → Except Halt (List (List Argument))
  | 0, _ => .error .range
  | n + 1, i => do
    match ← argumentsAt o s xs i with
    | none => return []
    | some (args, next) =>
      match ← reach (nextCallAt? s xs name next) with
      | none => return [args]
      | some opening =>
        let calls ← callsAt o s xs name n opening
        return args :: calls

/-- **All calls** are read, in no more rounds than there are tokens left. -/
theorem answers_callsAt (o : Overflow) (h : Sliced s ts) (name : String) (hn : ts.length - i < n) :
    Answers o ts.length (callsAt o s (ts.map Token.extent) name n i)
      (callsFrom name (ts.drop i)) := by
  induction n generalizing i with
  | zero => exact absurd hn (Nat.not_lt_zero _)
  | succ n ih =>
    rw [callsAt, callsFrom_eq]
    refine .bind (answers_argumentsAt o h i) ?_
    cases hargs : readArguments? (ts.drop i) with
    | none => exact .ok []
    | some p =>
      obtain ⟨args, rest⟩ := p
      have hsuffix := (readArguments?_suffix hargs).trans (List.drop_suffix i ts)
      have hlt := readArguments?_length_lt hargs
      have hnext := nextCallAt?_eq h name (ts.length - rest.length)
      rw [drop_length_sub hsuffix] at hnext
      refine .bind_ok (congrArg reach hnext) ?_
      cases hcall : nextCall? name rest with
      | none => exact .inl (by simp [hcall, pure, Except.pure])
      | some opening =>
        have hlt' := nextCall?_length_lt hcall
        have hrest := ih (i := ts.length - opening.length) (by
          rw [List.length_drop] at hlt
          omega)
        rw [drop_length_sub ((nextCall?_suffix hcall).trans hsuffix)] at hrest
        refine .bind hrest (.inl ?_)
        simp [hcall, pure, Except.pure]

/-! ## 5. The calls that decide -/

theorem afterKeywords?_suffix {rest : List Token} (h : afterKeywords? ks ts = some rest) :
    rest <:+ ts := by
  induction ts with
  | nil => cases h
  | cons t ts ih =>
    rw [afterKeywords?] at h
    split at h
    · rename_i hdrop
      cases h
      exact dropKeywords?_suffix hdrop
    · exact (ih h).trans (List.suffix_cons t ts)

/-- The calls of `input` that decide the shape of a statement. -/
def inputCallsAt (o : Overflow) (s : List Char) (xs : List (Extent TokenKind)) :
    Except Halt (Option (List (List Argument))) := do
  match ← reach (afterKeywordsAt? s xs 0 ["insert", "into"]) with
  | none => return none
  | some afterInsert =>
    match ← reach (afterKeywordsAt? s xs afterInsert ["from", "input"]) with
    | none => return none
    | some atCall =>
      let calls ← callsAt o s xs "input" (xs.length + 1) atCall
      return some calls

theorem answers_inputCallsAt (o : Overflow) (h : Sliced s ts) :
    Answers o ts.length (inputCallsAt o s (ts.map Token.extent)) (inputCalls? ts) := by
  have hinsert := afterKeywordsAt?_eq h 0 ["insert", "into"]
  rw [if_neg (List.cons_ne_nil _ _), List.drop_zero] at hinsert
  rw [inputCallsAt, inputCalls?]
  refine .bind_ok (congrArg reach hinsert) ?_
  cases h₁ : afterKeywords? ["insert", "into"] ts with
  | none => exact .ok none
  | some rest =>
    have hsuffix := afterKeywords?_suffix h₁
    have hfrom := afterKeywordsAt?_eq h (ts.length - rest.length) ["from", "input"]
    rw [if_neg (List.cons_ne_nil _ _), drop_length_sub hsuffix] at hfrom
    refine .bind_ok (congrArg reach hfrom) ?_
    cases h₂ : afterKeywords? ["from", "input"] rest with
    | none => exact .inl (by simp [h₂, pure, Except.pure])
    | some atCall =>
      have hcalls := answers_callsAt o h "input" (n := (ts.map Token.extent).length + 1)
        (i := ts.length - atCall.length) (by rw [List.length_map]; omega)
      rw [drop_length_sub ((afterKeywords?_suffix h₂).trans hsuffix)] at hcalls
      refine .bind hcalls (.inl ?_)
      simp [h₂, pure, Except.pure]

end StatelessSession.Sql
