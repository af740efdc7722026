import StatelessSession.Sql.Token

/-!
# Keywords and calls among tokens

`afterKeywords?` looks for a run of keywords; `readArguments?` reads the argument list of a call,
cut at the commas outside its inner brackets. Both work on what is left of a list of tokens and
answer with what is left after them.

* `readArguments?_length_lt` -- reading a list takes at least a token.
-/

namespace StatelessSession.Sql

/-! ## 1. Keywords -/

/-- The tokens after a run of keywords at the front. -/
def dropKeywords? : List String → List Token → Option (List Token)
  | [], ts => some ts
  | _ :: _, [] => none
  | k :: ks, t :: ts => if t.isKeyword k then dropKeywords? ks ts else none

/-- The tokens after the first run of keywords. -/
def afterKeywords? (keywords : List String) : List Token → Option (List Token)
  | [] => none
  | t :: ts =>
    match dropKeywords? keywords (t :: ts) with
    | some rest => some rest
    | none => afterKeywords? keywords ts

/-! ## 2. Arguments -/

/-- One argument of a call. -/
inductive Argument where
  /-- A string literal on its own, with its quotes. -/
  | literal (text : List Char)
  /-- Anything else, as written. -/
  | expression (text : List Char)
deriving DecidableEq, Repr

/-- The argument that some tokens are. -/
def Argument.ofTokens : List Token → Argument
  | [t] => if t.kind = .string then .literal t.text else .expression t.text
  | ts => .expression (Token.span ts)

/-- Whether a token opens a bracket inside an argument list. -/
def Token.opens (t : Token) : Bool := t.isSymbol '(' || t.isSymbol '['

/-- Whether a token closes a bracket inside an argument list. -/
def Token.closes (t : Token) : Bool := t.isSymbol ')' || t.isSymbol ']'

/-- One bracket less. There are never fewer than none. -/
def lower (depth : UInt32) : UInt32 := if depth = 0 then 0 else depth - 1

/-- Reads on in an argument list, inside `depth` brackets, after the tokens `current` of an argument
    (the last first) and the arguments `done` (the last first). A parenthesis outside inner brackets
    closes the list, a square bracket there is part of an argument. Brackets are counted in 32 bits,
    and after the last number comes zero. -/
def argumentsFrom (depth : UInt32) (current : List Token) (done : List Argument) :
    List Token → Option (List Argument × List Token)
  | [] => none
  | t :: ts =>
    if t.opens then argumentsFrom (depth + 1) (t :: current) done ts
    else if t.isSymbol ')' ∧ depth = 0 then
      if current.isEmpty && done.isEmpty then some ([], ts)
      else some ((Argument.ofTokens current.reverse :: done).reverse, ts)
    else if t.closes then argumentsFrom (lower depth) (t :: current) done ts
    else if t.isSymbol ',' ∧ depth = 0 then
      argumentsFrom depth [] (Argument.ofTokens current.reverse :: done) ts
    else argumentsFrom depth (t :: current) done ts

/-- The arguments of a call whose opening parenthesis is the first token, and the tokens after its
    closing one; `none` if the first token is another or the list is never closed. -/
def readArguments? : List Token → Option (List Argument × List Token)
  | [] => none
  | t :: ts => if t.isSymbol '(' then argumentsFrom 0 [] [] ts else none

theorem argumentsFrom_length_lt {depth : UInt32} {current : List Token} {done : List Argument}
    {ts rest : List Token} {args : List Argument}
    (h : argumentsFrom depth current done ts = some (args, rest)) : rest.length < ts.length := by
  fun_induction argumentsFrom depth current done ts with
  | case1 => simp at h
  | case2 => rename_i ih; exact Nat.lt_succ_of_lt (ih h)
  | case3 => cases h; simp
  | case4 => cases h; simp
  | case5 => rename_i ih; exact Nat.lt_succ_of_lt (ih h)
  | case6 => rename_i ih; exact Nat.lt_succ_of_lt (ih h)
  | case7 => rename_i ih; exact Nat.lt_succ_of_lt (ih h)

theorem readArguments?_length_lt {ts rest : List Token} {args : List Argument}
    (h : readArguments? ts = some (args, rest)) : rest.length < ts.length := by
  cases ts with
  | nil => simp [readArguments?] at h
  | cons t ts =>
    simp only [readArguments?] at h
    split at h
    · have := argumentsFrom_length_lt h
      simp only [List.length_cons]
      omega
    · simp at h

/-! ## 3. Calls of one function -/

/-- The tokens from the opening parenthesis of the first call of a function on. -/
def nextCall? (name : String) : List Token → Option (List Token)
  | [] => none
  | t :: ts =>
    if t.isKeyword name && (ts.head?.any (·.isSymbol '(')) then some ts else nextCall? name ts

theorem nextCall?_length_lt {name : String} {ts rest : List Token}
    (h : nextCall? name ts = some rest) : rest.length < ts.length := by
  induction ts with
  | nil => simp [nextCall?] at h
  | cons t ts ih =>
    simp only [nextCall?] at h
    split at h
    · cases h; simp
    · have := ih h
      simp only [List.length_cons]
      omega

/-- The arguments of the call at the front and of every later call of a function, up to the first
    whose list is never closed. -/
def callsFrom (name : String) (ts : List Token) : List (List Argument) :=
  match _h : readArguments? ts with
  | none => []
  | some (args, rest) =>
    args :: match _h' : nextCall? name rest with
      | none => []
      | some ts' => callsFrom name ts'
termination_by ts.length
decreasing_by
  have h1 := readArguments?_length_lt _h
  have h2 := nextCall?_length_lt _h'
  omega

end StatelessSession.Sql
