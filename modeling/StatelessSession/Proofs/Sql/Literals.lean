import StatelessSession.Proofs.Sql.Neighbours
import StatelessSession.Value.Basic

/-!
# What SQL literals are made of

Every value is written as a few lexemes that read back as such: a numeral is a word, or two with a
point between them, after a dash if it is negative; whatever stands in quotes is a string literal,
however odd its characters are.

* `good_word`, `good_symbol`, `good_quote` -- the lexemes that occur in literals.
* `IsLiteral` -- lexemes that read back and whose ends are of a few kinds.
* **`exists_isLiteral`** -- every value is written as such lexemes.

NOT here: whether the server reads the literal as the value.
-/

namespace StatelessSession

namespace Sql

variable {l m : Lexeme} {ls : List Lexeme} {s t : List Char}

/-! ## 1. The lexemes of literals -/

theorem isWordByte_utf8 (h : ∀ c ∈ s, isWordChar c = true) : ∀ x ∈ utf8 s, isWordByte x = true := by
  intro x hx
  obtain ⟨c, hc, hxc⟩ := List.mem_flatMap.1 hx
  rcases utf8_char c with ⟨hn, hu⟩ | ⟨-, -, hu⟩
  · rw [hu] at hxc
    rw [List.mem_singleton.1 hxc, isWordByte_toUInt8 hn]
    exact h c hc
  · exact isWordByte_of_high (hu x hxc)

theorem good_word (hne : s ≠ []) (h : ∀ c ∈ s, isWordChar c = true) :
    (⟨.token .word, s⟩ : Lexeme).piece.Good := by
  obtain ⟨c, r, rfl⟩ := List.exists_cons_of_ne_nil hne
  obtain ⟨b, u, hb⟩ := List.exists_cons_of_ne_nil (utf8_ne_nil (c := c) (r := r))
  have hw := isWordByte_utf8 h
  rw [hb] at hw
  refine ⟨[], ?_⟩
  show IsLexeme Counted (.token .word) (utf8 (c :: r)) []
  rw [hb]
  exact .word hw nofun

theorem good_symbol {c : Char} (hn : c.toNat < 0x80)
    (hk : kindAt c.toUInt8 [] = .token (.symbol c)) :
    (⟨.token (.symbol c), [c]⟩ : Lexeme).piece.Good := by
  refine ⟨[], ?_⟩
  show IsLexeme Counted (.token (.symbol c)) (utf8 [c]) []
  rw [utf8_ascii_cons hn]
  exact isLexeme_of_kindAt hk

/-- A character that means nothing between single quotes. -/
theorem QuoteBody.char {u : List UInt8} (h : QuoteBody '\''.toUInt8 u) {c : Char} (hq : c ≠ '\'')
    (hb : c ≠ '\\') : QuoteBody '\''.toUInt8 (String.utf8EncodeChar c ++ u) := by
  have hplain : ∀ bs : List UInt8, (∀ x ∈ bs, x ≠ '\''.toUInt8 ∧ x ≠ '\\'.toUInt8) →
      QuoteBody '\''.toUInt8 (bs ++ u) := by
    intro bs hbs
    induction bs with
    | nil => exact h
    | cons x bs ih =>
      obtain ⟨hxq, hxb⟩ := hbs x List.mem_cons_self
      exact .plain hxq hxb (ih fun y hy => hbs y (List.mem_cons_of_mem _ hy))
  refine hplain _ fun x hx => ?_
  rcases utf8_char c with ⟨hn, hu⟩ | ⟨-, -, hu⟩
  · rw [hu] at hx
    rw [List.mem_singleton.1 hx]
    exact ⟨toUInt8_ne hn (by decide) hq, toUInt8_ne hn (by decide) hb⟩
  · exact ⟨ne_toUInt8_of_high (hu x hx) (by decide), ne_toUInt8_of_high (hu x hx) (by decide)⟩

/-- Whatever is encoded stands well between quotes. -/
theorem quoteBody_encode (s : List Char) :
    QuoteBody '\''.toUInt8 (utf8 (StringLiteral.encode s)) := by
  induction s with
  | nil => exact .nil
  | cons c s ih =>
    rw [StringLiteral.encode_cons, utf8_append]
    unfold StringLiteral.escapeChar
    split
    · exact .escaped _ ih
    split
    · exact .escaped _ ih
    · rename_i hb hq
      rw [utf8_cons, utf8_nil, List.append_nil]
      exact ih.char hq hb

theorem quoteBody_utf8 (h : ∀ c ∈ s, c ≠ '\'' ∧ c ≠ '\\') : QuoteBody '\''.toUInt8 (utf8 s) := by
  induction s with
  | nil => exact .nil
  | cons c s ih =>
    obtain ⟨hq, hb⟩ := h c List.mem_cons_self
    exact (ih fun c hc => h c (List.mem_cons_of_mem _ hc)).char hq hb

theorem good_string (h : QuoteBody '\''.toUInt8 (utf8 s)) :
    (⟨.token .string, '\'' :: s ++ ['\'']⟩ : Lexeme).piece.Good := by
  refine ⟨[], ?_⟩
  show IsLexeme Counted (.token .string) (utf8 ('\'' :: s ++ ['\''])) []
  have hu : utf8 ('\'' :: s ++ ['\'']) = '\''.toUInt8 :: (utf8 s ++ ['\''.toUInt8]) := by
    rw [utf8_append, utf8_ascii_cons (by decide)]
    rfl
  rw [hu]
  exact .string h nofun

/-! ## 2. Literals -/

/-- **Lexemes that read back as themselves** and that begin and end as literals do; all of them are
    tokens, and none is a placeholder. -/
structure IsLiteral (ls : List Lexeme) : Prop where
  good : ∀ l ∈ ls, l.piece.Good
  chain : ls.IsChain fun l m => l.piece.Before m.piece
  first : ∃ l ∈ ls.head?, Opening l.kind
  last : ∃ l ∈ ls.getLast?, Closing l.kind
  bound : ∀ l ∈ ls, ∃ k, l.kind = .token k ∧ k ≠ .placeholder

theorem IsLiteral.ne_nil (h : IsLiteral ls) : ls ≠ [] := fun e => by
  obtain ⟨l, hl, -⟩ := h.first
  rw [e] at hl
  cases hl

/-- They read back. -/
theorem IsLiteral.reads (h : IsLiteral ls) : lexemes (joined ls) = .ok ls :=
  (lexemes_joined_iff ls).2 ⟨h.good, h.chain⟩

/-- A word of a literal. -/
def Lexeme.word (s : List Char) : Lexeme := ⟨.token .word, s⟩

/-- A symbol of a literal. -/
def Lexeme.symbol (c : Char) : Lexeme := ⟨.token (.symbol c), [c]⟩

/-- A string literal with a given text between the quotes. -/
def Lexeme.string (s : List Char) : Lexeme := ⟨.token .string, '\'' :: s ++ ['\'']⟩

theorem isLiteral_singleton (hg : l.piece.Good) (ho : Opening l.kind) (hc : Closing l.kind) :
    IsLiteral [l] where
  good m hm := by
    rw [List.mem_singleton.1 hm]
    exact hg
  chain := .singleton l
  first := ⟨l, rfl, ho⟩
  last := ⟨l, rfl, hc⟩
  bound m hm := by
    rw [List.mem_singleton.1 hm]
    rcases ho with h | h | h
    · exact ⟨_, h, nofun⟩
    · exact ⟨_, h, nofun⟩
    · exact ⟨_, h, nofun⟩

theorem isLiteral_word (hne : s ≠ []) (h : ∀ c ∈ s, isWordChar c = true) : IsLiteral [.word s] :=
  isLiteral_singleton (good_word hne h) (.inl rfl) (.inl rfl)

theorem isLiteral_string (h : QuoteBody '\''.toUInt8 (utf8 s)) : IsLiteral [.string s] :=
  isLiteral_singleton (good_string h) (.inr (.inl rfl)) (.inr (.inl rfl))

/-- A dash before a literal that begins with a word. -/
theorem IsLiteral.negate (h : IsLiteral ls) (hw : ∃ l ∈ ls.head?, l.kind = .token .word) :
    IsLiteral (.symbol '-' :: ls) := by
  obtain ⟨m, hm, hk⟩ := hw
  have hdash : (Lexeme.symbol '-').piece.Good := good_symbol (by decide) rfl
  refine ⟨fun l hl => ?_, List.isChain_cons.2 ⟨fun l hl => ?_, h.chain⟩,
    ⟨_, rfl, .inr (.inr rfl)⟩, ?_, List.forall_mem_cons.2 ⟨⟨_, rfl, nofun⟩, h.bound⟩⟩
  · rcases List.mem_cons.1 hl with rfl | hl
    · exact hdash
    · exact h.good l hl
  · cases Option.some.inj (hl.symm.trans hm)
    have hc : ¬ Clash (.token (.symbol '-')) m.kind := by
      rw [hk]
      decide
    refine admits_opening hdash (h.good m (List.mem_of_head? hm)) (fun x hx => ?_) (.inl hk) hc
    cases hx
    exact ⟨by decide, by decide⟩
  · obtain ⟨n, hn, hc⟩ := h.last
    refine ⟨n, ?_, hc⟩
    cases ls with
    | nil => cases hn
    | cons l ls =>
      rw [List.getLast?_cons_cons]
      exact hn

/-! ## 3. Numerals -/

/-- The text is written as lexemes that a literal consists of, the first of them a word. -/
def IsNumeral (s : List Char) : Prop :=
  ∃ ls, joined ls = s ∧ IsLiteral ls ∧ ∃ l ∈ ls.head?, l.kind = .token .word

theorem isNumeral_word (hne : s ≠ []) (h : ∀ c ∈ s, isWordChar c = true) : IsNumeral s :=
  ⟨[.word s], List.append_nil s, isLiteral_word hne h, _, rfl, rfl⟩

/-- Digits, a point and digits. -/
theorem isNumeral_fraction (hs : s ≠ []) (hws : ∀ c ∈ s, isWordChar c = true) (ht : t ≠ [])
    (hwt : ∀ c ∈ t, isWordChar c = true) : IsNumeral (s ++ '.' :: t) := by
  have hgs : (Lexeme.word s).piece.Good := good_word hs hws
  have hgt : (Lexeme.word t).piece.Good := good_word ht hwt
  have hpoint : (Lexeme.symbol '.').piece.Good := good_symbol (by decide) rfl
  refine ⟨[.word s, .symbol '.', .word t], ?_,
    ⟨?_, ?_, ⟨_, rfl, .inl rfl⟩, ⟨_, rfl, .inl rfl⟩, ?_⟩, _, rfl, rfl⟩
  · simp [joined, Lexeme.word, Lexeme.symbol]
  · simp only [List.forall_mem_cons]
    exact ⟨hgs, hpoint, hgt, nofun⟩
  · refine .cons_cons ?_ (.cons_cons ?_ (.singleton _))
    · have hc : ¬ Clash (.token .word) (.token (.symbol '.')) := by decide
      exact admits_closing hgs hpoint (.inl rfl) hc
    · exact before_of_symbol hpoint rfl (by decide) (by decide)
  · simp only [List.forall_mem_cons]
    exact ⟨⟨_, rfl, nofun⟩, ⟨_, rfl, nofun⟩, ⟨_, rfl, nofun⟩, nofun⟩

theorem IsNumeral.negate (h : IsNumeral s) : ∃ ls, joined ls = '-' :: s ∧ IsLiteral ls := by
  obtain ⟨ls, rfl, hl, hw⟩ := h
  exact ⟨_, rfl, hl.negate hw⟩

theorem IsNumeral.isLiteral (h : IsNumeral s) : ∃ ls, joined ls = s ∧ IsLiteral ls := by
  obtain ⟨ls, hj, hl, -⟩ := h
  exact ⟨ls, hj, hl⟩

end Sql

open Sql

theorem Text.isWordChar_of_mem_digits {n : Nat} {c : Char} (hc : c ∈ Text.digits n) :
    isWordChar c = true := by
  have hd : c.isDigit = true := Nat.isDigit_of_mem_toDigits (by decide) (by decide) hc
  simp only [isWordChar, Char.isAlphanum, hd, Bool.or_true, Bool.true_or]

theorem Text.digits_ne_nil {n : Nat} : Text.digits n ≠ [] := Nat.toDigits_ne_nil

/-- Digits with a point at a place or zeros after them, in the form without an exponent. -/
theorem isNumeral_positional {ds : List Char} (hne : ds ≠ []) (hw : ∀ c ∈ ds, isWordChar c = true)
    (k : Int) : IsNumeral (Double.positional ds k false) := by
  have hzeros : ∀ n, ∀ c ∈ List.replicate n '0', isWordChar c = true := fun n c hc => by
    rw [(List.mem_replicate.1 hc).2]
    decide
  unfold Double.positional
  split
  · rw [if_neg Bool.false_ne_true, List.append_nil]
    refine isNumeral_word (fun h => hne (List.append_eq_nil_iff.1 h).1) fun c hc => ?_
    rcases List.mem_append.1 hc with hc | hc
    · exact hw c hc
    · exact hzeros _ c hc
  rename_i hk
  dsimp only
  split
  · rename_i hlt
    refine isNumeral_fraction ?_ (fun c hc => hw c (List.mem_of_mem_take hc)) ?_
      fun c hc => hw c (List.mem_of_mem_drop hc)
    · intro h
      have hl := congrArg List.length h
      rw [List.length_take, List.length_nil] at hl
      omega
    · intro h
      have hl := congrArg List.length h
      rw [List.length_drop, List.length_nil] at hl
      omega
  · refine isNumeral_fraction (s := ['0']) (List.cons_ne_nil _ _) (hzeros 1) ?_ fun c hc => ?_
    · exact fun h => hne (List.append_eq_nil_iff.1 h).2
    · rcases List.mem_append.1 hc with hc | hc
      · exact hzeros _ c hc
      · exact hw c hc

theorem isNumeral_unsigned (x : Double) : IsNumeral (Double.sqlLayout.unsigned x) := by
  unfold Double.Layout.unsigned
  split
  · exact isNumeral_positional (List.cons_ne_nil _ _) (List.all_eq_true.1 rfl) 0
  · dsimp only
    rw [if_pos (show Double.sqlLayout.isPositional _ = true from rfl)]
    exact isNumeral_positional Text.digits_ne_nil (fun _ => Text.isWordChar_of_mem_digits) _

/-! ## 4. Values -/

namespace Value

/-- The lexemes of an integer: a word of digits, after a dash if it is negative. -/
def intLexemes : Int → List Lexeme
  | .ofNat n => [.word (Text.digits n)]
  | .negSucc n => [.symbol '-', .word (Text.digits (n + 1))]

theorem joined_intLexemes (n : Int) : joined (intLexemes n) = Text.intDigits n := by
  cases n with
  | ofNat n => exact List.append_nil _
  | negSucc n => exact congrArg ('-' :: ·) (List.append_nil _)

theorem isLiteral_int (n : Int) : IsLiteral (intLexemes n) := by
  have hword : ∀ n : Nat, IsLiteral [.word (Text.digits n)] := fun n =>
    isLiteral_word Text.digits_ne_nil fun _ => Text.isWordChar_of_mem_digits
  cases n with
  | ofNat n => exact hword n
  | negSucc n => exact (hword (n + 1)).negate ⟨_, rfl, rfl⟩

/-- The literals of doubles. -/
theorem exists_isLiteral_float (x : Double) : ∃ ls, joined ls = x.sqlText ∧ IsLiteral ls := by
  have hinf : IsNumeral "inf".toList := isNumeral_word (by decide) (List.all_eq_true.1 rfl)
  unfold Double.sqlText
  split
  · exact (isNumeral_word (by decide) (List.all_eq_true.1 rfl)).isLiteral
  split
  · split
    · exact hinf.negate
    · exact hinf.isLiteral
  · unfold Double.Layout.text
    split
    · exact (isNumeral_unsigned x).negate
    · exact (isNumeral_unsigned x).isLiteral

/-- No hexadecimal digit means anything between quotes. -/
theorem upperHexDigit_ne :
    ∀ n < 16, Text.upperHexDigit n ≠ '\'' ∧ Text.upperHexDigit n ≠ '\\' := by decide

theorem hexText_plain {bytes : List UInt8} : ∀ c ∈ hexText bytes, c ≠ '\'' ∧ c ≠ '\\' := by
  intro c hc
  obtain ⟨b, -, hcb⟩ := List.mem_flatMap.1 hc
  have hb := b.toNat_lt
  simp only [Text.upperHexByte, List.mem_cons, List.not_mem_nil, or_false] at hcb
  rcases hcb with rfl | rfl
  · exact upperHexDigit_ne _ (by omega)
  · exact upperHexDigit_ne _ (by omega)

/-- The lexemes of a byte string: its hexadecimal digits as the argument of `unhex`. -/
def blobLexemes (bytes : List UInt8) : List Lexeme :=
  [.word "unhex".toList, .symbol '(', .string (hexText bytes), .symbol ')']

theorem joined_blobLexemes (bytes : List UInt8) :
    joined (blobLexemes bytes) = "unhex('".toList ++ hexText bytes ++ "')".toList := by
  simp [joined, blobLexemes, Lexeme.word, Lexeme.symbol, Lexeme.string]

theorem isLiteral_blob (bytes : List UInt8) : IsLiteral (blobLexemes bytes) := by
  have hcall : (Lexeme.word "unhex".toList).piece.Good :=
    good_word (by decide) (List.all_eq_true.1 rfl)
  have hopen : (Lexeme.symbol '(').piece.Good := good_symbol (by decide) rfl
  have htext : (Lexeme.string (hexText bytes)).piece.Good :=
    good_string (quoteBody_utf8 hexText_plain)
  have hclose : (Lexeme.symbol ')').piece.Good := good_symbol (by decide) rfl
  refine ⟨?_, ?_, ⟨_, rfl, .inl rfl⟩, ⟨_, rfl, .inr (.inr rfl)⟩, ?_⟩
  · simp only [blobLexemes, List.forall_mem_cons]
    exact ⟨hcall, hopen, htext, hclose, nofun⟩
  · have hword : ¬ Clash (.token .word) (.token (.symbol '(')) := by decide
    have hstring : ¬ Clash (.token .string) (.token (.symbol ')')) := by decide
    refine .cons_cons ?_ (.cons_cons ?_ (.cons_cons ?_ (.singleton _)))
    · exact admits_closing hcall hopen (.inl rfl) hword
    · exact before_of_symbol hopen rfl (by decide) (by decide)
    · exact admits_closing htext hclose (.inr (.inl rfl)) hstring
  · simp only [blobLexemes, List.forall_mem_cons]
    exact ⟨⟨_, rfl, nofun⟩, ⟨_, rfl, nofun⟩, ⟨_, rfl, nofun⟩, ⟨_, rfl, nofun⟩, nofun⟩

/-- **Every value is written as a literal.** -/
theorem exists_isLiteral (v : Value) : ∃ ls, joined ls = v.literal ∧ IsLiteral ls := by
  have hquote : ∀ s, ∃ ls, joined ls = StringLiteral.quote s ∧ IsLiteral ls := fun s =>
    ⟨[.string (StringLiteral.encode s)], List.append_nil _, isLiteral_string (quoteBody_encode s)⟩
  cases v with
  | int n => exact ⟨_, joined_intLexemes _, isLiteral_int n.toInt⟩
  | float x => exact exists_isLiteral_float x
  | text s => exact hquote s.toList
  | bool b =>
    cases b with
    | true => exact (isNumeral_word (by decide) (List.all_eq_true.1 rfl)).isLiteral
    | false => exact (isNumeral_word (by decide) (List.all_eq_true.1 rfl)).isLiteral
  | timestamp t => exact hquote t.body
  | null => exact (isNumeral_word (by decide) (List.all_eq_true.1 rfl)).isLiteral
  | json j => exact hquote j.chars
  | blob bytes => exact ⟨_, joined_blobLexemes bytes, isLiteral_blob bytes⟩

end Value

end StatelessSession
