import StatelessSession.Sql.Lexeme

/-!
# The lexical grammar of SQL, over bytes

What a lexeme is, said without a scanner: which bytes make one up, and what must not follow it. The
bytes are those of UTF-8, in which a character beyond ASCII is a run of bytes of `0x80` and more.

* `utf8` -- the bytes of a text; `utf8_char` -- one byte of ASCII, or high bytes only.
* `QuoteBody`, `CommentBody`, `IsLexeme` -- the grammar. `CountedBody` is what a reader takes for a
  comment that counts in 32 bits; a lexeme is one for either.
* `Lexed` -- a text read from left to right, up to a rest.
* `Begins` -- the lexeme with which a text begins; `begins_blank`, `begins_string`, … say which it
  is from the first bytes alone.
* `Unterminated` -- a text that opens a lexeme but begins with none.

NOT here: where the two kinds of comments differ (`Comments`), and that `lexemes` finds the lexemes
of this grammar (`Scanner`).
-/

namespace StatelessSession.Sql

/-! ## 1. Bytes -/

/-- The bytes of a text in UTF-8. -/
def utf8 (s : List Char) : List UInt8 := s.flatMap String.utf8EncodeChar

@[simp] theorem utf8_nil : utf8 [] = [] := rfl

@[simp] theorem utf8_cons (c : Char) (s : List Char) :
    utf8 (c :: s) = String.utf8EncodeChar c ++ utf8 s := rfl

@[simp] theorem utf8_append (s t : List Char) : utf8 (s ++ t) = utf8 s ++ utf8 t :=
  List.flatMap_append

theorem length_utf8 (s : List Char) : (utf8 s).length = byteSize s := by
  induction s with
  | nil => rfl
  | cons c s ih =>
    rw [utf8_cons, List.length_append, String.length_utf8EncodeChar, ih, byteSize_cons]

/-- They are the bytes that a string is stored as. -/
theorem utf8_toList (s : String) : utf8 s.toList = s.toByteArray.data.toList := by
  have h : s.toByteArray = (utf8 s.toList).toByteArray := by
    rw [← String.ofList_toList (s := s), String.toByteArray_ofList, String.ofList_toList]
    rfl
  rw [h, List.toList_data_toByteArray]

/-- The number of bytes of a string is that of its characters. -/
theorem byteSize_toList (s : String) : byteSize s.toList = s.utf8ByteSize := by
  rw [← length_utf8, utf8_toList]
  rfl

/-- **A character is one byte of ASCII or high bytes only.** -/
theorem utf8_char (c : Char) :
    c.toNat < 0x80 ∧ String.utf8EncodeChar c = [c.toUInt8] ∨
      0x80 ≤ c.toNat ∧ String.utf8EncodeChar c ≠ [] ∧
        ∀ b ∈ String.utf8EncodeChar c, 0x80 ≤ b := by
  by_cases hc : c.toNat < 0x80
  · have hle : c.val.toNat ≤ 127 := Nat.le_of_lt_succ hc
    refine .inl ⟨hc, ?_⟩
    simp only [String.utf8EncodeChar, if_pos hle]
    rfl
  · have hle : ¬ c.val.toNat ≤ 127 := fun h => hc (Nat.lt_succ_of_le h)
    refine .inr ⟨Nat.le_of_not_lt hc, String.utf8EncodeChar_ne_nil, fun b hb => ?_⟩
    simp only [String.utf8EncodeChar, if_neg hle] at hb
    have high : ∀ n, 0x80 ≤ n % 0x100 → 0x80 ≤ UInt8.ofNat n := fun n hn => by
      rw [UInt8.le_iff_toNat_le, UInt8.toNat_ofNat']
      exact hn
    -- every byte is a remainder with one of the marks `0x80`, `0xc0`, `0xe0`, `0xf0` added
    split at hb
    · simp only [List.mem_cons, List.not_mem_nil, or_false] at hb
      rcases hb with rfl | rfl <;> refine high _ ?_ <;> omega
    split at hb
    · simp only [List.mem_cons, List.not_mem_nil, or_false] at hb
      rcases hb with rfl | rfl | rfl <;> refine high _ ?_ <;> omega
    · simp only [List.mem_cons, List.not_mem_nil, or_false] at hb
      rcases hb with rfl | rfl | rfl | rfl <;> refine high _ ?_ <;> omega

/-! ## 2. The grammar -/

/-- The blanks: space, tab, line feed, form feed and carriage return. -/
def isBlankByte (b : UInt8) : Bool :=
  b = ' '.toUInt8 || b = '\t'.toUInt8 || b = '\n'.toUInt8 || b = '\x0c'.toUInt8 ||
    b = '\r'.toUInt8

/-- The bytes of words: ASCII letters and digits, the underscore, and all beyond ASCII. -/
def isWordByte (b : UInt8) : Bool :=
  ('A'.toUInt8 ≤ b && b ≤ 'Z'.toUInt8) || ('a'.toUInt8 ≤ b && b ≤ 'z'.toUInt8) ||
    ('0'.toUInt8 ≤ b && b ≤ '9'.toUInt8) || b = '_'.toUInt8 || 0x80 ≤ b

/-- The quotes of names. -/
def isNameQuote (b : UInt8) : Bool := b = '"'.toUInt8 || b = '\x60'.toUInt8

/-- Two dashes: `b` and the first byte after it. -/
def OpensLine (b : UInt8) (v : List UInt8) : Prop := b = '-'.toUInt8 ∧ v.head? = some '-'.toUInt8

/-- The mark that opens a block comment. -/
def OpensBlock (b : UInt8) (v : List UInt8) : Prop := b = '/'.toUInt8 ∧ v.head? = some '*'.toUInt8

/-- The mark that closes a block comment. -/
def ClosesBlock (b : UInt8) (v : List UInt8) : Prop := b = '*'.toUInt8 ∧ v.head? = some '/'.toUInt8

/-- What stands between two quotes `q`. -/
inductive QuoteBody (q : UInt8) : List UInt8 → Prop where
  | nil : QuoteBody q []
  /-- A backslash and any byte. -/
  | escaped (b : UInt8) {u : List UInt8} (h : QuoteBody q u) : QuoteBody q ('\\'.toUInt8 :: b :: u)
  | doubled {u : List UInt8} (h : QuoteBody q u) : QuoteBody q (q :: q :: u)
  | plain {b : UInt8} {u : List UInt8} (hq : b ≠ q) (hb : b ≠ '\\'.toUInt8) (h : QuoteBody q u) :
      QuoteBody q (b :: u)

/-- **What stands after the mark that opens a block comment**, up to the mark that closes it. -/
inductive CommentBody : List UInt8 → Prop where
  | close : CommentBody ['*'.toUInt8, '/'.toUInt8]
  /-- A comment inside the comment, and what stands after it. -/
  | nested {u v : List UInt8} (hu : CommentBody u) (hv : CommentBody v) :
      CommentBody ('/'.toUInt8 :: '*'.toUInt8 :: (u ++ v))
  | plain {b : UInt8} {u : List UInt8} (ho : ¬ OpensBlock b u) (hc : ¬ ClosesBlock b u)
      (h : CommentBody u) : CommentBody (b :: u)

/-- The same for a reader that counts the comments it is in, in 32 bits: what stands inside `depth`
    of them, up to the mark at which it counts the last. -/
inductive CountedBody : UInt32 → List UInt8 → Prop where
  | last : CountedBody 1 ['*'.toUInt8, '/'.toUInt8]
  | closed {depth : UInt32} {u : List UInt8} (hd : depth ≠ 1) (h : CountedBody (depth - 1) u) :
      CountedBody depth ('*'.toUInt8 :: '/'.toUInt8 :: u)
  | opened {depth : UInt32} {u : List UInt8} (h : CountedBody (depth + 1) u) :
      CountedBody depth ('/'.toUInt8 :: '*'.toUInt8 :: u)
  | plain {depth : UInt32} {b : UInt8} {u : List UInt8} (ho : ¬ OpensBlock b u)
      (hc : ¬ ClosesBlock b u) (h : CountedBody depth u) : CountedBody depth (b :: u)

/-- What follows the mark that opens a comment, for the reader that counts. -/
abbrev Counted : List UInt8 → Prop := CountedBody 1

/-- **The bytes `u` are a lexeme of a kind** where the bytes `v` follow, if `Body` is what follows
    the mark that opens a block comment. -/
inductive IsLexeme (Body : List UInt8 → Prop) : LexemeKind → List UInt8 → List UInt8 → Prop where
  | blank {b : UInt8} {v : List UInt8} (hb : isBlankByte b = true) : IsLexeme Body .blank [b] v
  /-- Two dashes and all up to the next line feed, with it. -/
  | lineComment {u v : List UInt8} (hu : '\n'.toUInt8 ∉ u) :
      IsLexeme Body .lineComment ('-'.toUInt8 :: '-'.toUInt8 :: (u ++ ['\n'.toUInt8])) v
  /-- Two dashes and all up to the end of the text, if there is no line feed. -/
  | lastComment {u : List UInt8} (hu : '\n'.toUInt8 ∉ u) :
      IsLexeme Body .lineComment ('-'.toUInt8 :: '-'.toUInt8 :: u) []
  | blockComment {u v : List UInt8} (hu : Body u) :
      IsLexeme Body .blockComment ('/'.toUInt8 :: '*'.toUInt8 :: u) v
  /-- The closing quote is not followed by another one. -/
  | string {u v : List UInt8} (hu : QuoteBody '\''.toUInt8 u) (hv : v.head? ≠ some '\''.toUInt8) :
      IsLexeme Body (.token .string) ('\''.toUInt8 :: (u ++ ['\''.toUInt8])) v
  | quotedName {q : UInt8} {u v : List UInt8} (hq : isNameQuote q = true) (hu : QuoteBody q u)
      (hv : v.head? ≠ some q) : IsLexeme Body (.token .quotedName) (q :: (u ++ [q])) v
  | placeholder {v : List UInt8} : IsLexeme Body (.token .placeholder) ['?'.toUInt8] v
  /-- A run of word bytes that no word byte follows. -/
  | word {b : UInt8} {u v : List UInt8} (hu : ∀ x ∈ b :: u, isWordByte x = true)
      (hv : ∀ x ∈ v.head?, isWordByte x = false) : IsLexeme Body (.token .word) (b :: u) v
  /-- Any other byte that is no quote and opens no comment. -/
  | symbol {b : UInt8} {v : List UInt8} (hb : isBlankByte b = false) (hw : isWordByte b = false)
      (hs : b ≠ '\''.toUInt8) (hn : isNameQuote b = false) (hp : b ≠ '?'.toUInt8)
      (hl : ¬ OpensLine b v) (hc : ¬ OpensBlock b v) :
      IsLexeme Body (.token (.symbol (Char.ofNat b.toNat))) [b] v

/-- A lexeme by its bytes. -/
structure Piece where
  kind : LexemeKind
  bytes : List UInt8
deriving DecidableEq

/-- **A text read from left to right as lexemes**, up to the rest `w`. -/
inductive Lexed (Body : List UInt8 → Prop) : List UInt8 → List Piece → List UInt8 → Prop where
  | done (w : List UInt8) : Lexed Body w [] w
  | next {k : LexemeKind} {u v w : List UInt8} {ps : List Piece} (h : IsLexeme Body k u v)
      (hs : Lexed Body v ps w) : Lexed Body (u ++ v) (⟨k, u⟩ :: ps) w

/-- A text begins with a lexeme of a kind and goes on with `v`. -/
def Begins (Body : List UInt8 → Prop) (k : LexemeKind) (w v : List UInt8) : Prop :=
  ∃ u, IsLexeme Body k u v ∧ w = u ++ v

/-- A text opens what has to be closed. -/
inductive Opens : Unclosed → List UInt8 → Prop where
  | string (w : List UInt8) : Opens .string ('\''.toUInt8 :: w)
  | quotedName {q : UInt8} (hq : isNameQuote q = true) (w : List UInt8) : Opens .quotedName (q :: w)
  | blockComment (w : List UInt8) : Opens .blockComment ('/'.toUInt8 :: '*'.toUInt8 :: w)

/-- **A text opens a lexeme that is never closed**: it begins with none. -/
structure Unterminated (Body : List UInt8 → Prop) (what : Unclosed) (w : List UInt8) : Prop where
  opens : Opens what w
  none : ∀ k v, ¬ Begins Body k w v

/-! ## 3. The kind of a lexeme shows in its first two bytes -/

variable {Body : List UInt8 → Prop}

instance (b : UInt8) (v : List UInt8) : Decidable (OpensLine b v) := instDecidableAnd

instance (b : UInt8) (v : List UInt8) : Decidable (OpensBlock b v) := instDecidableAnd

/-- The kind of the lexeme that the text `b :: w` begins with, if it begins with one. -/
def kindAt (b : UInt8) (w : List UInt8) : LexemeKind :=
  if isBlankByte b then .blank
  else if OpensLine b w then .lineComment
  else if OpensBlock b w then .blockComment
  else if b = '\''.toUInt8 then .token .string
  else if isNameQuote b then .token .quotedName
  else if b = '?'.toUInt8 then .token .placeholder
  else if isWordByte b then .token .word
  else .token (.symbol (Char.ofNat b.toNat))

theorem ne_of_isWordByte {b x : UInt8} (hb : isWordByte b = true) (hx : isWordByte x = false) :
    b ≠ x := fun e => by
  rw [e, hx] at hb
  cases hb

/-- No word byte is special. -/
theorem kindAt_word {b : UInt8} (hb : isWordByte b = true) (w : List UInt8) :
    kindAt b w = .token .word := by
  have hne : ∀ x : UInt8, isWordByte x = false → b ≠ x := fun x hx => ne_of_isWordByte hb hx
  have hblank : isBlankByte b = false := by
    simp only [isBlankByte, hne _ (show isWordByte ' '.toUInt8 = false by decide),
      hne _ (show isWordByte '\t'.toUInt8 = false by decide),
      hne _ (show isWordByte '\n'.toUInt8 = false by decide),
      hne _ (show isWordByte '\x0c'.toUInt8 = false by decide),
      hne _ (show isWordByte '\r'.toUInt8 = false by decide), decide_false, Bool.or_false]
  have hname : isNameQuote b = false := by
    simp only [isNameQuote, hne _ (show isWordByte '"'.toUInt8 = false by decide),
      hne _ (show isWordByte '\x60'.toUInt8 = false by decide), decide_false, Bool.or_false]
  have hdash := hne '-'.toUInt8 (by decide)
  have hslash := hne '/'.toUInt8 (by decide)
  have hquote := hne '\''.toUInt8 (by decide)
  have hmark := hne '?'.toUInt8 (by decide)
  simp [kindAt, hblank, OpensLine, OpensBlock, hname, hdash, hslash, hquote, hmark, hb]

theorem isNameQuote_iff {q : UInt8} :
    isNameQuote q = true ↔ q = '"'.toUInt8 ∨ q = '\x60'.toUInt8 := by
  simp only [isNameQuote, Bool.or_eq_true, decide_eq_true_eq]

theorem IsLexeme.kind_eq {k : LexemeKind} {b : UInt8} {u v : List UInt8}
    (h : IsLexeme Body k (b :: u) v) : k = kindAt b (u ++ v) := by
  cases h with
  | blank hb => exact (if_pos hb).symm
  | lineComment hu => rfl
  | lastComment hu => rfl
  | blockComment hu => rfl
  | string hu hv => rfl
  | quotedName hq hu hv =>
    rcases isNameQuote_iff.1 hq with rfl | rfl
    · rfl
    · rfl
  | placeholder => rfl
  | word hu hv => exact (kindAt_word (hu b List.mem_cons_self) _).symm
  | symbol hb hw hs hn hp hl hc =>
    simp only [kindAt, hb, hw, hs, hn, hp, List.nil_append, hl, hc, if_false, Bool.false_eq_true]

/-! ## 4. What a text begins with -/

theorem IsLexeme.ne_nil {k : LexemeKind} {u v : List UInt8} (h : IsLexeme Body k u v) : u ≠ [] := by
  cases h <;> simp

theorem begins_cons {k : LexemeKind} {b : UInt8} {w v : List UInt8} :
    Begins Body k (b :: w) v ↔ k = kindAt b w ∧ ∃ u, IsLexeme Body k (b :: u) v ∧ w = u ++ v := by
  constructor
  · intro ⟨u, h, e⟩
    cases u with
    | nil => exact absurd rfl h.ne_nil
    | cons b' u =>
      obtain ⟨rfl, rfl⟩ := List.cons.inj e
      exact ⟨h.kind_eq, u, h, rfl⟩
  · intro h
    obtain ⟨-, u, h, rfl⟩ := h
    exact ⟨b :: u, h, rfl⟩

/-- Nothing begins with a lexeme unless there is something. -/
theorem not_begins_nil {k : LexemeKind} {v : List UInt8} : ¬ Begins Body k [] v := by
  intro ⟨u, h, e⟩
  exact h.ne_nil (List.append_eq_nil_iff.1 e.symm).1

variable {k k' : LexemeKind} {b q : UInt8} {w v : List UInt8}

/-- Where a lexeme is one byte, the text goes on with the next. -/
theorem begins_byte (hk : kindAt b w = k') (hb : IsLexeme Body k' [b] w)
    (hone : ∀ u v, IsLexeme Body k' (b :: u) v → u = []) :
    Begins Body k (b :: w) v ↔ k = k' ∧ v = w := by
  rw [begins_cons, hk]
  constructor
  · intro h
    obtain ⟨rfl, u, hu, rfl⟩ := h
    rw [hone u v hu]
    exact ⟨rfl, rfl⟩
  · intro h
    obtain ⟨rfl, rfl⟩ := h
    exact ⟨rfl, [], hb, rfl⟩

theorem begins_blank (hb : isBlankByte b = true) :
    Begins Body k (b :: w) v ↔ k = .blank ∧ v = w := by
  have hk : kindAt b w = .blank := if_pos hb
  refine begins_byte hk (.blank hb) fun u v h => ?_
  cases h
  rfl

/-- The first line feed of `w`, or its end, is before `v`. -/
def EndsLine (w v : List UInt8) : Prop :=
  ∃ u, '\n'.toUInt8 ∉ u ∧ (w = u ++ '\n'.toUInt8 :: v ∨ w = u ∧ v = [])

theorem begins_lineComment :
    Begins Body k ('-'.toUInt8 :: '-'.toUInt8 :: w) v ↔ k = .lineComment ∧ EndsLine w v := by
  rw [begins_cons, show kindAt '-'.toUInt8 ('-'.toUInt8 :: w) = .lineComment from rfl]
  constructor
  · intro h
    obtain ⟨rfl, u, h, e⟩ := h
    refine ⟨rfl, ?_⟩
    cases h with
    | @lineComment u _ hu =>
      refine ⟨u, hu, .inl ?_⟩
      simpa using e
    | @lastComment u hu =>
      refine ⟨u, hu, .inr ⟨?_, rfl⟩⟩
      simpa using e
  · intro h
    rcases h with ⟨rfl, u, hu, rfl | ⟨rfl, rfl⟩⟩
    · exact ⟨rfl, _, .lineComment hu, by simp⟩
    · exact ⟨rfl, _, .lastComment hu, by simp⟩

/-- What is open at the start of `w` is closed before `v`. -/
def Closes (Body : List UInt8 → Prop) (w v : List UInt8) : Prop := ∃ u, Body u ∧ w = u ++ v

theorem begins_blockComment :
    Begins Body k ('/'.toUInt8 :: '*'.toUInt8 :: w) v ↔ k = .blockComment ∧ Closes Body w v := by
  rw [begins_cons, show kindAt '/'.toUInt8 ('*'.toUInt8 :: w) = .blockComment from rfl]
  constructor
  · intro h
    obtain ⟨rfl, u, h, e⟩ := h
    refine ⟨rfl, ?_⟩
    cases h with
    | @blockComment u _ hu => exact ⟨u, hu, by simpa using e⟩
  · intro h
    obtain ⟨rfl, u, hu, rfl⟩ := h
    exact ⟨rfl, _, .blockComment hu, rfl⟩

/-- What is open in quotes `q` at the start of `w` is closed before `v`. -/
def ClosesQuote (q : UInt8) (w v : List UInt8) : Prop :=
  ∃ u, QuoteBody q u ∧ v.head? ≠ some q ∧ w = u ++ q :: v

theorem begins_string :
    Begins Body k ('\''.toUInt8 :: w) v ↔ k = .token .string ∧ ClosesQuote '\''.toUInt8 w v := by
  rw [begins_cons, show kindAt '\''.toUInt8 w = .token .string from rfl]
  constructor
  · intro h
    obtain ⟨rfl, u, h, e⟩ := h
    refine ⟨rfl, ?_⟩
    cases h with
    | @string u _ hu hv => exact ⟨u, hu, hv, by simpa using e⟩
  · intro h
    obtain ⟨rfl, u, hu, hv, rfl⟩ := h
    exact ⟨rfl, _, .string hu hv, by simp⟩

theorem begins_quotedName (hq : isNameQuote q = true) :
    Begins Body k (q :: w) v ↔ k = .token .quotedName ∧ ClosesQuote q w v := by
  have hk : kindAt q w = .token .quotedName := by
    rcases isNameQuote_iff.1 hq with rfl | rfl
    · rfl
    · rfl
  rw [begins_cons, hk]
  constructor
  · intro h
    obtain ⟨rfl, u, h, e⟩ := h
    refine ⟨rfl, ?_⟩
    cases h with
    | @quotedName _ u _ _ hu hv => exact ⟨u, hu, hv, by simpa using e⟩
  · intro h
    obtain ⟨rfl, u, hu, hv, rfl⟩ := h
    exact ⟨rfl, _, .quotedName hq hu hv, by simp⟩

theorem begins_placeholder :
    Begins Body k ('?'.toUInt8 :: w) v ↔ k = .token .placeholder ∧ v = w := by
  refine begins_byte rfl .placeholder fun u v h => ?_
  cases h
  rfl

/-- The run of word bytes at the start of `w` ends before `v`. -/
def EndsWord (w v : List UInt8) : Prop :=
  ∃ u, (∀ x ∈ u, isWordByte x = true) ∧ (∀ x ∈ v.head?, isWordByte x = false) ∧ w = u ++ v

theorem begins_word (hb : isWordByte b = true) :
    Begins Body k (b :: w) v ↔ k = .token .word ∧ EndsWord w v := by
  rw [begins_cons, kindAt_word hb]
  constructor
  · intro h
    obtain ⟨rfl, u, h, e⟩ := h
    refine ⟨rfl, ?_⟩
    cases h with
    | word hu hv => exact ⟨u, fun x hx => hu x (List.mem_cons_of_mem _ hx), hv, e⟩
  · intro h
    obtain ⟨rfl, u, hu, hv, rfl⟩ := h
    refine ⟨rfl, u, .word (fun x hx => ?_) hv, rfl⟩
    rcases List.mem_cons.1 hx with rfl | hx
    · exact hb
    · exact hu x hx

/-- What is nothing else is a symbol. -/
theorem isLexeme_of_kindAt {c : Char} (hk : kindAt b w = .token (.symbol c)) :
    IsLexeme Body (.token (.symbol c)) [b] w := by
  unfold kindAt at hk
  split at hk
  · cases hk
  rename_i hb
  split at hk
  · cases hk
  rename_i hl
  split at hk
  · cases hk
  rename_i hc
  split at hk
  · cases hk
  rename_i hs
  split at hk
  · cases hk
  rename_i hn
  split at hk
  · cases hk
  rename_i hp
  split at hk
  · cases hk
  rename_i hw
  cases hk
  exact .symbol (Bool.eq_false_iff.2 hb) (Bool.eq_false_iff.2 hw) hs (Bool.eq_false_iff.2 hn) hp hl
    hc

theorem begins_symbol {c : Char} (hk : kindAt b w = .token (.symbol c)) :
    Begins Body k (b :: w) v ↔ k = .token (.symbol c) ∧ v = w := by
  refine begins_byte hk (isLexeme_of_kindAt hk) fun u v h => ?_
  cases h
  rfl

/-! ## 5. Closing, one step at a time -/

theorem not_closesQuote_nil : ¬ ClosesQuote q [] v := by
  intro ⟨u, _, _, e⟩
  cases u <;> cases e

theorem not_closesQuote_backslash (hq : q ≠ '\\'.toUInt8) :
    ¬ ClosesQuote q ['\\'.toUInt8] v := by
  intro ⟨u, hu, _, e⟩
  cases hu with
  | nil => exact hq (List.cons.inj e).1.symm
  | escaped b hu => simp at e
  | doubled hu => exact hq (List.cons.inj e).1.symm
  | plain hb hs hu => exact hs (List.cons.inj e).1.symm

theorem closesQuote_escaped (hq : q ≠ '\\'.toUInt8) (b : UInt8) :
    ClosesQuote q ('\\'.toUInt8 :: b :: w) v ↔ ClosesQuote q w v := by
  constructor
  · intro ⟨u, hu, hv, e⟩
    cases hu with
    | nil => exact absurd (List.cons.inj e).1.symm hq
    | escaped b hu =>
      simp only [List.cons_append, List.cons.injEq, true_and] at e
      exact ⟨_, hu, hv, e.2⟩
    | doubled hu => exact absurd (List.cons.inj e).1.symm hq
    | plain hb hs hu => exact absurd (List.cons.inj e).1.symm hs
  · intro h
    obtain ⟨u, hu, hv, rfl⟩ := h
    exact ⟨_, .escaped b hu, hv, rfl⟩

theorem closesQuote_doubled (hq : q ≠ '\\'.toUInt8) :
    ClosesQuote q (q :: q :: w) v ↔ ClosesQuote q w v := by
  constructor
  · intro ⟨u, hu, hv, e⟩
    cases hu with
    | nil =>
      -- the quote would be closed by one that another follows
      simp only [List.nil_append, List.cons.injEq, true_and] at e
      rw [← e] at hv
      exact absurd rfl hv
    | escaped b hu => exact absurd (List.cons.inj e).1 hq
    | doubled hu =>
      simp only [List.cons_append, List.cons.injEq, true_and] at e
      exact ⟨_, hu, hv, e⟩
    | plain hb hs hu => exact absurd (List.cons.inj e).1.symm hb
  · intro h
    obtain ⟨u, hu, hv, rfl⟩ := h
    exact ⟨_, .doubled hu, hv, rfl⟩

theorem closesQuote_quote (hq : q ≠ '\\'.toUInt8) (hw : w.head? ≠ some q) :
    ClosesQuote q (q :: w) v ↔ v = w := by
  constructor
  · intro ⟨u, hu, hv, e⟩
    cases hu with
    | nil => exact (List.cons.inj e).2.symm
    | escaped b hu => exact absurd (List.cons.inj e).1 hq
    | doubled hu =>
      rw [List.cons_append, List.cons.injEq] at e
      rw [e.2] at hw
      exact absurd rfl hw
    | plain hb hs hu => exact absurd (List.cons.inj e).1.symm hb
  · intro h
    subst h
    exact ⟨[], .nil, hw, rfl⟩

theorem closesQuote_plain (hq : b ≠ q) (hb : b ≠ '\\'.toUInt8) :
    ClosesQuote q (b :: w) v ↔ ClosesQuote q w v := by
  constructor
  · intro ⟨u, hu, hv, e⟩
    cases hu with
    | nil => exact absurd (List.cons.inj e).1 hq
    | escaped b hu => exact absurd (List.cons.inj e).1 hb
    | doubled hu => exact absurd (List.cons.inj e).1 hq
    | plain _ _ hu =>
      obtain ⟨rfl, rfl⟩ := List.cons.inj e
      exact ⟨_, hu, hv, rfl⟩
  · intro h
    obtain ⟨u, hu, hv, rfl⟩ := h
    exact ⟨_, .plain hq hb hu, hv, rfl⟩

end StatelessSession.Sql
