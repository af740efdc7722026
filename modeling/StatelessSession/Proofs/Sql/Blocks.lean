import StatelessSession.Proofs.Sql.Binding

/-!
# Blocks of tokens read back as values

The tokens of a literal, taken on their own, say which value was written: a string literal says a
text, a word of digits with or without a dash before it an integer, and a call of `unhex` a byte
string. Blocks of one kind are cut off a sequence of tokens in one way only.

* `text?`, `int?`, `bytes?` -- the readers; `unhex?` -- of hexadecimal digits.
* `Reads` -- a block reads as a value.
* **`exists_reads`** -- every value is written as a literal that reads as it.
* **`Reads.append_inj`**, **`Reads.unique`** -- two integers, two texts or two byte strings show in
  where their blocks end and in what these read as.

NOT here: where the blocks stand (`Proofs.Sql.ReadBack`).
-/

namespace StatelessSession.Sql

/-! ## 1. Readers -/

/-- Tokens by kind and text. -/
abbrev Block := List (TokenKind × List Char)

namespace Block

/-- The text of a block that is one string literal. -/
def text? : Block → Option (List Char)
  | [(.string, literal)] => some (StringLiteral.decode literal)
  | _ => none

/-- The number that some decimal digits are. -/
def number? (ds : List Char) : Option Nat :=
  if ds ≠ [] ∧ ds.all Char.isDigit then some (Text.value ds) else none

/-- The integer of a block that is one word of digits, or a dash and such a word. -/
def int? : Block → Option Int
  | [(.word, ds)] => (number? ds).map Int.ofNat
  | [(.symbol '-', _), (.word, ds)] => (number? ds).map fun n => -Int.ofNat n
  | _ => none

/-- The value of a hexadecimal digit. -/
def hexDigit? (c : Char) : Option Nat :=
  if '0' ≤ c ∧ c ≤ '9' then some (c.toNat - '0'.toNat)
  else if 'A' ≤ c ∧ c ≤ 'F' then some (c.toNat - 'A'.toNat + 10)
  else if 'a' ≤ c ∧ c ≤ 'f' then some (c.toNat - 'a'.toNat + 10)
  else none

/-- The bytes of pairs of hexadecimal digits. -/
def unhex? : List Char → Option (List UInt8)
  | [] => some []
  | [_] => none
  | c :: d :: r => do
    let high ← hexDigit? c
    let low ← hexDigit? d
    let bytes ← unhex? r
    return UInt8.ofNat (16 * high + low) :: bytes

/-- The bytes of a block that is a call of `unhex` with a string literal. -/
def bytes? : Block → Option (List UInt8)
  | [(.word, name), (.symbol '(', _), (.string, literal), (.symbol ')', _)] =>
    if name = "unhex".toList then unhex? (StringLiteral.decode literal) else none
  | _ => none

end Block

/-- **A block of tokens reads as a value.** Doubles, truth values and the absent value are read as
    nothing in particular. -/
def Reads (block : Block) : Value → Prop
  | .text s => block.text? = some s.toList
  | .timestamp t => block.text? = some t.body
  | .json j => block.text? = some j.chars
  | .int n => block.int? = some n.toInt
  | .blob bytes => block.bytes? = some bytes
  | .float _ | .bool _ | .null => True

/-! ## 2. What is written is read -/

theorem text?_quote (s : List Char) : Block.text? [(.string, StringLiteral.quote s)] = some s := by
  rw [Block.text?, StringLiteral.decode_quote]

theorem number?_digits (n : Nat) : Block.number? (Text.digits n) = some n := by
  have hall : (Text.digits n).all Char.isDigit = true := List.all_eq_true.2 fun c hc =>
    Nat.isDigit_of_mem_toDigits (by decide) (by decide) hc
  rw [Block.number?, if_pos ⟨Text.digits_ne_nil, hall⟩, Text.value_digits]

theorem hexDigit?_upperHexDigit : ∀ n < 16, Block.hexDigit? (Text.upperHexDigit n) = some n := by
  decide

theorem unhex?_hexText (bytes : List UInt8) : Block.unhex? (Value.hexText bytes) = some bytes := by
  induction bytes with
  | nil => rfl
  | cons b bytes ih =>
    have hb := b.toNat_lt
    have hhigh := hexDigit?_upperHexDigit (b.toNat / 16) (by omega)
    have hlow := hexDigit?_upperHexDigit (b.toNat % 16) (by omega)
    have hbyte : UInt8.ofNat (16 * (b.toNat / 16) + b.toNat % 16) = b := by
      rw [Nat.div_add_mod, UInt8.ofNat_toNat]
    show (do
      let high ← Block.hexDigit? (Text.upperHexDigit (b.toNat / 16))
      let low ← Block.hexDigit? (Text.upperHexDigit (b.toNat % 16))
      let bytes ← Block.unhex? (Value.hexText bytes)
      return UInt8.ofNat (16 * high + low) :: bytes) = some (b :: bytes)
    rw [hhigh, hlow, ih]
    exact congrArg (fun x => some (x :: bytes)) hbyte

/-- What needs no escapes is encoded as itself. -/
theorem encode_eq_self {s : List Char} (h : ∀ c ∈ s, c ≠ '\'' ∧ c ≠ '\\') :
    StringLiteral.encode s = s := by
  induction s with
  | nil => rfl
  | cons c s ih =>
    obtain ⟨hq, hb⟩ := h c List.mem_cons_self
    rw [StringLiteral.encode_cons, ih fun c hc => h c (List.mem_cons_of_mem _ hc),
      StringLiteral.escapeChar, if_neg hb, if_neg hq]
    rfl

/-- The tokens of some lexemes, by kind and text. -/
def contents (ls : List Lexeme) : Block := ls.filterMap Lexeme.content?

/-- **Every value is written as a literal that reads as it.** -/
theorem exists_reads (v : Value) :
    ∃ ls, joined ls = v.literal ∧ IsLiteral ls ∧ Reads (contents ls) v := by
  have hquote : ∀ s, ∃ ls, joined ls = StringLiteral.quote s ∧ IsLiteral ls ∧
      Block.text? (contents ls) = some s := fun s =>
    ⟨[.string (StringLiteral.encode s)], List.append_nil _, isLiteral_string (quoteBody_encode s),
      text?_quote s⟩
  cases v with
  | text s => exact hquote s.toList
  | timestamp t => exact hquote t.body
  | json j => exact hquote j.chars
  | int n =>
    refine ⟨_, Value.joined_intLexemes _, Value.isLiteral_int n.toInt, ?_⟩
    show Block.int? (contents (Value.intLexemes n.toInt)) = some n.toInt
    cases n.toInt with
    | ofNat n =>
      show (Block.number? (Text.digits n)).map Int.ofNat = some (Int.ofNat n)
      rw [number?_digits]
      rfl
    | negSucc n =>
      show (Block.number? (Text.digits (n + 1))).map _ = some (Int.negSucc n)
      rw [number?_digits]
      rfl
  | blob bytes =>
    refine ⟨_, Value.joined_blobLexemes bytes, Value.isLiteral_blob bytes, ?_⟩
    show Block.unhex? (StringLiteral.decode ('\'' :: Value.hexText bytes ++ ['\''])) = some bytes
    have hlit : '\'' :: Value.hexText bytes ++ ['\''] =
        StringLiteral.quote (Value.hexText bytes) := by
      rw [StringLiteral.quote, encode_eq_self Value.hexText_plain]
    rw [hlit, StringLiteral.decode_quote, unhex?_hexText]
  | float x =>
    obtain ⟨ls, hj, hl⟩ := Value.exists_isLiteral (.float x)
    exact ⟨ls, hj, hl, trivial⟩
  | bool b =>
    obtain ⟨ls, hj, hl⟩ := Value.exists_isLiteral (.bool b)
    exact ⟨ls, hj, hl, trivial⟩
  | null =>
    obtain ⟨ls, hj, hl⟩ := Value.exists_isLiteral .null
    exact ⟨ls, hj, hl, trivial⟩

/-! ## 3. What is read is told apart -/

/-- Two integers, two texts or two byte strings. -/
inductive Alike : Value → Value → Prop where
  | int (m n : Int64) : Alike (.int m) (.int n)
  | text (s t : String) : Alike (.text s) (.text t)
  | blob (a b : List UInt8) : Alike (.blob a) (.blob b)

theorem shape_of_text? {b : Block} {s : List Char} (h : b.text? = some s) :
    ∃ literal, b = [(.string, literal)] := by
  unfold Block.text? at h
  split at h
  · exact ⟨_, rfl⟩
  · cases h

theorem shape_of_int? {b : Block} {n : Int} (h : b.int? = some n) :
    (∃ ds, b = [(.word, ds)]) ∨ ∃ dash ds, b = [(.symbol '-', dash), (.word, ds)] := by
  unfold Block.int? at h
  split at h
  · exact .inl ⟨_, rfl⟩
  · exact .inr ⟨_, _, rfl⟩
  · cases h

theorem shape_of_bytes? {b : Block} {bytes : List UInt8} (h : b.bytes? = some bytes) :
    ∃ name o literal c,
      b = [(.word, name), (.symbol '(', o), (.string, literal), (.symbol ')', c)] := by
  unfold Block.bytes? at h
  split at h
  · exact ⟨_, _, _, _, rfl⟩
  · cases h

/-- **Two blocks before the rest of the same tokens are the same** if they read alike. -/
theorem Reads.append_inj {b b' r r' : Block} {v v' : Value} (hv : Alike v v') (hb : Reads b v)
    (hb' : Reads b' v') (h : b ++ r = b' ++ r') : b = b' ∧ r = r' := by
  have hlen : b.length = b'.length := by
    cases hv with
    | int m n =>
      -- the first token shows whether there is a dash
      rcases shape_of_int? hb with ⟨ds, rfl⟩ | ⟨dash, ds, rfl⟩
      · rcases shape_of_int? hb' with ⟨ds', rfl⟩ | ⟨dash', ds', rfl⟩
        · rfl
        · cases h
      · rcases shape_of_int? hb' with ⟨ds', rfl⟩ | ⟨dash', ds', rfl⟩
        · cases h
        · rfl
    | text s t =>
      obtain ⟨_, rfl⟩ := shape_of_text? hb
      obtain ⟨_, rfl⟩ := shape_of_text? hb'
      rfl
    | blob x y =>
      obtain ⟨_, _, _, _, rfl⟩ := shape_of_bytes? hb
      obtain ⟨_, _, _, _, rfl⟩ := shape_of_bytes? hb'
      rfl
  exact List.append_inj h hlen

/-- **A block reads as one value** of a kind. -/
theorem Reads.unique {b : Block} {v v' : Value} (hv : Alike v v') (hb : Reads b v)
    (hb' : Reads b v') : v = v' := by
  cases hv with
  | int m n =>
    have hn : m.toInt = n.toInt := Option.some.inj (hb.symm.trans hb')
    rw [Int64.toInt_inj.1 hn]
  | text s t =>
    have hs : s.toList = t.toList := Option.some.inj (hb.symm.trans hb')
    rw [String.toList_inj.1 hs]
  | blob x y =>
    have hbytes : x = y := Option.some.inj (hb.symm.trans hb')
    rw [hbytes]

end StatelessSession.Sql
