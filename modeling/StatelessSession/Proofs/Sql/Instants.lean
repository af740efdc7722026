import Mathlib.Algebra.Group.Nat.Defs
import StatelessSession.Proofs.Sql.Blocks
import StatelessSession.Proofs.Sql.Escapes

/-!
# Timestamp literals are read back

A timestamp is written in one of two forms, with nine places of a second or with none, and its year
in one of three, with four digits, with a plus sign or with a minus sign. A leap second is second 59
as it is kept and second 60 as it is written. None of this loses anything: the fields of a literal
can be read back, and they are those of one timestamp only.

* `Fields`, `Fields.ofBody?` -- what the body of a literal says, and the reader;
  `Fields.instant?` -- the timestamp that this is.
* `field?_append`, `year?_append` -- one field, whatever follows it.
* `ofBody?_body`, `instant?_fields` -- the reader undoes the writing.
* **`timestamp_reads_back`** -- literals of timestamps are plain, read back, and tell them apart.

NOT here: timestamps among other tokens (`ReadBack`).
-/

namespace StatelessSession

/-! ## 1. Numerals of a width -/

namespace Text

variable {n w : Nat} {s : List Char}

theorem isDigit_of_mem_paddedDigits {c : Char} (hc : c ∈ paddedDigits w n) : c.isDigit = true := by
  rcases List.mem_append.1 hc with hc | hc
  · rw [(List.mem_replicate.1 hc).2]
    decide
  · exact Nat.isDigit_of_mem_toDigits (by decide) (by decide) hc

theorem paddedDigits_ne_nil : paddedDigits w n ≠ [] := fun h =>
  digits_ne_nil (List.append_eq_nil_iff.1 h).2

/-- Leading zeros do not count. -/
theorem value_paddedDigits (w n : Nat) : value (paddedDigits w n) = n := by
  unfold paddedDigits
  induction w - (digits n).length with
  | zero => exact value_digits n
  | succ k ih => exact ih

/-- **A number that fits its width** fills it. -/
theorem length_paddedDigits (hw : 0 < w) (h : n < 10 ^ w) : (paddedDigits w n).length = w := by
  have hlength : (digits n).length ≤ w := (Nat.length_toDigits_le_iff (by decide) hw).2 h
  rw [paddedDigits, List.length_append, List.length_replicate, Nat.sub_add_cancel hlength]

end Text

namespace Timestamp

/-! ## 2. Fields -/

/-- **What the body of a timestamp literal says.** -/
structure Fields where
  year : Int
  month : Nat
  day : Nat
  hour : Nat
  minute : Nat
  /-- Sixty in a leap second. -/
  second : Nat
  /-- The nanoseconds within that second, if they are written. -/
  fraction : Option Nat
deriving DecidableEq, Repr

/-- The number at the front, of just so many digits, and what follows it. -/
def field? (width : Nat) (s : List Char) : Option (Nat × List Char) :=
  if (s.take width).length = width then
    (Sql.Block.number? (s.take width)).map (·, s.drop width)
  else none

/-- The number at the front, of all digits that there are, and what follows it. -/
def number? (s : List Char) : Option (Nat × List Char) :=
  (Sql.Block.number? (s.takeWhile Char.isDigit)).map (·, s.dropWhile Char.isDigit)

/-- The year at the front, with a sign or without, and what follows it. -/
def year? : List Char → Option (Int × List Char)
  | '-' :: s => (number? s).map fun p => (-Int.ofNat p.1, p.2)
  | '+' :: s => (number? s).map fun p => (Int.ofNat p.1, p.2)
  | s => (number? s).map fun p => (Int.ofNat p.1, p.2)

/-- What follows a character that has to be there. -/
def after? (c : Char) : List Char → Option (List Char)
  | [] => none
  | d :: s => if d = c then some s else none

/-- What is written of a fraction: nothing, or a point and nine digits. -/
def fraction? : List Char → Option (Option Nat)
  | [] => some none
  | s => do
    let (n, rest) ← field? 9 (← after? '.' s)
    if rest = [] then some (some n) else none

/-- The fields of the body of a literal. -/
def Fields.ofBody? (s : List Char) : Option Fields := do
  let (year, s) ← year? s
  let (month, s) ← field? 2 (← after? '-' s)
  let (day, s) ← field? 2 (← after? '-' s)
  let (hour, s) ← field? 2 (← after? ' ' s)
  let (minute, s) ← field? 2 (← after? ':' s)
  let (second, s) ← field? 2 (← after? ':' s)
  let fraction ← fraction? s
  return ⟨year, month, day, hour, minute, second, fraction⟩

/-- The timestamp that some fields are; second 60 is the leap second in second 59. -/
def Fields.instant? (f : Fields) : Option Timestamp :=
  let nano := f.fraction.getD 0
  if f.second = 60 then ofFields? f.year f.month f.day f.hour f.minute 59 (1000000000 + nano)
  else ofFields? f.year f.month f.day f.hour f.minute f.second nano

/-- The fields of a timestamp, as they are written. -/
def fields (t : Timestamp) : Fields :=
  ⟨t.year, t.month, t.day, t.hour, t.minute, t.writtenSecond,
    if t.nano = 0 then none else some t.writtenNano⟩

/-! ## 3. One field -/

variable {n w : Nat} {s : List Char} {t : Timestamp}

theorem number?_paddedDigits (w n : Nat) : Sql.Block.number? (Text.paddedDigits w n) = some n := by
  have hall : (Text.paddedDigits w n).all Char.isDigit = true :=
    List.all_eq_true.2 fun c hc => Text.isDigit_of_mem_paddedDigits hc
  rw [Sql.Block.number?, if_pos ⟨Text.paddedDigits_ne_nil, hall⟩, Text.value_paddedDigits]

/-- **A field of fixed width** is read back, whatever follows it. -/
theorem field?_append (hw : 0 < w) (h : n < 10 ^ w) (s : List Char) :
    field? w (Text.paddedDigits w n ++ s) = some (n, s) := by
  have hlength := Text.length_paddedDigits hw h
  have htake : (Text.paddedDigits w n ++ s).take w = Text.paddedDigits w n :=
    List.take_left' hlength
  have hdrop : (Text.paddedDigits w n ++ s).drop w = s := List.drop_left' hlength
  rw [field?, htake, hdrop, if_pos hlength, number?_paddedDigits]
  rfl

/-- **A number of any width** is read back before a character that is no digit. -/
theorem number?_append {c : Char} (hc : c.isDigit = false) (w n : Nat) (s : List Char) :
    number? (Text.paddedDigits w n ++ c :: s) = some (n, c :: s) := by
  have hdigits : ∀ d ∈ Text.paddedDigits w n, d.isDigit = true :=
    fun d hd => Text.isDigit_of_mem_paddedDigits hd
  have hstop : ¬ c.isDigit = true := Bool.eq_false_iff.1 hc
  rw [number?, List.takeWhile_append_of_pos hdigits, List.dropWhile_append_of_pos hdigits,
    List.takeWhile_cons_of_neg hstop, List.dropWhile_cons_of_neg hstop, List.append_nil,
    number?_paddedDigits]
  rfl

theorem digits_eq_paddedDigits (n : Nat) : Text.digits n = Text.paddedDigits 0 n := by
  rw [Text.paddedDigits, Nat.zero_sub]
  rfl

/-- A text that begins with a digit has no sign. -/
theorem year?_of_isDigit {c : Char} (hc : c.isDigit = true) (s : List Char) :
    year? (c :: s) = (number? (c :: s)).map fun p => (Int.ofNat p.1, p.2) := by
  rw [year?.eq_def]
  split
  · rename_i e
    rw [(List.cons.inj e).1] at hc
    cases hc
  · rename_i e
    rw [(List.cons.inj e).1] at hc
    cases hc
  · rfl

/-- **A year is read back**, with four digits or with a sign. -/
theorem year?_append (year : Int) (s : List Char) :
    year? (yearText year ++ '-' :: s) = some (year, '-' :: s) := by
  have hdash : '-'.isDigit = false := rfl
  unfold yearText
  split
  · rename_i n
    split
    · obtain ⟨c, ds, hds⟩ := List.exists_cons_of_ne_nil (Text.paddedDigits_ne_nil (w := 4) (n := n))
      have hc : c.isDigit = true :=
        Text.isDigit_of_mem_paddedDigits (w := 4) (n := n) (hds ▸ List.mem_cons_self)
      have hread := number?_append hdash 4 n s
      rw [hds, List.cons_append] at hread ⊢
      rw [year?_of_isDigit hc, hread]
      rfl
    · have hread := number?_append hdash 0 n s
      rw [digits_eq_paddedDigits, List.cons_append, year?, hread]
      rfl
  · rename_i n
    rw [List.cons_append, year?, number?_append hdash]
    rfl

theorem after?_self (c : Char) (s : List Char) : after? c (c :: s) = some s := if_pos rfl

/-! ## 4. All fields -/

/-- The bounds of the fields. -/
structure InBounds (t : Timestamp) : Prop where
  month : t.month < 100
  day : t.day < 100
  hour : t.hour < 100
  minute : t.minute < 100
  second : t.writtenSecond ≤ 60
  nano : t.nano < 1000000000 ∨ t.second = 59 ∧ t.nano < 2000000000
  second_lt : t.second < 60

theorem daysInMonth_le (year : Int) (month : Nat) : daysInMonth year month ≤ 31 := by
  unfold daysInMonth
  cases isLeapYear year <;> (split <;> decide)

theorem daysInMonth_of_le {month : Nat} (h : 13 ≤ month) (year : Int) :
    daysInMonth year month = 0 := by
  unfold daysInMonth
  split <;> omega

theorem inBounds (t : Timestamp) : t.InBounds := by
  have hd := t.dateValid
  have ht := t.timeValid
  simp only [isDate, isTime, Bool.and_eq_true, Bool.or_eq_true, decide_eq_true_eq, beq_iff_eq]
    at hd ht
  obtain ⟨⟨-, hone⟩, hdays⟩ := hd
  obtain ⟨⟨⟨hhour, hminute⟩, hsecond⟩, hnano⟩ := ht
  have hmonth : t.month < 13 := by
    refine Nat.lt_of_not_le fun h => ?_
    rw [daysInMonth_of_le h] at hdays
    exact absurd (Nat.le_trans hone hdays) (by decide)
  have hmost := daysInMonth_le t.year t.month
  have hwritten : t.writtenSecond ≤ 60 := by
    unfold writtenSecond
    split <;> omega
  exact ⟨by omega, by omega, by omega, by omega, hwritten, hnano, hsecond⟩

theorem fraction?_body (h : t.writtenNano < 10 ^ 9) :
    fraction? (if t.nano = 0 then [] else '.' :: Text.paddedDigits 9 t.writtenNano) =
      some t.fields.fraction := by
  rw [fields]
  by_cases hzero : t.nano = 0
  · rw [if_pos hzero, if_pos hzero, fraction?]
  · have hread := field?_append (Nat.zero_lt_succ 8) h []
    rw [List.append_nil] at hread
    rw [if_neg hzero, if_neg hzero, fraction?, after?_self]
    · simp only [Option.bind_eq_bind, Option.bind_some, hread, if_true]
    · exact List.cons_ne_nil _ _

/-- **Reading the body gives the fields.** -/
theorem ofBody?_body (t : Timestamp) : Fields.ofBody? t.body = some t.fields := by
  have h := t.inBounds
  have hnano : t.writtenNano < 10 ^ 9 := Nat.mod_lt _ (by decide)
  have hfield {n : Nat} (hn : n < 100) (s : List Char) := field?_append (w := 2) (by decide) hn s
  have hsecond : t.writtenSecond < 100 := Nat.lt_of_le_of_lt h.second (by decide)
  unfold body dateText clockText
  simp only [List.append_assoc, List.cons_append]
  unfold Fields.ofBody?
  simp only [year?_append, after?_self, hfield h.month, hfield h.day, hfield h.hour,
    hfield h.minute, hfield hsecond, fraction?_body hnano, Option.bind_eq_bind, Option.bind_some,
    Option.pure_def]
  rfl

/-- **The fields are those of one timestamp**: the leap second is told by its second. -/
theorem instant?_fields (t : Timestamp) : t.fields.instant? = some t := by
  have h := t.inBounds
  have hself : ofFields? t.year t.month t.day t.hour t.minute t.second t.nano = some t := by
    rw [ofFields?, dif_pos t.dateValid, dif_pos t.timeValid]
  have hfraction : t.fields.fraction.getD 0 = t.writtenNano := by
    rw [fields]
    by_cases hzero : t.nano = 0
    · rw [if_pos hzero, writtenNano, hzero]
      rfl
    · rw [if_neg hzero]
      rfl
  unfold Fields.instant?
  rw [hfraction]
  show (if t.writtenSecond = 60 then
    ofFields? t.year t.month t.day t.hour t.minute 59 (1000000000 + t.writtenNano)
    else ofFields? t.year t.month t.day t.hour t.minute t.writtenSecond t.writtenNano) = some t
  by_cases hleap : t.nano < 1000000000
  · have hsecond : t.writtenSecond = t.second := if_pos hleap
    have hnano : t.writtenNano = t.nano := Nat.mod_eq_of_lt hleap
    rw [hsecond, hnano, if_neg (Nat.ne_of_lt h.second_lt), hself]
  · obtain ⟨h59, hlt⟩ := h.nano.resolve_left hleap
    have hsecond : t.writtenSecond = 60 := by
      rw [writtenSecond, if_neg hleap, h59]
    have hnano : 1000000000 + t.writtenNano = t.nano := by
      unfold writtenNano
      omega
    rw [if_pos hsecond, hnano, ← h59, hself]

/-! ## 5. Literals -/

/-- A character of a body. -/
def isPlain (c : Char) : Bool := c.isDigit || "+-:. ".toList.contains c

theorem ne_of_isPlain {c : Char} (h : isPlain c = true) : c ≠ '\'' ∧ c ≠ '\\' := by
  constructor
  · rintro rfl
    cases h
  · rintro rfl
    cases h

theorem all_isPlain_paddedDigits (w n : Nat) : (Text.paddedDigits w n).all isPlain = true :=
  List.all_eq_true.2 fun c hc => by
    rw [isPlain, Text.isDigit_of_mem_paddedDigits hc]
    rfl

theorem all_isPlain_yearText (year : Int) : (yearText year).all isPlain = true := by
  unfold yearText
  split
  · split
    · exact all_isPlain_paddedDigits _ _
    · rw [digits_eq_paddedDigits, List.all_cons, all_isPlain_paddedDigits]
      rfl
  · rw [List.all_cons, all_isPlain_paddedDigits]
    rfl

theorem all_isPlain_body (t : Timestamp) : t.body.all isPlain = true := by
  have hmark : isPlain '-' = true ∧ isPlain ' ' = true ∧ isPlain ':' = true ∧ isPlain '.' = true :=
    by decide
  obtain ⟨hdash, hblank, hcolon, hpoint⟩ := hmark
  have hfraction : (if t.nano = 0 then [] else
      '.' :: Text.paddedDigits 9 t.writtenNano).all isPlain = true := by
    split
    · rfl
    · rw [List.all_cons, hpoint, all_isPlain_paddedDigits]
      rfl
  unfold body dateText clockText
  simp only [List.all_append, List.all_cons, all_isPlain_yearText, all_isPlain_paddedDigits, hdash,
    hblank, hcolon, hfraction, Bool.and_self]

/-- **A literal of a timestamp is read back** as the fields `f`. -/
structure ReadsBack (t : Timestamp) (f : Fields) : Prop where
  /-- Between the quotes stands the body as it is: nothing in it is escaped. -/
  plain : (Value.timestamp t).literal = '\'' :: (t.body ++ ['\''])
  /-- The literal is one token. -/
  token : ∃ tok, (Sql.lexemes (Value.timestamp t).literal).map Sql.tokens = .ok [tok] ∧
    tok.kind = .string ∧ tok.start = 0 ∧ tok.text = (Value.timestamp t).literal
  /-- It stands for the body. -/
  decoded : Sql.StringLiteral.decode (Value.timestamp t).literal = t.body
  /-- The body has these fields. -/
  fields : Fields.ofBody? t.body = some f
  second : f.second ≤ 60
  /-- They are the fields of this timestamp. -/
  instant : f.instant? = some t

theorem readsBack (t : Timestamp) : t.ReadsBack t.fields := by
  have hplain : (Value.timestamp t).literal = '\'' :: (t.body ++ ['\'']) := by
    have hencode := Sql.encode_eq_self fun c hc =>
      ne_of_isPlain (List.all_eq_true.1 t.all_isPlain_body c hc)
    show Sql.StringLiteral.quote t.body = _
    rw [Sql.StringLiteral.quote, hencode]
    rfl
  refine ⟨hplain, ?_, Sql.StringLiteral.decode_quote t.body, t.ofBody?_body, t.inBounds.second,
    t.instant?_fields⟩
  obtain ⟨tok, htokens, hextent, htext, -⟩ := Sql.StringLiteral.lexemes_quote (String.ofList t.body)
  rw [String.toList_ofList] at htokens hextent htext
  exact ⟨tok, htokens, congrArg Sql.Extent.kind hextent, congrArg Sql.Extent.start hextent, htext⟩

/-- **Literals of timestamps lose nothing**: each is one plain string literal from which the
    timestamp can be read back, so two timestamps never have the same. -/
theorem timestamp_reads_back :
    (∀ t : Timestamp, ∃ f, t.ReadsBack f) ∧
      ∀ t u : Timestamp,
        (Value.timestamp t).sqlLiteral = (Value.timestamp u).sqlLiteral ↔ t = u := by
  refine ⟨fun t => ⟨t.fields, t.readsBack⟩, fun t u => ⟨fun h => ?_, fun h => by rw [h]⟩⟩
  have hliteral : (Value.timestamp t).literal = (Value.timestamp u).literal :=
    String.ofList_injective h
  have hbody : t.body = u.body := by
    rw [← t.readsBack.decoded, hliteral, u.readsBack.decoded]
  have hfields : some t.fields = some u.fields := by
    rw [← t.ofBody?_body, hbody, u.ofBody?_body]
  have hinstant : some t = some u := by
    rw [← t.instant?_fields, Option.some.inj hfields, u.instant?_fields]
  exact Option.some.inj hinstant

/-- A leap second without a fraction is written with one. -/
example : (ofFields? (-5) 12 31 23 59 59 1000000000).map body =
    some "-0005-12-31 23:59:60.000000000".toList := by decide +kernel

end Timestamp

end StatelessSession
