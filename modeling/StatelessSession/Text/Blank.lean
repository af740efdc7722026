/-!
# White space and trimming

`isBlank` is the Unicode property White_Space, the notion of an empty host name, an empty client
info value, and of the gap between the name and the type of a column. `trim` drops blanks from both
ends. The SQL lexer has a narrower notion of its own (`Sql.isSqlBlank`), which is not used here.
-/

namespace StatelessSession.Text

/-! ## 1. The property -/

/-- The characters with the Unicode property White_Space. -/
def isBlank (c : Char) : Bool :=
  let n := c.toNat
  (9 ≤ n && n ≤ 13) || n == 0x20 || n == 0x85 || n == 0xA0 || n == 0x1680 ||
    (0x2000 ≤ n && n ≤ 0x200A) || n == 0x2028 || n == 0x2029 || n == 0x202F || n == 0x205F ||
    n == 0x3000

/-- Whether a text is empty up to white space. -/
def isBlankText (s : String) : Bool := s.toList.all isBlank

/-! ## 2. Trimming -/

/-- A text without its leading blanks. -/
def trimStart (s : List Char) : List Char := s.dropWhile isBlank

/-- A text without its trailing blanks. -/
def trimEnd (s : List Char) : List Char := (s.reverse.dropWhile isBlank).reverse

/-- A text without the blanks at either end. -/
def trim (s : List Char) : List Char := trimEnd (trimStart s)

/-- `trim` on strings. -/
def trimmed (s : String) : String := String.ofList (trim s.toList)

@[simp] theorem trimStart_nil : trimStart [] = [] := rfl

@[simp] theorem trimEnd_nil : trimEnd [] = [] := rfl

@[simp] theorem trim_nil : trim [] = [] := rfl

@[simp] theorem trimStart_cons (c : Char) (s : List Char) :
    trimStart (c :: s) = if isBlank c then trimStart s else c :: s := by
  simp [trimStart, List.dropWhile_cons]

/-- What is left after dropping leading blanks is empty exactly for a blank text. -/
theorem trimStart_eq_nil_iff (s : List Char) : trimStart s = [] ↔ s.all isBlank = true := by
  induction s with
  | nil => simp
  | cons c s ih => by_cases h : isBlank c <;> simp [h, ih]

/-- The first character left after dropping leading blanks is no blank. -/
theorem not_isBlank_of_trimStart_eq_cons {s r : List Char} {c : Char}
    (h : trimStart s = c :: r) : isBlank c = false := by
  induction s with
  | nil => simp at h
  | cons d s ih =>
    by_cases hd : isBlank d = true
    · simp only [trimStart_cons, hd, if_true] at h
      exact ih h
    · simp only [trimStart_cons, hd, Bool.false_eq_true, if_false, List.cons.injEq] at h
      simpa [← h.1] using hd

/-- Nothing is left of a blank text. -/
theorem trimmed_of_isBlankText {s : String} (h : isBlankText s = true) : trimmed s = "" := by
  rw [trimmed, trim, (trimStart_eq_nil_iff _).2 h]
  rfl

/-- A blank at the front does not count. -/
theorem trim_cons_of_isBlank {c : Char} (h : isBlank c = true) (s : List Char) :
    trim (c :: s) = trim s := by
  simp [trim, h]

/-- **A text that neither begins nor ends with a blank is trimmed already.** -/
theorem trim_eq_self {s : List Char} (hfirst : ∀ c ∈ s.head?, isBlank c = false)
    (hlast : ∀ c ∈ s.getLast?, isBlank c = false) : trim s = s := by
  have hdrop : ∀ t : List Char, (∀ c ∈ t.head?, isBlank c = false) → t.dropWhile isBlank = t := by
    intro t ht
    cases t with
    | nil => rfl
    | cons c t => rw [List.dropWhile_cons, ht c rfl, if_neg Bool.false_ne_true]
  have hstart : trimStart s = s := hdrop s hfirst
  have hend : s.reverse.dropWhile isBlank = s.reverse := by
    refine hdrop _ fun c hc => hlast c ?_
    rw [List.head?_reverse] at hc
    exact hc
  rw [trim, hstart, trimEnd, hend, List.reverse_reverse]

/-- What is cut off at the end are blanks. -/
theorem exists_eq_trimEnd_append (s : List Char) :
    ∃ b, s = trimEnd s ++ b ∧ ∀ c ∈ b, isBlank c = true := by
  refine ⟨(s.reverse.takeWhile isBlank).reverse, ?_, fun c hc => ?_⟩
  · rw [trimEnd, ← List.reverse_append, List.takeWhile_append_dropWhile, List.reverse_reverse]
  · rw [List.mem_reverse] at hc
    exact List.all_eq_true.1 List.all_takeWhile c hc

/-- **What is cut off by trimming are blanks**, and what is left has none at its ends. -/
theorem exists_eq_append_trim (s : List Char) :
    ∃ a b, s = a ++ (trim s ++ b) ∧ (∀ c ∈ a, isBlank c = true) ∧ ∀ c ∈ b, isBlank c = true := by
  obtain ⟨b, hb, hblank⟩ := exists_eq_trimEnd_append (trimStart s)
  refine ⟨s.takeWhile isBlank, b, ?_, fun c hc => ?_, hblank⟩
  · have hstart : s.takeWhile isBlank ++ trimStart s = s := List.takeWhile_append_dropWhile
    rw [trim, ← hb, hstart]
  · exact List.all_eq_true.1 List.all_takeWhile c hc

theorem isBlank_head?_trim {s : List Char} {c : Char} (h : c ∈ (trim s).head?) :
    isBlank c = false := by
  obtain ⟨b, hb, -⟩ := exists_eq_trimEnd_append (trimStart s)
  have hc : (trimStart s).head? = some c := by
    rw [hb, List.head?_append, show (trimEnd (trimStart s)).head? = some c from h]
    rfl
  obtain ⟨r, hr⟩ := List.head?_eq_some_iff.1 hc
  exact not_isBlank_of_trimStart_eq_cons hr

theorem isBlank_getLast?_trim {s : List Char} {c : Char} (h : c ∈ (trim s).getLast?) :
    isBlank c = false := by
  rw [trim, trimEnd, List.getLast?_reverse] at h
  obtain ⟨r, hr⟩ := List.head?_eq_some_iff.1 (Option.mem_def.1 h)
  exact not_isBlank_of_trimStart_eq_cons hr

end StatelessSession.Text
