import Mathlib.Data.List.TakeWhile
import StatelessSession.Proofs.Sql.Names
import StatelessSession.Proofs.Sql.Slices

/-!
# Columns cut at bytes

A structure read with positions of bytes: the items are slices from one comma to the next, a name
and what follows it are slices around the byte that is found to end the name. No slice fails, and
the columns are those that are read character by character. Parentheses are counted on the way, and
there can be too many of them.

* `Place.IsFull`, `Place.Counts` -- the counter of parentheses; `counts_of_move` -- one step.
* `findAt?_eq` -- the byte that is found ends what is taken.
* `answers_itemsLoop`, `ofTrimmedAt?_eq`, `answers_ofStructureAt` -- items, one column, all columns.
* `ofStructure_ne_unclosedName` -- in an item a name that opens is closed, as the quotes of the
  structure were checked before.
-/

namespace StatelessSession.Sql.Column

variable {p : Char → Bool} {c q : Char} {s u m r item : List Char} {done : List (List Char)}
  {place next : Place} {idx start : Nat} {o : Overflow}

/-! ## 1. Items -/

/-- Whether the counter of parentheses would have to go past its last number, or before its
    first. -/
def Place.IsFull : Place → Char → Prop
  | .plain d, c => c = '(' ∧ d = Int32.maxValue ∨ c = ')' ∧ d = Int32.minValue
  | _, _ => False

instance (place : Place) (c : Char) : Decidable (place.IsFull c) := by
  unfold Place.IsFull
  cases place <;> infer_instance

/-- How many parentheses are open. -/
def Place.depth : Place → Int32
  | .plain d => d
  | .inQuotes d _ => d
  | .afterBackslash d _ => d

/-- **The counter of parentheses** is not below zero, and every parenthesis took a byte. -/
def Place.Counts (place : Place) (idx : Nat) : Prop :=
  0 ≤ place.depth ∧ place.depth.toNatClampNeg ≤ idx

/-- A step that leaves the depth. -/
theorem Place.Counts.of_eq (h : place.Counts idx) (hd : next.depth = place.depth) (n : Nat) :
    next.Counts (idx + n) := by
  rw [Place.Counts, hd]
  exact ⟨h.1, Nat.le_trans h.2 (Nat.le_add_right idx n)⟩

/-- **One step keeps count**, if it is not one that a full counter stops. -/
theorem counts_of_move (hm : place.move c = .go next) (hfull : ¬ place.IsFull c)
    (h : place.Counts idx) : next.Counts (idx + c.utf8Size) := by
  cases move_iff.1 hm with
  | openParen d =>
    have hne : d ≠ Int32.maxValue := fun e => hfull (.inl ⟨rfl, e⟩)
    have hlt : d.toNatClampNeg + 1 < 2 ^ 31 := by
      have hmax : d.toInt ≠ 2 ^ 31 - 1 := fun e => hne (Int32.toInt_inj.1 e)
      have hd := d.toInt_lt
      rw [← Int32.toNat_toInt]
      omega
    obtain ⟨hpos, hcount⟩ := toNatClampNeg_add_one h.1 hlt
    exact ⟨hpos, hcount ▸ Nat.succ_le_succ h.2⟩
  | closeParen hd =>
    obtain ⟨hpos, hcount⟩ := toNatClampNeg_sub_one h.1 hd
    refine ⟨hpos, Nat.le_trans ?_ (Nat.le_trans h.2 (Nat.le_add_right idx _))⟩
    exact (Nat.le_succ _).trans (Nat.le_of_eq hcount.symm)
  | shielded | backslash | endQuote | quoted | startQuote | plain => exact h.of_eq rfl _

/-- Goes through the characters `r` from byte `idx` on, in an item from byte `start` on, after the
    items `done`. -/
def itemsLoop (o : Overflow) (s : List Char) :
    Place → Nat → Nat → List (List Char) → List Char →
      Except Halt (Except Imbalance (List (List Char)))
  | place, _, start, done, [] =>
    if place = .plain 0 then do
      let last ← reach (slice? s start (byteSize s))
      return .ok (done ++ [last])
    else .ok (.error .unclosed)
  | place, idx, start, done, c :: r =>
    if o = .stops ∧ place.IsFull c then .error .overflow
    else match place.move c with
    | .go next => itemsLoop o s next (idx + c.utf8Size) start done r
    | .cut => do
      let item ← reach (slice? s start idx)
      itemsLoop o s (.plain 0) (idx + c.utf8Size) (idx + 1) (done ++ [item]) r
    | .refuse => .ok (.error .overclosed)

/-- The items of a structure, cut at the bytes of the commas. -/
def itemsAt (o : Overflow) (s : List Char) : Except Halt (Except Imbalance (List (List Char))) :=
  itemsLoop o s (.plain 0) 0 0 [] s

/-- **A counter that is full before a character** has counted 2 GiB of the text. -/
theorem le_byteSize_of_isFull (hs : s = u ++ (m ++ c :: r)) (hstart : start = byteSize u)
    (hidx : idx = start + byteSize m) (h : place.Counts idx) (hfull : place.IsFull c) :
    2 ^ 31 ≤ byteSize s := by
  have hleft : idx + 1 ≤ byteSize s := by
    have hpos := c.utf8Size_pos
    rw [hs, byteSize_append, byteSize_append, byteSize_cons, hidx, hstart]
    omega
  cases place with
  | plain d =>
    rcases hfull with ⟨-, rfl⟩ | ⟨-, rfl⟩
    · exact Nat.le_trans (Nat.succ_le_succ h.2) hleft
    · exact absurd h.1 (by decide)
  | inQuotes d q => cases hfull
  | afterBackslash d q => cases hfull

/-- **The loop cuts what the splitter cuts.** Before the item that it stands in is `u`, of that item
    it has passed `m`. -/
theorem answers_itemsLoop (u m : List Char) (hs : s = u ++ (m ++ r)) (hstart : start = byteSize u)
    (hidx : idx = start + byteSize m) (hcount : o = .stops → place.Counts idx) :
    Answers o (byteSize s) (itemsLoop o s place idx start done r)
      ((itemsFrom place r).map fun p => done ++ (m ++ p.1) :: p.2) := by
  fun_induction itemsFrom place r generalizing u m start idx done with
  | case1 =>
    subst hs hstart
    rw [itemsLoop, if_pos rfl, List.append_nil, slice?_append_end, reach_some]
    simp [Except.map, Answers, bind, Except.bind, pure, Except.pure]
  | case2 place hne =>
    rw [itemsLoop, if_neg hne]
    exact .ok _
  | case3 place c r next hm ih =>
    have hwhole :
        ((itemsFrom next r).map (prependChar c)).map (fun p => done ++ (m ++ p.1) :: p.2) =
          (itemsFrom next r).map fun p => done ++ (m ++ [c] ++ p.1) :: p.2 := by
      cases itemsFrom next r with
      | error e => rfl
      | ok p => simp [Except.map, prependChar]
    rw [itemsLoop, hm, hwhole]
    refine .guard (fun hstops => le_byteSize_of_isFull hs hstart hidx (hcount hstops)) fun hgo => ?_
    exact ih u (m ++ [c]) (by simp [hs]) hstart (by simp [hidx, Nat.add_assoc])
      fun hstops => counts_of_move hm (fun hfull => hgo ⟨hstops, hfull⟩) (hcount hstops)
  | case4 place c r hm ih =>
    obtain ⟨rfl, rfl⟩ := eq_of_move_cut hm
    have hitem := slice?_append u m (',' :: r)
    rw [← hs, ← hstart, ← hidx] at hitem
    have hcomma : idx + 1 = byteSize (u ++ (m ++ [','])) := by
      simp only [byteSize_append, hidx, hstart, Nat.add_assoc]
      rfl
    have hwhole :
        ((itemsFrom (.plain 0) r).map cutBefore).map (fun p => done ++ (m ++ p.1) :: p.2) =
          (itemsFrom (.plain 0) r).map fun p => (done ++ [m]) ++ ([] ++ p.1) :: p.2 := by
      cases itemsFrom (.plain 0) r with
      | error e => rfl
      | ok p => simp [Except.map, cutBefore]
    rw [itemsLoop, hm, hwhole]
    refine .guard (fun hstops => le_byteSize_of_isFull hs hstart hidx (hcount hstops)) fun _ => ?_
    refine .bind_ok (congrArg reach hitem) ?_
    exact ih (u ++ (m ++ [','])) [] (by simp [hs]) hcomma rfl
      fun hstops => (hcount hstops).of_eq rfl 1
  | case5 place c r hm =>
    rw [itemsLoop, hm]
    exact .guard (fun hstops => le_byteSize_of_isFull hs hstart hidx (hcount hstops)) fun _ => .ok _

theorem answers_itemsAt (o : Overflow) (s : List Char) :
    Answers o (byteSize s) (itemsAt o s) (items s) :=
  answers_itemsLoop [] [] rfl rfl rfl fun _ => ⟨Int32.le_refl 0, Nat.zero_le 0⟩

/-! ## 2. One column -/

/-- The byte at which the first such character stands. -/
def findAt? (p : Char → Bool) : List Char → Option Nat
  | [] => none
  | c :: s => if p c then some 0 else (findAt? p s).map (c.utf8Size + ·)

/-- **The byte that is found** is the end of all characters that are not such ones. -/
theorem findAt?_eq (p : Char → Bool) (s : List Char) :
    findAt? p s =
      if (s.dropWhile (!p ·)).isEmpty then none else some (byteSize (s.takeWhile (!p ·))) := by
  induction s with
  | nil => rfl
  | cons c s ih =>
    by_cases hc : p c = true
    · simp [findAt?, hc]
    · have hc' : p c = false := Bool.eq_false_iff.2 hc
      rw [findAt?, if_neg hc, ih, List.dropWhile_cons_of_pos (by simp [hc']),
        List.takeWhile_cons_of_pos (by simp [hc'])]
      split <;> rfl

/-- A column from an item without blanks at its ends, cut at the byte that ends the name. -/
def ofTrimmedAt? (item : List Char) : Option (Except ColumnFault Column) :=
  match item with
  | [] => some (.error .emptyColumn)
  | q :: _ =>
    if q = '\x60' ∨ q = '"' then do
      let body ← slice? item 1 (byteSize item)
      match findAt? (· == q) body with
      | none => return .error (.unclosedName (String.ofList item))
      | some close =>
        let name ← slice? body 0 close
        let rest ← slice? body (close + 1) (byteSize body)
        return ofParts item name rest
    else do
      let stop := (findAt? Text.isBlank item).getD (byteSize item)
      let name ← slice? item 0 stop
      let rest ← slice? item stop (byteSize item)
      return ofParts item name rest

/-- A quoted name is cut where its closing quote is found. -/
theorem ofTrimmedAt?_quoted (hq : q = '\x60' ∨ q = '"') (r : List Char) :
    ofTrimmedAt? (q :: r) = some (ofTrimmed (q :: r)) := by
  have hone : q.utf8Size = 1 := by rcases hq with rfl | rfl <;> rfl
  have hbody : slice? (q :: r) 1 (byteSize (q :: r)) = some r := by
    have h := slice?_append_end [q] r
    rwa [byteSize_cons, hone] at h
  have hfind : findAt? (· == q) r = if (r.dropWhile (· != q)).isEmpty then none
      else some (byteSize (r.takeWhile (· != q))) := findAt?_eq (· == q) r
  rw [ofTrimmedAt?, if_pos hq, hbody, ofTrimmed, if_pos hq]
  simp only [Option.bind_eq_bind, Option.bind_some, Option.pure_def, hfind]
  cases hd : r.dropWhile (· != q) with
  | nil => rfl
  | cons x rest =>
    obtain ⟨hr, -⟩ := split_at_quote hd
    generalize r.takeWhile (· != q) = name at hr
    subst hr
    have hname := slice?_zero name (q :: rest)
    have hrest := slice?_append_end (name ++ [q]) rest
    rw [byteSize_append, byteSize_cons, byteSize_nil, hone, List.append_assoc,
      List.singleton_append] at hrest
    simp only [List.isEmpty_cons, Bool.false_eq_true, if_false, hname, hrest, Option.bind_some]

/-- A bare name is cut at the first blank, or at the end. -/
theorem ofTrimmedAt?_bare (hq : ¬ (q = '\x60' ∨ q = '"')) (r : List Char) :
    ofTrimmedAt? (q :: r) = some (ofTrimmed (q :: r)) := by
  rw [ofTrimmedAt?, if_neg hq, ofTrimmed, if_neg hq]
  generalize q :: r = item
  have hsplit := List.takeWhile_append_dropWhile (p := (!Text.isBlank ·)) (l := item)
  have hstop : (findAt? Text.isBlank item).getD (byteSize item) =
      byteSize (item.takeWhile (!Text.isBlank ·)) := by
    rw [findAt?_eq]
    split
    · rename_i hd
      rw [List.isEmpty_iff.1 hd, List.append_nil] at hsplit
      rw [Option.getD_none, hsplit]
    · rfl
  have hname := slice?_zero (item.takeWhile (!Text.isBlank ·)) (item.dropWhile (!Text.isBlank ·))
  have hrest := slice?_append_end (item.takeWhile (!Text.isBlank ·))
    (item.dropWhile (!Text.isBlank ·))
  rw [hsplit] at hname hrest
  simp only [hstop, hname, hrest, Option.bind_eq_bind, Option.bind_some, Option.pure_def]

theorem ofTrimmedAt?_eq (item : List Char) : ofTrimmedAt? item = some (ofTrimmed item) := by
  cases item with
  | nil => rfl
  | cons q r =>
    by_cases hq : q = '\x60' ∨ q = '"'
    · exact ofTrimmedAt?_quoted hq r
    · exact ofTrimmedAt?_bare hq r

/-! ## 3. All columns -/

/-- The columns of all items, or the first fault. -/
def ofItemsAt? : List (List Char) → Option (Except ColumnFault (List Column))
  | [] => some (.ok [])
  | item :: r => do
    match ← ofTrimmedAt? (Text.trim item) with
    | .error f => return .error f
    | .ok c =>
      let cs ← ofItemsAt? r
      return cs.map (c :: ·)

/-- The columns that a structure declares, cut at bytes. -/
def ofStructureAt (o : Overflow) (s : List Char) :
    Except Halt (Except ColumnFault (List Column)) := do
  match ← itemsAt o s with
  | .error .overclosed => return .error (.overclosed (String.ofList s))
  | .error .unclosed => return .error (.unclosed (String.ofList s))
  | .ok items =>
    if items.all (·.all Text.isBlank) then return .error .noColumns else reach (ofItemsAt? items)

theorem ofItemsAt?_eq (xs : List (List Char)) : ofItemsAt? xs = some (ofItems xs) := by
  induction xs with
  | nil => rfl
  | cons item xs ih =>
    rw [ofItemsAt?, ofTrimmedAt?_eq, ih, ofItems, ofItem]
    cases ofTrimmed (Text.trim item) <;> rfl

/-- **A structure that is cut at bytes** declares what it declares, and no slice fails. -/
theorem answers_ofStructureAt (o : Overflow) (s : List Char) :
    Answers o (byteSize s) (ofStructureAt o s) (ofStructure s) := by
  refine .bind (answers_itemsAt o s) (.inl ?_)
  rw [ofStructure]
  cases items s with
  | error e => cases e <;> rfl
  | ok xs =>
    show (if xs.all (·.all Text.isBlank) then .ok (.error .noColumns) else reach (ofItemsAt? xs)) =
      .ok (if xs.all (·.all Text.isBlank) then .error .noColumns else ofItems xs)
    rw [ofItemsAt?_eq]
    split <;> rfl

/-! ## 4. Names are closed -/

theorem ofParts_ne_unclosedName (text name rest : List Char) (t : String) :
    ofParts text name rest ≠ .error (.unclosedName t) := by
  rw [ofParts]
  split <;> exact fun e => by cases e

/-- In an item that the splitter passes the quote that opens a name is closed. -/
theorem ofTrimmed_ne_unclosedName (h : Passed item) (t : String) :
    ofTrimmed item ≠ .error (.unclosedName t) := by
  cases item with
  | nil => exact fun e => by cases e
  | cons q r =>
    rw [ofTrimmed]
    split
    · rename_i hq
      split
      · -- without its quote the reader is still inside the name at the end of the item
        rename_i hd
        have hopen := move_iff.2 (.startQuote 0 (isQuote_of_name hq))
        have hno : q ∉ r := fun hmem => by
          have hall := List.dropWhile_eq_nil_iff.1 hd q hmem
          rw [bne_self_eq_false] at hall
          cases hall
        rw [Passed, Place.through_go hopen] at h
        rcases through_inside hno (.inl rfl) with e | e
        · rw [h] at e
          cases e
        · rw [h] at e
          cases e
      · exact ofParts_ne_unclosedName _ _ _ t
    · exact ofParts_ne_unclosedName _ _ _ t

theorem ofItems_ne_unclosedName {xs : List (List Char)} (h : ∀ x ∈ xs, Passed x)
    (t : String) : ofItems xs ≠ .error (.unclosedName t) := by
  induction xs with
  | nil => exact fun e => by cases e
  | cons x xs ih =>
    obtain ⟨hx, hxs⟩ := List.forall_mem_cons.1 h
    have hitem := ofTrimmed_ne_unclosedName (through_trim hx) t
    rw [ofItems, ofItem]
    split
    · rename_i f hf
      rw [hf] at hitem
      exact fun e => hitem (congrArg _ (Except.error.inj e))
    · exact fun e => ih hxs (map_eq_error_iff.1 e)

/-- **A structure never has a name that is not closed**: such a quote is a fault of the structure
    before its items are read. -/
theorem ofStructure_ne_unclosedName (s : List Char) (t : String) :
    ofStructure s ≠ .error (.unclosedName t) := by
  rw [ofStructure]
  split
  · exact fun e => by cases e
  · exact fun e => by cases e
  · rename_i xs hxs
    split
    · exact fun e => by cases e
    · exact ofItems_ne_unclosedName (items_eq_ok_iff.1 hxs).2.1 t

end StatelessSession.Sql.Column
