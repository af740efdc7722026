import StatelessSession.Proofs.Transaction.Snapshot

/-!
# Markers are as good as copies

A manager stores a length with each savepoint and cuts the window to the length in the caller's
handle. The reference (`Snapshot`) stores the whole window and puts it back. On every run of
commands the two answer alike and show the same windows and the same stacks.

* `Snapshot.Transaction.Faithful` -- the invariant of the copies: each is the start of the window
  that its marker measures, and they grow along the stack. So putting a copy back is cutting.
* `Snapshot.Transaction.shown_returnTo?` -- going back agrees where handles agree with the stack.
* `Snapshot.Agree` -- one operation answers alike, shows the same and keeps copies faithful.
* `run_eq_snapshot_run` -- the agreement of whole runs.
-/

namespace StatelessSession.Snapshot

/-! ## 1. Transactions -/

namespace Transaction

/-- **Each copy is the start of the window that its marker measures, and copies grow along the
    stack.** -/
structure Faithful (t : Transaction) : Prop where
  copies : ∀ m ∈ t.marks, m.copy <+: t.queries ∧ m.copy.length = m.savepoint.marker
  grow : t.marks.Pairwise fun m n => m.copy <+: n.copy

theorem faithful_empty : empty.Faithful where
  copies m h := by cases h
  grow := .nil

/-- What follows the window leaves its starts alone. -/
theorem Faithful.addQuery {t : Transaction} (h : t.Faithful) (q : QueryId) :
    (t.addQuery q).Faithful where
  copies m hm := by
    obtain ⟨hp, hl⟩ := h.copies m hm
    exact ⟨hp.trans (List.prefix_append _ _), hl⟩
  grow := h.grow

/-- A new copy is the whole window, which all older copies start. -/
theorem Faithful.addSavepoint {t : Transaction} (h : t.Faithful) {s : Savepoint}
    (hs : s.marker = t.queries.length) : (t.addSavepoint s).Faithful where
  copies m hm := by
    rcases List.mem_append.1 hm with hm | hm
    · exact h.copies m hm
    · rw [List.mem_singleton.1 hm]
      exact ⟨List.prefix_rfl, hs.symm⟩
  grow := by
    refine List.pairwise_append.2 ⟨h.grow, List.pairwise_singleton _ _, fun m hm n hn => ?_⟩
    rw [List.mem_singleton.1 hn]
    exact (h.copies m hm).1

/-- A savepoint that is found splits the stack, and it is not below. -/
theorem find?_eq_some {s : Savepoint} {ms below : List Mark} {m : Mark}
    (h : find? s ms = some (below, m)) :
    m.savepoint = s ∧ (∀ n ∈ below, n.savepoint ≠ s) ∧ ∃ above, ms = below ++ m :: above := by
  induction ms generalizing below with
  | nil => cases h
  | cons n ms ih =>
    unfold find? at h
    split at h
    · rename_i hn
      cases h
      exact ⟨hn, fun k hk => (by cases hk), ms, rfl⟩
    · rename_i hn
      obtain ⟨⟨below', m'⟩, hp, he⟩ := Option.map_eq_some_iff.1 h
      cases he
      obtain ⟨hs, hb, above, rfl⟩ := ih hp
      refine ⟨hs, fun k hk => ?_, above, rfl⟩
      rcases List.mem_cons.1 hk with rfl | hk
      · exact hn
      · exact hb k hk

theorem find?_eq_none {s : Savepoint} {ms : List Mark} (h : find? s ms = none) :
    ∀ m ∈ ms, m.savepoint ≠ s := by
  induction ms with
  | nil =>
    intro m hm
    cases hm
  | cons n ms ih =>
    unfold find? at h
    split at h
    · cases h
    · rename_i hn
      intro m hm
      rcases List.mem_cons.1 hm with rfl | hm
      · exact hn
      · exact ih (Option.map_eq_none_iff.1 h) m hm

/-- Where a handle and a stack entry of the same number are the same savepoint, the place of the
    number is the place of the savepoint. -/
theorem position?_of_find? {t : Transaction} {s : Savepoint} {below : List Mark} {m : Mark}
    (hs : ∀ n ∈ t.marks, n.savepoint.id = s.id → n.savepoint = s)
    (h : find? s t.marks = some (below, m)) : t.shown.position? s.id = some below.length := by
  obtain ⟨rfl, hb, above, hm⟩ := find?_eq_some h
  have hnone : (below.map Mark.savepoint).findIdx? (·.id == m.savepoint.id) = none := by
    refine List.findIdx?_eq_none_iff.2 fun n hn => ?_
    obtain ⟨k, hk, rfl⟩ := List.mem_map.1 hn
    have hk' : k ∈ t.marks := by
      rw [hm]
      exact List.mem_append_left _ hk
    have hid : k.savepoint.id ≠ m.savepoint.id := fun e => hb k hk (hs k hk' e)
    simpa using hid
  show (t.marks.map Mark.savepoint).findIdx? _ = _
  rw [hm, List.map_append, List.findIdx?_append, hnone, List.map_cons, List.findIdx?_cons]
  simp

/-- **Going back agrees where handles agree with the stack.** -/
theorem shown_returnTo? {t : Transaction} (ht : t.Faithful)
    (how : StatelessSession.Transaction.Return) {s : Savepoint}
    (hs : ∀ n ∈ t.marks, n.savepoint.id = s.id → n.savepoint = s) :
    t.shown.returnTo? how s = (t.returnTo? how s).map shown := by
  unfold StatelessSession.Transaction.returnTo? returnTo?
  cases h : find? s t.marks with
  | none =>
    have hnone : t.shown.position? s.id = none := by
      refine List.findIdx?_eq_none_iff.2 fun n hn => ?_
      obtain ⟨k, hk, rfl⟩ := List.mem_map.1 hn
      have hid : k.savepoint.id ≠ s.id := fun e => find?_eq_none h k hk (hs k hk e)
      simpa using hid
    rw [hnone]
    rfl
  | some p =>
    obtain ⟨below, m⟩ := p
    rw [position?_of_find? hs h]
    obtain ⟨rfl, -, above, hm⟩ := find?_eq_some h
    have hm' : m ∈ t.marks := by
      rw [hm]
      exact List.mem_append_right _ List.mem_cons_self
    obtain ⟨hp, hl⟩ := ht.copies m hm'
    have hq : t.queries.take m.savepoint.marker = m.copy := by
      rw [← hl]
      exact (List.prefix_iff_eq_take.1 hp).symm
    have hbelow : ∀ k, below.length ≤ k →
        (below.map Mark.savepoint).take k = below.map Mark.savepoint := fun k hk =>
      List.take_of_length_le (by simpa using hk)
    cases how with
    | rollback =>
      simp [shown, hq, hm, hbelow _ (Nat.le_succ _), StatelessSession.Transaction.Return.kept,
        List.take_append]
    | release =>
      simp [shown, hq, hm, hbelow _ (Nat.le_refl _), StatelessSession.Transaction.Return.kept,
        List.take_append]

/-- Going back keeps copies faithful: what stays on the stack was set before. -/
theorem Faithful.returnTo? {t t' : Transaction} (h : t.Faithful)
    {how : StatelessSession.Transaction.Return} {s : Savepoint}
    (hr : t.returnTo? how s = some t') : t'.Faithful := by
  obtain ⟨⟨below, m⟩, hf, rfl⟩ := Option.map_eq_some_iff.1 hr
  obtain ⟨-, -, above, hm⟩ := find?_eq_some hf
  have hg := h.grow
  rw [hm, List.pairwise_append] at hg
  obtain ⟨hbelow, -, hcross⟩ := hg
  have hm' : m ∈ t.marks := by
    rw [hm]
    exact List.mem_append_right _ List.mem_cons_self
  have hcopies : ∀ n ∈ below, n.copy <+: m.copy ∧ n.copy.length = n.savepoint.marker := by
    intro n hn
    have hn' : n ∈ t.marks := by
      rw [hm]
      exact List.mem_append_left _ hn
    exact ⟨hcross n hn m List.mem_cons_self, (h.copies n hn').2⟩
  cases how with
  | release => exact ⟨hcopies, hbelow⟩
  | rollback =>
    refine ⟨fun n hn => ?_, ?_⟩
    · rcases List.mem_append.1 hn with hn | hn
      · exact hcopies n hn
      · rw [List.mem_singleton.1 hn]
        exact ⟨List.prefix_rfl, (h.copies m hm').2⟩
    · refine List.pairwise_append.2 ⟨hbelow, List.pairwise_singleton _ _, fun n hn k hk => ?_⟩
      rw [List.mem_singleton.1 hk]
      exact (hcopies n hn).1

end Transaction

/-! ## 2. Ledgers -/

namespace Ledger

/-- What is changed at a place does not depend on what follows. -/
theorem modify_append {α : Type} {f : α → α} {ts us : List α} {n : Nat} (h : n < ts.length) :
    (ts ++ us).modify n f = ts.modify n f ++ us := by
  induction ts generalizing n with
  | nil => cases h
  | cons t ts ih =>
    cases n with
    | zero => simp
    | succ n => simp [ih (Nat.lt_of_succ_lt_succ h)]

/-- The copies of every transaction are faithful. -/
def Faithful (l : Ledger) : Prop := ∀ id, (l.transaction id).Faithful

theorem shown_transaction (l : Ledger) (id : TransactionId) :
    l.shown.transaction id = (l.transaction id).shown := by
  show ((l.transactions.map Transaction.shown)[id.number]?).getD _ = _
  rw [List.getElem?_map]
  unfold transaction
  cases l.transactions[id.number]? <;> rfl

theorem shown_modify {l : Ledger} {id : TransactionId} {f : Transaction → Transaction}
    {g : StatelessSession.Transaction → StatelessSession.Transaction}
    (h : (f (l.transaction id)).shown = g (l.transaction id).shown) :
    (l.modify id f).shown = l.shown.modify id g := by
  have hts : (l.transactions.modify id.number f).map Transaction.shown =
      (l.transactions.map Transaction.shown).modify id.number g := by
    refine List.ext_getElem? fun n => ?_
    rw [List.getElem?_map, List.getElem?_modify, List.getElem?_modify, List.getElem?_map]
    cases hn : l.transactions[n]? with
    | none => rfl
    | some t =>
      by_cases hid : id.number = n
      · have ht : l.transaction id = t := by simp [transaction, hid, hn]
        rw [ht] at h
        simp [hid, h]
      · simp [hid]
  exact congrArg (fun ts => (⟨ts, l.nextQuery, l.nextOwner⟩ : StatelessSession.Ledger)) hts

theorem shown_beginTransaction (l : Ledger) :
    l.beginTransaction.2.shown = l.shown.beginTransaction.2 := by
  simp [beginTransaction, shown, StatelessSession.Ledger.beginTransaction, Transaction.shown,
    Transaction.empty, StatelessSession.Transaction.empty]

theorem fst_beginTransaction (l : Ledger) :
    l.beginTransaction.1 = l.shown.beginTransaction.1 := by
  simp [beginTransaction, shown, StatelessSession.Ledger.beginTransaction]

/-- A change of one transaction keeps the copies of all faithful if it keeps those of that one. -/
theorem Faithful.modify {l : Ledger} (h : l.Faithful) {id : TransactionId}
    {f : Transaction → Transaction} (hf : (f (l.transaction id)).Faithful) :
    (l.modify id f).Faithful := by
  intro id'
  show (((l.transactions.modify id.number f)[id'.number]?).getD _).Faithful
  rw [List.getElem?_modify]
  by_cases hid : id.number = id'.number
  · cases hn : l.transactions[id'.number]? with
    | none => simpa [hid] using Transaction.faithful_empty
    | some t =>
      have ht : l.transaction id = t := by simp [transaction, hid, hn]
      simpa [hid, ht] using hf
  · simpa [hid, transaction] using h id'

theorem Faithful.beginTransaction {l : Ledger} (h : l.Faithful) :
    l.beginTransaction.2.Faithful := by
  intro id
  show (((l.transactions ++ [Transaction.empty])[id.number]?).getD _).Faithful
  rw [List.getElem?_append]
  split
  · exact h id
  · cases id.number - l.transactions.length with
    | zero => exact Transaction.faithful_empty
    | succ n => exact Transaction.faithful_empty

theorem shown_issueIn (l : Ledger) (id : TransactionId) :
    l.shown.issueIn id = ((l.issueIn id).1, (l.issueIn id).2.shown) := by
  have h : (l.issue.2.modify id (·.addQuery l.issue.1)).shown =
      l.issue.2.shown.modify id (·.addQuery l.issue.1) := shown_modify rfl
  show (_, _) = (_, (l.issue.2.modify id (·.addQuery l.issue.1)).shown)
  rw [h]
  rfl

theorem Faithful.issueIn {l : Ledger} (h : l.Faithful) (id : TransactionId) :
    (l.issueIn id).2.Faithful :=
  Faithful.modify (l := l.issue.2) h ((h id).addQuery _)

end Ledger

/-! ## 3. Operations -/

/-- **An operation answers alike, shows the same and keeps copies faithful.** -/
structure Agree {α : Type} (o : Outcome StatelessSession.Books α)
    (p : Except SessionError α × Books) : Prop where
  answer : o.answer = p.1
  state : o.state = p.2.shown
  faithful : p.2.ledger.Faithful

theorem Agree.ite {α : Type} {c : Prop} [Decidable c] {o o' : Outcome StatelessSession.Books α}
    {p p' : Except SessionError α × Books} (h : c → Agree o p) (h' : ¬ c → Agree o' p') :
    Agree (if c then o else o') (if c then p else p') := by
  by_cases hc : c
  · rw [if_pos hc, if_pos hc]
    exact h hc
  · rw [if_neg hc, if_neg hc]
    exact h' hc

namespace Books

variable {b : Books}

/-- An operation that changes nothing. -/
theorem agree_unchanged {α : Type} (h : b.ledger.Faithful) (answer : Except SessionError α) :
    Agree (b.shown.unchanged answer) (answer, b) := ⟨rfl, rfl, h⟩

/-- The manager keeps no copies. -/
theorem shown_manager (b : Books) : b.shown.manager = b.manager := rfl

theorem shown_install (b : Books) : b.install.shown = b.shown.install := by
  show (⟨b.ledger.beginTransaction.2.shown,
    { b.manager with slot := some b.ledger.beginTransaction.1 }⟩ : StatelessSession.Books) = _
  rw [Ledger.shown_beginTransaction, Ledger.fst_beginTransaction]
  rfl

theorem shown_discard (b : Books) : b.discard.shown = b.shown.discard.state := by
  unfold discard StatelessSession.Books.discard
  rw [shown_manager]
  cases b.manager.slot with
  | none => rfl
  | some id =>
    show (⟨(b.ledger.modify id _).shown, _⟩ : StatelessSession.Books) = _
    rw [Ledger.shown_modify (g := fun _ => .empty) rfl]
    rfl

theorem faithful_install (h : b.ledger.Faithful) : b.install.ledger.Faithful := h.beginTransaction

theorem faithful_discard (h : b.ledger.Faithful) : b.discard.ledger.Faithful := by
  unfold discard
  split
  · exact h
  · exact h.modify Transaction.faithful_empty

theorem agree_discard (h : b.ledger.Faithful) : Agree b.shown.discard (.ok (), b.discard) := by
  refine ⟨?_, (shown_discard b).symm, faithful_discard h⟩
  unfold StatelessSession.Books.discard
  split <;> rfl

theorem agree_setAutocommit (h : b.ledger.Faithful) (enable : Bool) :
    Agree (b.shown.setAutocommit enable) (b.setAutocommit enable) := by
  refine .ite (fun _ => agree_unchanged h _) fun _ => ?_
  refine .ite (fun _ => agree_unchanged h _) fun _ => ?_
  refine .ite (fun _ => ?_) fun _ => ?_
  · exact ⟨rfl, (shown_discard { b with manager := { b.manager with autocommit := enable } }).symm,
      faithful_discard h⟩
  · refine .ite (fun _ => ?_) fun _ => ⟨rfl, rfl, h⟩
    exact ⟨rfl, (shown_install { b with manager := { b.manager with autocommit := enable } }).symm,
      faithful_install h⟩

/-- Emptying the old transaction and beginning the new one can be done in either order. -/
theorem shown_install_discard {id : TransactionId} (hs : b.manager.slot = some id)
    (hid : b.shown.ledger.Has id) : b.discard.install.shown = b.shown.install.clear id := by
  rw [shown_install, shown_discard]
  have hd : b.shown.discard.state = b.shown.vacate.clear id := by
    unfold StatelessSession.Books.discard
    split
    · rename_i hn
      cases hs.symm.trans hn
    · rename_i id' hs'
      cases hs.symm.trans hs'
      rfl
  rw [hd]
  show (⟨⟨b.shown.ledger.transactions.modify id.number _ ++ [_], _, _⟩,
      { b.manager with slot := some ⟨(b.shown.ledger.transactions.modify id.number _).length⟩ }⟩ :
      StatelessSession.Books) =
    ⟨⟨(b.shown.ledger.transactions ++ [_]).modify id.number _, _, _⟩,
      { b.manager with slot := some ⟨b.shown.ledger.transactions.length⟩ }⟩
  rw [List.length_modify, Ledger.modify_append hid]
  rfl

theorem agree_finish (h : b.ledger.Faithful)
    (hid : ∀ id, b.manager.slot = some id → b.shown.ledger.Has id) (ending : Ending) :
    Agree (b.shown.finish ending) (b.finish ending) := by
  refine .ite (fun _ => agree_unchanged h _) fun _ => ?_
  refine .ite (fun _ => agree_unchanged h _) fun _ => ?_
  rw [shown_manager]
  cases hs : b.manager.slot with
  | none => exact ⟨rfl, (shown_install b).symm, faithful_install h⟩
  | some id =>
    exact ⟨rfl, (shown_install_discard hs (hid id hs)).symm, faithful_install (faithful_discard h)⟩

theorem shown_current (b : Books) :
    b.shown.current = (b.current.1, b.current.2.shown) := by
  unfold current StatelessSession.Books.current
  rw [shown_manager]
  cases b.manager.slot with
  | some id => rfl
  | none =>
    show (_, b.shown.install) = (_, b.install.shown)
    rw [shown_install, Ledger.fst_beginTransaction]
    rfl

theorem faithful_current (h : b.ledger.Faithful) : b.current.2.ledger.Faithful := by
  unfold current
  split
  · exact h
  · exact faithful_install h

/-- The savepoint that marks the end of a window is put on both stacks. -/
theorem agree_mark (h : b.ledger.Faithful) (id : TransactionId) (s : Savepoint) (next : Nat)
    (events : List Event) (hs : s.marker = (b.ledger.transaction id).queries.length) :
    Agree
      ⟨.ok s, ⟨b.shown.ledger.modify id (·.addSavepoint s),
        { b.manager with nextSavepoint := next }⟩, events⟩
      (.ok s, ⟨b.ledger.modify id (·.addSavepoint s),
        { b.manager with nextSavepoint := next }⟩) := by
  refine ⟨rfl, ?_, h.modify ((h id).addSavepoint hs)⟩
  show (⟨b.ledger.shown.modify id _, _⟩ : StatelessSession.Books) =
    ⟨(b.ledger.modify id _).shown, _⟩
  rw [Ledger.shown_modify (g := (·.addSavepoint s))]
  simp [Transaction.addSavepoint, Transaction.shown, StatelessSession.Transaction.addSavepoint]

theorem agree_setSavepoint (h : b.ledger.Faithful) (name : Option String) :
    Agree (b.shown.setSavepoint name) (b.setSavepoint name) := by
  refine .ite (fun _ => agree_unchanged h _) fun _ => ?_
  refine .ite (fun _ => agree_unchanged h _) fun _ => ?_
  rw [shown_current]
  have hm : (b.current.2.shown.ledger.transaction b.current.1).mark b.current.2.manager.owner
      b.current.2.manager.nextSavepoint name =
      ⟨b.current.2.manager.owner, b.current.2.manager.nextSavepoint, name,
        (b.current.2.ledger.transaction b.current.1).queries.length⟩ := by
    show (b.current.2.ledger.shown.transaction b.current.1).mark _ _ _ = _
    rw [Ledger.shown_transaction]
    rfl
  dsimp only [shown] at hm ⊢
  rw [hm]
  exact agree_mark (faithful_current h) b.current.1 _ _ _ rfl

/-- **Going back agrees if the handle and the stack entries of its number are the same.** -/
theorem agree_returnTo (h : b.ledger.Faithful) (how : StatelessSession.Transaction.Return)
    {s : Savepoint}
    (hs : ∀ id, b.manager.slot = some id → s.owner = b.manager.owner →
      ∀ m ∈ (b.ledger.transaction id).marks, m.savepoint.id = s.id → m.savepoint = s) :
    Agree (b.shown.returnTo how s) (b.returnTo how s) := by
  unfold StatelessSession.Books.returnTo StatelessSession.Books.target returnTo
  cases ha : b.manager.autocommit with
  | true =>
    simp only [shown, ha, if_true]
    exact agree_unchanged h _
  | false =>
  cases hc : b.manager.compliant with
  | false =>
    simp only [shown, ha, hc, Bool.not_false, Bool.false_eq_true, if_true, if_false]
    exact agree_unchanged h _
  | true =>
  by_cases ho : s.owner = b.manager.owner
  · cases hslot : b.manager.slot with
    | none =>
      simp only [shown, ha, hc, ho, hslot, Bool.not_true, Bool.false_eq_true, ne_eq,
        not_true_eq_false, if_false]
      exact agree_unchanged h _
    | some id =>
      simp only [shown, ha, hc, ho, hslot, Bool.not_true, Bool.false_eq_true, ne_eq,
        not_true_eq_false, if_false]
      rw [Ledger.shown_transaction, Transaction.shown_returnTo? (h id) how (hs id hslot ho)]
      cases hr : (b.ledger.transaction id).returnTo? how s with
      | none => exact ⟨rfl, rfl, h⟩
      | some t =>
        refine ⟨rfl, ?_, h.modify ((h id).returnTo? hr)⟩
        show (⟨b.ledger.shown.modify id _, _⟩ : StatelessSession.Books) =
          ⟨(b.ledger.modify id _).shown, _⟩
        rw [Ledger.shown_modify (g := fun _ => t.shown) rfl]
  · simp only [shown, ha, hc, ho, Bool.not_true, Bool.false_eq_true, ne_eq, not_false_eq_true,
      if_true, if_false]
    exact agree_unchanged h _

theorem agree_newQueryId (h : b.ledger.Faithful) :
    b.shown.newQueryId = (b.newQueryId.1, b.newQueryId.2.shown) ∧
      b.newQueryId.2.ledger.Faithful := by
  unfold newQueryId StatelessSession.Books.newQueryId
  rw [shown_manager]
  cases b.manager.slot with
  | none => exact ⟨rfl, h⟩
  | some id =>
    have hi := Ledger.shown_issueIn b.ledger id
    refine ⟨?_, h.issueIn id⟩
    show (_, (⟨(b.ledger.shown.issueIn id).2, _⟩ : StatelessSession.Books)) = _
    rw [hi]
    rfl

end Books

/-! ## 4. Benches -/

namespace Bench

/-- **A command answers alike, shows the same and keeps copies faithful.** -/
structure Agree (r : Reaction StatelessSession.Bench StatelessSession.Bench.Reply)
    (p : Except Failure StatelessSession.Bench.Reply × Bench) : Prop where
  answer : r.answer = p.1
  state : r.state = p.2.shown
  faithful : p.2.ledger.Faithful

variable {b : Bench}

/-- A command that changes nothing. -/
theorem agree_same (h : b.ledger.Faithful)
    (answer : Except Failure StatelessSession.Bench.Reply) :
    Agree ⟨answer, b.shown, []⟩ (answer, b) := ⟨rfl, rfl, h⟩

theorem shown_putBooks (b : Bench) (i : Nat) (books : Books) :
    (b.putBooks i books).shown = b.shown.putBooks i books.shown := rfl

/-- An operation that answers nothing, on the bench. -/
theorem agree_finished (i : Nat) {o : Outcome StatelessSession.Books Unit}
    {p : Except SessionError Unit × Books} (h : Snapshot.Agree o p) :
    Agree (b.shown.finished i o) (b.finished i p) where
  answer := by
    unfold StatelessSession.Bench.finished finished
    cases hp : p.1 with
    | ok u => simp only [h.answer, hp]
    | error e => simp only [h.answer, hp]
  state := by
    show b.shown.putBooks i o.state = (b.putBooks i p.2).shown
    rw [h.state, shown_putBooks]
  faithful := h.faithful

/-- A handle agrees with the entries of its number in the current stack. -/
theorem mark_eq_of_id {i : Nat} {m : Manager} (hs : b.shown.Sound) (hm : b.managers[i]? = some m)
    {s : Savepoint} (hmem : s ∈ b.savepoints) {id : TransactionId} (hslot : m.slot = some id)
    (ho : s.owner = m.owner) :
    ∀ k ∈ (b.ledger.transaction id).marks, k.savepoint.id = s.id → k.savepoint = s := by
  intro k hk hid
  have hk' : k.savepoint ∈ (b.ledger.shown.transaction id).savepoints := by
    rw [Ledger.shown_transaction]
    exact List.mem_map_of_mem hk
  exact (hs.books i m hm).eq_of_id hslot hk' hmem ho hid

/-- Going back to a numbered savepoint. -/
theorem agree_returnTo {i : Nat} {m : Manager} (hs : b.shown.Sound) (hf : b.ledger.Faithful)
    (hm : b.managers[i]? = some m) (how : StatelessSession.Transaction.Return) (n : Nat) :
    Agree
      (b.shown.withSavepoint n fun s =>
        b.shown.finished i ((⟨b.ledger.shown, m⟩ : StatelessSession.Books).returnTo how s))
      (match b.savepoints[n]? with
        | none => (.error (.missing .savepoint), b)
        | some s => b.finished i ((⟨b.ledger, m⟩ : Books).returnTo how s)) := by
  unfold StatelessSession.Bench.withSavepoint
  show Agree (match b.savepoints[n]? with | none => _ | some s => _) _
  cases hn : b.savepoints[n]? with
  | none => exact agree_same hf _
  | some s =>
    refine agree_finished i (Books.agree_returnTo (b := ⟨b.ledger, m⟩) hf how ?_)
    intro id hslot ho
    exact mark_eq_of_id hs hm (List.mem_of_getElem? hn) hslot ho

/-- An action of a manager. -/
theorem agree_act {i : Nat} {m : Manager} (hs : b.shown.Sound) (hf : b.ledger.Faithful)
    (hm : b.managers[i]? = some m) (a : StatelessSession.Bench.Action) :
    Agree (b.shown.act i ⟨b.ledger.shown, m⟩ a) (b.act i ⟨b.ledger, m⟩ a) := by
  have hid : ∀ id, m.slot = some id → b.ledger.shown.Has id := (hs.books i m hm).has
  cases a with
  | setAutocommit enable =>
    exact agree_finished i (Books.agree_setAutocommit (b := ⟨b.ledger, m⟩) hf enable)
  | commit => exact agree_finished i (Books.agree_finish (b := ⟨b.ledger, m⟩) hf hid .committed)
  | rollback => exact agree_finished i (Books.agree_finish (b := ⟨b.ledger, m⟩) hf hid .rolledBack)
  | setSavepoint name =>
    obtain ⟨ha, hstate, hf'⟩ := Books.agree_setSavepoint (b := ⟨b.ledger, m⟩) hf name
    simp only [StatelessSession.Bench.act, act]
    rcases hp : Books.setSavepoint ⟨b.ledger, m⟩ name with ⟨answer, books⟩
    rw [hp] at ha hstate hf'
    cases answer with
    | error e =>
      rw [show (⟨b.ledger.shown, m⟩ : StatelessSession.Books) = Books.shown ⟨b.ledger, m⟩ from rfl,
        ha, hstate]
      exact ⟨rfl, rfl, hf'⟩
    | ok s =>
      rw [show (⟨b.ledger.shown, m⟩ : StatelessSession.Books) = Books.shown ⟨b.ledger, m⟩ from rfl,
        ha, hstate]
      exact ⟨rfl, rfl, hf'⟩
  | rollbackTo n => exact agree_returnTo hs hf hm .rollback n
  | release n => exact agree_returnTo hs hf hm .release n
  | newQueryId =>
    obtain ⟨hq, hf'⟩ := Books.agree_newQueryId (b := ⟨b.ledger, m⟩) hf
    refine ⟨?_, ?_, hf'⟩
    · show Except.ok
        (StatelessSession.Bench.Reply.queryId (Books.shown ⟨b.ledger, m⟩).newQueryId.1) = _
      rw [hq]
      rfl
    · show b.shown.putBooks i (Books.shown ⟨b.ledger, m⟩).newQueryId.2 = _
      rw [hq]
      rfl
  | discard => exact agree_finished i (Books.agree_discard (b := ⟨b.ledger, m⟩) hf)
  | hold =>
    simp only [StatelessSession.Bench.act, act]
    cases m.slot with
    | none => exact agree_same hf _
    | some id => exact ⟨rfl, rfl, hf⟩

/-- **One command.** -/
theorem agree_step (hs : b.shown.Sound) (hf : b.ledger.Faithful)
    (c : StatelessSession.Bench.Command) : Agree (b.shown.step c) (b.step c) := by
  cases c with
  | newManager compliant => exact ⟨rfl, rfl, hf⟩
  | newTransaction =>
    refine ⟨rfl, ?_, hf.beginTransaction⟩
    show (⟨b.ledger.shown.beginTransaction.2, _, _, b.held ++ [b.ledger.shown.beginTransaction.1]⟩ :
      StatelessSession.Bench) =
      ⟨b.ledger.beginTransaction.2.shown, _, _, b.held ++ [b.ledger.beginTransaction.1]⟩
    rw [Ledger.shown_beginTransaction, Ledger.fst_beginTransaction]
    rfl
  | act i a =>
    simp only [StatelessSession.Bench.step, step, shown]
    cases hm : b.managers[i]? with
    | none => exact agree_same hf _
    | some m => exact agree_act hs hf hm a
  | newQueryIn n =>
    simp only [StatelessSession.Bench.step, step, shown]
    cases b.held[n]? with
    | none => exact agree_same hf _
    | some id =>
      have hi := Ledger.shown_issueIn b.ledger id
      refine ⟨?_, ?_, hf.issueIn id⟩
      · show Except.ok (StatelessSession.Bench.Reply.queryId (b.ledger.shown.issueIn id).1) = _
        rw [hi]
      · show ({ b.shown with ledger := (b.ledger.shown.issueIn id).2 } : StatelessSession.Bench) = _
        rw [hi]
        rfl
  | inspect n =>
    simp only [StatelessSession.Bench.step, step, shown]
    cases b.held[n]? with
    | none => exact agree_same hf _
    | some id => exact ⟨rfl, rfl, hf⟩

/-- The agreement along a run, from any two benches that agree. -/
theorem run_eq {cs : List StatelessSession.Bench.Command} (hs : b.shown.Sound)
    (hf : b.ledger.Faithful) :
    (b.shown.run cs).map (fun r => (r.answer, r.state)) =
      (b.run cs).map fun p => (p.1, p.2.shown) := by
  induction cs generalizing b with
  | nil => rfl
  | cons c cs ih =>
    obtain ⟨ha, hstate, hf'⟩ := agree_step hs hf c
    have hs' := StatelessSession.Bench.sound_step hs c
    show (_, _) :: ((b.shown.step c).state.run cs).map _ = (_, _) :: ((b.step c).2.run cs).map _
    rw [hstate] at hs' ⊢
    rw [ih hs' hf', ha]

/-- **Markers are as good as copies**: on every run of commands the managers that cut windows to
    markers and those that put copies back give the same answers and show the same benches. -/
theorem run_eq_snapshot_run (cs : List StatelessSession.Bench.Command) :
    (StatelessSession.Bench.empty.run cs).map (fun r => (r.answer, r.state)) =
      (empty.run cs).map fun p => (p.1, p.2.shown) :=
  run_eq (b := empty) StatelessSession.Bench.sound_empty fun _ => Transaction.faithful_empty

end Bench

end StatelessSession.Snapshot
