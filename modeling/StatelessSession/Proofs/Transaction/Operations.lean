import StatelessSession.Transaction.Manager

/-!
# What the operations of a manager can do

An operation looks at the flags and the slot of its manager and then does one of a few things. They
are listed here once, each with what it takes and with the outcome, so that whoever says something
of an operation goes through these cases and not through its definition.

* `Books.Switched` -- turning autocommit on or off; `switched_setAutocommit`.
* `Books.Finished` -- ending the current transaction; `finished_finish`.
* `Books.Marked` -- setting a savepoint; `marked_setSavepoint`.
* `Books.Targeted` -- looking for the transaction of a savepoint; `targeted_target`.
* `Books.Tried` -- returning to a savepoint; `tried_returnTo`.

NOT here: what becomes of the stack when a return succeeds (`Stack`).
-/

namespace StatelessSession.Books

variable {b : Books}

/-! ## 1. Autocommit, commit and rollback -/

/-- **All that turning autocommit on or off can do.** -/
inductive Switched (b : Books) (enable : Bool) : Outcome Books Unit → Prop where
  | same (h : b.manager.autocommit = enable) : Switched b enable (b.unchanged (.ok ()))
  | unsupported (hne : ¬ b.manager.autocommit = enable) (hc : b.manager.compliant = false) :
      Switched b enable (b.unchanged (.error (.unsupported transactionFeature)))
  | on (he : enable = true) (hne : ¬ b.manager.autocommit = enable)
      (hc : b.manager.compliant = true) :
      Switched b enable
        ⟨.ok (), (discard { b with manager := { b.manager with autocommit := enable } }).state,
          .featureMissing transactionFeature ::
            (discard { b with manager := { b.manager with autocommit := enable } }).events⟩
  | begun (he : ¬ enable = true) (hne : ¬ b.manager.autocommit = enable)
      (hc : b.manager.compliant = true) (hs : b.manager.slot = none) :
      Switched b enable
        ⟨.ok (), install { b with manager := { b.manager with autocommit := enable } },
          [.featureMissing transactionFeature]⟩
  | kept (he : ¬ enable = true) (hne : ¬ b.manager.autocommit = enable)
      (hc : b.manager.compliant = true) (hs : ¬ b.manager.slot = none) :
      Switched b enable
        ⟨.ok (), { b with manager := { b.manager with autocommit := enable } },
          [.featureMissing transactionFeature, .transactionKept]⟩

theorem switched_setAutocommit (b : Books) (enable : Bool) :
    b.Switched enable (b.setAutocommit enable) := by
  unfold setAutocommit
  split
  · rename_i h
    exact .same h
  rename_i hne
  split
  · rename_i hc
    exact .unsupported hne (by simpa using hc)
  rename_i hc
  have hc' : b.manager.compliant = true := by simpa using hc
  dsimp only
  split
  · rename_i he
    exact .on he hne hc'
  rename_i he
  split
  · rename_i hs
    exact .begun he hne hc' (Option.isNone_iff_eq_none.1 hs)
  · rename_i hs
    exact .kept he hne hc' fun e => hs (Option.isNone_iff_eq_none.2 e)

/-- **All that ending the current transaction can do.** -/
inductive Finished (b : Books) (ending : Ending) : Outcome Books Unit → Prop where
  | inAutocommit (ha : b.manager.autocommit = true) :
      Finished b ending (b.unchanged (.error (.inAutocommit (attempt ending))))
  | unsupported (ha : ¬ b.manager.autocommit = true) (hc : b.manager.compliant = false) :
      Finished b ending (b.unchanged (.error (.unsupported transactionFeature)))
  | vacant (ha : ¬ b.manager.autocommit = true) (hc : b.manager.compliant = true)
      (hs : b.manager.slot = none) :
      Finished b ending
        ⟨.error .noTransaction, b.install, [.featureMissing transactionFeature]⟩
  | ended {id : TransactionId} (ha : ¬ b.manager.autocommit = true)
      (hc : b.manager.compliant = true) (hs : b.manager.slot = some id) :
      Finished b ending
        ⟨.ok (), b.install.clear id, [.featureMissing transactionFeature, b.ended ending id]⟩

theorem finished_finish (b : Books) (ending : Ending) : b.Finished ending (b.finish ending) := by
  unfold finish
  split
  · rename_i ha
    exact .inAutocommit ha
  rename_i ha
  split
  · rename_i hc
    exact .unsupported ha (by simpa using hc)
  rename_i hc
  have hc' : b.manager.compliant = true := by simpa using hc
  dsimp only
  split
  · rename_i hs
    exact .vacant ha hc' hs
  · rename_i id hs
    exact .ended ha hc' hs

/-! ## 2. Savepoints -/

/-- **All that setting a savepoint can do.** A savepoint that is set marks the end of the current
    window and lies on top of the stack. -/
inductive Marked (b : Books) (name : Option String) : Outcome Books Savepoint → Prop where
  | inAutocommit (ha : b.manager.autocommit = true) :
      Marked b name (b.unchanged (.error (.inAutocommit "set savepoint")))
  | unsupported (ha : ¬ b.manager.autocommit = true) (hc : b.manager.compliant = false) :
      Marked b name (b.unchanged (.error (.unsupported savepointFeature)))
  | set {s : Savepoint} (ha : ¬ b.manager.autocommit = true) (hc : b.manager.compliant = true)
      (hs : s = (b.current.2.ledger.transaction b.current.1).mark b.current.2.manager.owner
        b.current.2.manager.nextSavepoint name) :
      Marked b name
        ⟨.ok s,
          ⟨b.current.2.ledger.modify b.current.1 (·.addSavepoint s),
            { b.current.2.manager with nextSavepoint := b.current.2.manager.nextSavepoint + 1 }⟩,
          [.savepointSet b.current.1 s]⟩

theorem marked_setSavepoint (b : Books) (name : Option String) :
    b.Marked name (b.setSavepoint name) := by
  unfold setSavepoint
  split
  · rename_i ha
    exact .inAutocommit ha
  rename_i ha
  split
  · rename_i hc
    exact .unsupported ha (by simpa using hc)
  · rename_i hc
    exact .set ha (by simpa using hc) rfl

/-- **All that looking for the transaction of a savepoint can find.** -/
inductive Targeted (b : Books) (how : Transaction.Return) (s : Savepoint) :
    Except SessionError TransactionId → Prop where
  | inAutocommit (ha : b.manager.autocommit = true) :
      Targeted b how s (.error (.inAutocommit (returnAttempt how)))
  | unsupported (ha : ¬ b.manager.autocommit = true) (hc : b.manager.compliant = false) :
      Targeted b how s (.error (.unsupported savepointFeature))
  | foreign (ha : ¬ b.manager.autocommit = true) (hc : b.manager.compliant = true)
      (ho : s.owner ≠ b.manager.owner) : Targeted b how s (.error (.foreignSavepoint s))
  | vacant (ha : ¬ b.manager.autocommit = true) (hc : b.manager.compliant = true)
      (ho : s.owner = b.manager.owner) (hs : b.manager.slot = none) :
      Targeted b how s (.error .noTransaction)
  | found {id : TransactionId} (ha : ¬ b.manager.autocommit = true)
      (hc : b.manager.compliant = true) (ho : s.owner = b.manager.owner)
      (hs : b.manager.slot = some id) : Targeted b how s (.ok id)

theorem targeted_target (b : Books) (how : Transaction.Return) (s : Savepoint) :
    b.Targeted how s (b.target how s) := by
  unfold target
  split
  · rename_i ha
    exact .inAutocommit ha
  rename_i ha
  split
  · rename_i hc
    exact .unsupported ha (by simpa using hc)
  rename_i hc
  have hc' : b.manager.compliant = true := by simpa using hc
  split
  · rename_i ho
    exact .foreign ha hc' ho
  rename_i ho
  split
  · rename_i hs
    exact .vacant ha hc' (Decidable.of_not_not ho) hs
  · rename_i id hs
    exact .found ha hc' (Decidable.of_not_not ho) hs

/-- **All that an attempt to return to a savepoint can do.** -/
inductive Tried (b : Books) (how : Transaction.Return) (s : Savepoint) :
    Outcome Books Unit → Prop where
  | refused {e : SessionError} (ht : b.target how s = .error e) :
      Tried b how s (b.unchanged (.error e))
  | unknown {id : TransactionId} (ht : b.target how s = .ok id)
      (hr : (b.ledger.transaction id).returnTo? how s = none) :
      Tried b how s
        ⟨.error (.unknownSavepoint s), b,
          [.savepointLeft how id s ((b.ledger.transaction id).after s)]⟩
  | done {id : TransactionId} {t : Transaction} (ht : b.target how s = .ok id)
      (hr : (b.ledger.transaction id).returnTo? how s = some t) :
      Tried b how s
        ⟨.ok (), { b with ledger := b.ledger.modify id fun _ => t },
          [.savepointLeft how id s ((b.ledger.transaction id).after s)]⟩

theorem tried_returnTo (b : Books) (how : Transaction.Return) (s : Savepoint) :
    b.Tried how s (b.returnTo how s) := by
  unfold returnTo
  split
  · rename_i e ht
    exact .refused ht
  rename_i id ht
  dsimp only
  split
  · rename_i hr
    exact .unknown ht hr
  · rename_i t hr
    exact .done ht hr

end StatelessSession.Books
