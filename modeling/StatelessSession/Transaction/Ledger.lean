import StatelessSession.Transaction.Savepoint

/-!
# The ledger of transactions

All transactions that ever began, by their ids, and the numbers that come next. A transaction keeps
its place in the ledger when no manager refers to it any more, since a caller may still hold its id.
Ids are handed out in order, so no two are equal.
-/

namespace StatelessSession

/-- Every transaction by its number, and the next numbers of a query id and of a manager. -/
structure Ledger where
  transactions : List Transaction
  nextQuery : Nat
  nextOwner : Nat
deriving DecidableEq, Repr

namespace Ledger

/-- The ledger before anything happened. -/
def empty : Ledger := ⟨[], 1, 1⟩

/-! ## 1. Operations -/

/-- A transaction. One that never began has neither queries nor savepoints. -/
def transaction (l : Ledger) (id : TransactionId) : Transaction :=
  (l.transactions[id.number]?).getD Transaction.empty

/-- Begins a transaction. -/
def beginTransaction (l : Ledger) : TransactionId × Ledger :=
  (⟨l.transactions.length⟩, { l with transactions := l.transactions ++ [Transaction.empty] })

/-- Changes a transaction. -/
def modify (l : Ledger) (id : TransactionId) (f : Transaction → Transaction) : Ledger :=
  { l with transactions := l.transactions.modify id.number f }

/-- Empties a transaction, as when it ends. -/
def clear (l : Ledger) (id : TransactionId) : Ledger := l.modify id fun _ => Transaction.empty

/-- Hands out a query id. -/
def issue (l : Ledger) : QueryId × Ledger :=
  (.issued l.nextQuery, { l with nextQuery := l.nextQuery + 1 })

/-- Hands out a query id that belongs to a transaction. -/
def issueIn (l : Ledger) (id : TransactionId) : QueryId × Ledger :=
  let (q, l) := l.issue
  (q, l.modify id (·.addQuery q))

/-- Hands out the number of a manager. -/
def takeOwner (l : Ledger) : Nat × Ledger := (l.nextOwner, { l with nextOwner := l.nextOwner + 1 })

/-! ## 2. What each operation does to a transaction -/

/-- Whether a transaction has begun. -/
def Has (l : Ledger) (id : TransactionId) : Prop := id.number < l.transactions.length

theorem transaction_beginTransaction (l : Ledger) (id : TransactionId) :
    l.beginTransaction.2.transaction id = l.transaction id := by
  simp only [transaction, beginTransaction, List.getElem?_append]
  split
  · rfl
  · rename_i h
    have hn : l.transactions[id.number]? = none := List.getElem?_eq_none (by omega)
    cases id.number - l.transactions.length <;> simp [hn]

theorem transaction_modify {l : Ledger} {id : TransactionId} (h : l.Has id)
    (f : Transaction → Transaction) (id' : TransactionId) :
    (l.modify id f).transaction id' =
      if id = id' then f (l.transaction id) else l.transaction id' := by
  simp only [transaction, modify, List.getElem?_modify]
  unfold Has at h
  cases id with | mk n =>
  cases id' with | mk m =>
  simp only [TransactionId.mk.injEq]
  split
  · rename_i e
    subst e
    simp [List.getElem?_eq_getElem h]
  · cases l.transactions[m]? <;> rfl

@[simp] theorem transaction_issue (l : Ledger) (id : TransactionId) :
    l.issue.2.transaction id = l.transaction id := rfl

@[simp] theorem transaction_takeOwner (l : Ledger) (id : TransactionId) :
    l.takeOwner.2.transaction id = l.transaction id := rfl

end Ledger

end StatelessSession
