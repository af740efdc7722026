import Mathlib.Algebra.Group.Nat.Defs

/-!
# Counters that can be full

A program counts what is open in 32 bits. What a full counter does is settled when the program is
built: it starts over, or it stops the program. An index or a slice out of range stops the program
in any case. So a run has three ways to end: with an answer, at a full counter, and out of range.

* `Overflow`, `Halt` -- what is settled, and the two ways to stop short.
* `reach` -- what has to be there.
* **`Answers`** -- a run answers, or a counter is full; and that takes a text of 2 GiB.
* `lastCount` -- the last number of 32 bits; `toNat_add_one`, `toNat_sub_one` -- counting short of
  it.
* `toNatClampNeg_add_one`, `toNatClampNeg_sub_one` -- counting with a sign, short of the last
  number.

NOT here: what is counted: comments (`Comments`), brackets (`Arguments`), parentheses (`Nesting`).
-/

namespace StatelessSession.Sql

/-! ## 1. Ways to end -/

/-- What a full counter does that has to go up. -/
inductive Overflow where
  /-- It starts over. -/
  | wraps
  /-- It stops the program. -/
  | stops
deriving DecidableEq, Repr

/-- How a program can stop short of an answer. -/
inductive Halt where
  /-- A byte, an element or a slice is not there. -/
  | range
  /-- A counter is full. -/
  | overflow
deriving DecidableEq, Repr

variable {α β : Type} {o : Overflow} {size size' : Nat} {x : Except Halt α} {a : α} {b : β}

/-- What has to be there. -/
def reach : Option α → Except Halt α
  | none => .error .range
  | some a => .ok a

@[simp] theorem reach_some (a : α) : reach (some a) = .ok a := rfl

/-- **A run over a text of so many bytes answers `a`**, or it stops at a full counter. For that the
    program has to be built to stop, and the text to have 2 GiB. -/
def Answers (o : Overflow) (size : Nat) (x : Except Halt α) (a : α) : Prop :=
  x = .ok a ∨ (o = .stops ∧ 2 ^ 31 ≤ size) ∧ x = .error .overflow

namespace Answers

theorem ok (a : α) : Answers o size (.ok a) a := .inl rfl

/-- A counter that is full on a text of so many bytes. -/
theorem overflow (ho : o = .stops) (hsize : 2 ^ 31 ≤ size) (a : α) :
    Answers o size (.error .overflow) a := .inr ⟨⟨ho, hsize⟩, rfl⟩

theorem mono (h : Answers o size x a) (hle : size ≤ size') : Answers o size' x a :=
  h.imp_right fun h => ⟨⟨h.1.1, Nat.le_trans h.1.2 hle⟩, h.2⟩

/-- What goes on with the answer. -/
theorem bind {f : α → Except Halt β} (h : Answers o size x a) (hf : Answers o size (f a) b) :
    Answers o size (x >>= f) b := by
  rcases h with rfl | ⟨hfull, rfl⟩
  · exact hf
  · exact .inr ⟨hfull, rfl⟩

theorem bind_ok {f : α → Except Halt β} (h : x = .ok a) (hf : Answers o size (f a) b) :
    Answers o size (x >>= f) b :=
  bind (.inl h) hf

/-- One turn of a loop that first looks whether its counter is full. -/
theorem guard {full : Prop} [Decidable full] (hsize : o = .stops → full → 2 ^ 31 ≤ size)
    (hx : ¬ (o = .stops ∧ full) → Answers o size x a) :
    Answers o size (if o = .stops ∧ full then .error .overflow else x) a := by
  split
  · rename_i hfull
    exact .overflow hfull.1 (hsize hfull.1 hfull.2) a
  · rename_i hgo
    exact hx hgo

/-- **Where counters start over there is always an answer**, and where they stop the program there
    is one for every text of less than 2 GiB. -/
theorem eq_ok (h : Answers o size x a) (hsize : o = .wraps ∨ size < 2 ^ 31) : x = .ok a := by
  refine h.resolve_right fun ⟨⟨ho, hle⟩, _⟩ => ?_
  rcases hsize with rfl | hlt
  · cases ho
  · exact Nat.not_le_of_lt hlt hle

/-- **No run is out of range.** -/
theorem ne_range (h : Answers o size x a) : x ≠ .error .range := by
  rcases h with rfl | ⟨-, rfl⟩
  · exact nofun
  · exact nofun

end Answers

/-! ## 2. Counting -/

/-- The last number of 32 bits. -/
def lastCount : UInt32 := 0xffffffff

theorem toNat_add_one {n : UInt32} (h : n ≠ lastCount) : (n + 1).toNat = n.toNat + 1 := by
  have hne : n.toNat ≠ lastCount.toNat := fun e => h (UInt32.toNat_inj.1 e)
  have hlast : lastCount.toNat = 2 ^ 32 - 1 := rfl
  have hlt := n.toNat_lt
  rw [UInt32.toNat_add, UInt32.toNat_one, Nat.mod_eq_of_lt (by omega)]

theorem toNat_sub_one {n : UInt32} (h : n ≠ 0) : (n - 1).toNat = n.toNat - 1 := by
  have hne : n.toNat ≠ 0 := fun e => h (UInt32.toNat_inj.1 e)
  have hlt := n.toNat_lt
  rw [UInt32.toNat_sub, UInt32.toNat_one]
  omega

/-! ## 3. Counting with a sign -/

variable {d : Int32}

theorem toInt_nonneg (h : 0 ≤ d) : 0 ≤ d.toInt := Int32.le_iff_toInt_le.1 h

theorem toInt_sub_one (h : 0 ≤ d) : (d - 1).toInt = d.toInt - 1 := by
  have hpos := toInt_nonneg h
  have hlt := d.toInt_lt
  rw [Int32.toInt_sub, show (1 : Int32).toInt = 1 from rfl, Int.bmod_eq_of_le (by omega) (by omega)]

/-- One less is below zero after zero alone. -/
theorem eq_zero_of_sub_one_lt (h : 0 ≤ d) (hlt : d - 1 < 0) : d = 0 := by
  have hpos := toInt_nonneg h
  rw [Int32.lt_iff_toInt_lt, toInt_sub_one h] at hlt
  exact Int32.toInt_inj.1 (show d.toInt = 0 from Int.le_antisymm (Int.le_of_sub_one_lt hlt) hpos)

theorem toNatClampNeg_eq_zero (h : 0 ≤ d) : d.toNatClampNeg = 0 ↔ d = 0 := by
  constructor
  · intro hzero
    exact Int32.toInt_inj.1 (Int.le_antisymm (Int.toNat_eq_zero.1 hzero) (toInt_nonneg h))
  · intro hzero
    rw [hzero]
    rfl

theorem toNatClampNeg_sub_one (h : 0 ≤ d) (hlt : ¬ d - 1 < 0) :
    0 ≤ d - 1 ∧ d.toNatClampNeg = (d - 1).toNatClampNeg + 1 := by
  have hle := Int32.not_lt.1 hlt
  have hpos := toInt_nonneg hle
  refine ⟨hle, ?_⟩
  rw [← Int32.toNat_toInt, ← Int32.toNat_toInt]
  rw [toInt_sub_one h] at hpos ⊢
  omega

theorem toNatClampNeg_add_one (h : 0 ≤ d) (hlt : d.toNatClampNeg + 1 < 2 ^ 31) :
    0 ≤ d + 1 ∧ (d + 1).toNatClampNeg = d.toNatClampNeg + 1 := by
  have hpos := toInt_nonneg h
  rw [← Int32.toNat_toInt] at hlt
  have hadd : (d + 1).toInt = d.toInt + 1 := by
    rw [Int32.toInt_add, show (1 : Int32).toInt = 1 from rfl,
      Int.bmod_eq_of_le (by omega) (by omega)]
  constructor
  · rw [Int32.le_iff_toInt_le, hadd]
    exact Int.le_add_one hpos
  · rw [← Int32.toNat_toInt, ← Int32.toNat_toInt, hadd]
    omega

end StatelessSession.Sql
