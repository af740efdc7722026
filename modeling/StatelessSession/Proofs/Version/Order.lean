import StatelessSession.Version

/-!
# The order of versions

Versions are ordered by their parts, and the first part that differs decides. A check for a release
looks at the first two parts only, which comes to a comparison with the first version of that
release.

* `le_iff_parts` -- the order is the lexicographic order of the parts.
* `isAtLeast_iff` -- the check in numbers.
* **`isAtLeast_iff_release_le`** -- the check as a comparison.
-/

namespace StatelessSession.Version

variable {u v w : Version} {a b a' b' : UInt32}

/-! ## 1. The order -/

/-- The parts of a version, from the first on. -/
def parts (v : Version) : List UInt32 := [v.major, v.minor, v.patch, v.build]

theorem eq_of_parts (h : v.parts = w.parts) : v = w := by
  obtain ⟨a, b, c, d⟩ := v
  obtain ⟨a', b', c', d'⟩ := w
  simpa [parts] using h

/-- One version is not after another. -/
instance : LE Version := ⟨fun v w => (v.compare w).isLE = true⟩

instance (v w : Version) : Decidable (v ≤ w) :=
  inferInstanceAs (Decidable ((v.compare w).isLE = true))

theorem le_def : v ≤ w ↔ (v.compare w).isLE = true := Iff.rfl

/-- Four comparisons, one after the other. -/
theorem compare_eq_compareLex :
    compare = compareLex (compareOn major) (compareLex (compareOn minor)
      (compareLex (compareOn patch) (compareOn build))) := rfl

instance : Std.TransCmp compare := by
  rw [compare_eq_compareLex]
  infer_instance

theorem ge_iff : (v.compare w).isGE = true ↔ w ≤ v := by
  have hswap : v.compare w = (w.compare v).swap := Std.OrientedCmp.eq_swap
  rw [le_def, hswap, Ordering.isGE_swap]

theorem le_trans (huv : u ≤ v) (hvw : v ≤ w) : u ≤ w := Std.TransCmp.isLE_trans huv hvw

theorem compare_eq_lt_iff : v.compare w = .lt ↔ v.parts < w.parts := by
  simp only [compare, parts, Ordering.then_eq_lt, Std.compare_eq_lt, Std.compare_eq_iff_eq,
    List.cons_lt_cons_iff, List.not_lt_nil, and_false, or_false]

/-- **The order of versions is the lexicographic order of their parts.** -/
theorem le_iff_parts : v ≤ w ↔ v.parts ≤ w.parts := by
  rw [← ge_iff, Ordering.isGE_iff_ne_lt, compare_eq_lt_iff, List.not_lt]

/-! ## 2. Releases -/

/-- The first version of a release. -/
def release (major minor : UInt32) : Version := ⟨major, minor, 0, 0⟩

/-- What comes second in a comparison does not turn the scales if it is not before. -/
theorem isGE_then {o o' : Ordering} (h : o'.isGE = true) : (o.then o').isGE = o.isGE := by
  cases o with
  | lt => rfl
  | eq => exact h
  | gt => rfl

theorem isGE_compare_zero (n : UInt32) : (Ord.compare n 0).isGE = true :=
  Std.isGE_compare.2 (UInt32.le_iff_toNat_le.2 (Nat.zero_le _))

/-- **A check for a release is a comparison with its first version.** -/
theorem isAtLeast_iff_release_le : v.isAtLeast a b = true ↔ release a b ≤ v := by
  have hrest : ((Ord.compare v.patch 0).then (Ord.compare v.build 0)).isGE = true := by
    rw [isGE_then (isGE_compare_zero _), isGE_compare_zero]
  have hsplit : v.compare (release a b) =
      ((Ord.compare v.major a).then (Ord.compare v.minor b)).then
        ((Ord.compare v.patch 0).then (Ord.compare v.build 0)) := (Ordering.then_assoc _ _ _).symm
  rw [← ge_iff, hsplit, isGE_then hrest, isAtLeast]

/-- The check in numbers. -/
theorem isAtLeast_iff : v.isAtLeast a b = true ↔ a < v.major ∨ a = v.major ∧ b ≤ v.minor := by
  rw [isAtLeast, ← Ordering.isLE_swap, Ordering.swap_then, Ordering.isLE_then_iff_or]
  rw [← Std.OrientedOrd.eq_swap, ← Std.OrientedOrd.eq_swap, Std.compare_eq_lt,
    Std.compare_eq_iff_eq, Std.isLE_compare]

theorem release_le_release_iff : release a' b' ≤ release a b ↔ a' < a ∨ a' = a ∧ b' ≤ b := by
  rw [← isAtLeast_iff_release_le, isAtLeast_iff]
  exact Iff.rfl

end StatelessSession.Version
