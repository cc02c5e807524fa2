import Mathlib.Order.MinMax
import Mathlib.Order.Std
import ReleaseLine.Proofs.VersionText

namespace ReleaseLine

section LinearOrder

variable {α : Type} [LinearOrder α]

theorem ite_compare_eq_max (a b : α) : (if compare a b = .gt then a else b) = max a b := by
  by_cases h : a ≤ b
  · rw [max_eq_right h, if_neg (mt compare_gt_iff_gt.mp (not_lt.mpr h))]
  · rw [max_eq_left (le_of_not_ge h), if_pos (compare_gt_iff_gt.mpr (lt_of_not_ge h))]

theorem ite_compare_eq_min (a b : α) : (if compare a b = .gt then b else a) = min a b := by
  by_cases h : a ≤ b
  · rw [min_eq_left h, if_neg (mt compare_gt_iff_gt.mp (not_lt.mpr h))]
  · rw [min_eq_right (le_of_not_ge h), if_pos (compare_gt_iff_gt.mpr (lt_of_not_ge h))]

/-- A step goes from each element that can rise to the very next one, and keeps their order. -/
structure Advances (step : α → α) (Rises : α → Prop) : Prop where
  le_step : ∀ a, a ≤ step a
  lt_step_iff : ∀ a, a < step a ↔ Rises a
  not_between : ∀ a b, a < b → ¬ b < step a
  monotone : Monotone step
  map_max : ∀ a b, step (max a b) = max (step a) (step b)
  map_min : ∀ a b, step (min a b) = min (step a) (step b)

theorem Advances.of_monotone {step : α → α} {Rises : α → Prop} (hle : ∀ a, a ≤ step a)
    (hlt : ∀ a, a < step a ↔ Rises a) (hbetween : ∀ a b, a < b → ¬ b < step a)
    (hmono : Monotone step) : Advances step Rises :=
  ⟨hle, hlt, hbetween, hmono, fun _ _ => hmono.map_max, fun _ _ => hmono.map_min⟩

end LinearOrder

namespace ReleaseVersion

theorem compare_eq (v w : ReleaseVersion) :
    compare v w = (compare v.major w.major).then (compare v.minor w.minor) := rfl

instance : Std.TransOrd ReleaseVersion :=
  inferInstanceAs (Std.TransCmp (compareLex (compareOn major) (compareOn minor)))

instance : Std.LawfulEqOrd ReleaseVersion where
  compare_self {v} := by
    rw [compare_eq]
    simp
  eq_of_compare {v w} h := by
    rw [compare_eq, Ordering.then_eq_eq, Nat.compare_eq_eq, Nat.compare_eq_eq] at h
    exact ReleaseVersion.ext h.1 h.2

instance : LinearOrder ReleaseVersion := .ofStd ReleaseVersion

theorem lt_iff {v w : ReleaseVersion} :
    v < w ↔ v.major < w.major ∨ v.major = w.major ∧ v.minor < w.minor := by
  rw [← compare_lt_iff_lt, compare_eq, Ordering.then_eq_lt, Nat.compare_eq_lt, Nat.compare_eq_eq,
    Nat.compare_eq_lt]

theorem le_iff {v w : ReleaseVersion} :
    v ≤ w ↔ v.major < w.major ∨ v.major = w.major ∧ v.minor ≤ w.minor := by
  rw [← not_lt, lt_iff]
  omega

theorem latest_eq_max (v w : ReleaseVersion) : latest v w = max v w := ite_compare_eq_max v w

theorem lt_next_iff {v : ReleaseVersion} : v < v.next ↔ v.minor < maxComponent := by
  have hle := v.minor_le
  rw [lt_iff, next_major, next_minor]
  omega

theorem not_lt_next_of_lt {v w : ReleaseVersion} (h : v < w) : ¬ w < v.next := by
  rw [lt_iff] at h
  rw [lt_iff, next_major, next_minor]
  omega

theorem le_next (v : ReleaseVersion) : v ≤ v.next := by
  have hle := v.minor_le
  rw [le_iff, next_major, next_minor]
  omega

/-- Beyond the last minor number nothing is gained, so later versions stay later ones. -/
theorem next_monotone : Monotone next := by
  intro v w h
  rw [le_iff] at h ⊢
  rw [next_major, next_major, next_minor, next_minor]
  omega

theorem iterate_next (v : ReleaseVersion) (n : Nat) :
    (next^[n] v).major = v.major ∧ (next^[n] v).minor = min (v.minor + n) maxComponent := by
  induction n with
  | zero => exact ⟨rfl, (min_eq_left v.minor_le).symm⟩
  | succ n ih =>
      rw [Function.iterate_succ_apply', next_major, next_minor, ih.1, ih.2]
      exact ⟨rfl, by omega⟩

theorem advances_next : Advances next (fun v => v.minor < 2147483647) :=
  .of_monotone le_next (fun _ => lt_next_iff) (fun _ _ => not_lt_next_of_lt) next_monotone

end ReleaseVersion

namespace VersionNumber

instance : Std.TransOrd VersionNumber where
  eq_swap {a b} := by
    cases a with
    | release v =>
        cases b with
        | release w => exact (Std.OrientedOrd.eq_swap : compare v w = (compare w v).swap)
        | development => rfl
    | development =>
        cases b with
        | release w => rfl
        | development => rfl
  isLE_trans {a b c} hab hbc := by
    cases c with
    | development => cases a <;> rfl
    | release u =>
        cases b with
        | development => cases hbc
        | release w =>
            cases a with
            | development => cases hab
            | release v =>
                have htrans : (compare v u).isLE := Std.TransOrd.isLE_trans hab hbc
                exact htrans

instance : Std.LawfulEqOrd VersionNumber where
  compare_self {a} := by
    cases a with
    | release v => exact (Std.ReflOrd.compare_self : compare v v = .eq)
    | development => rfl
  eq_of_compare {a b} h := by
    cases a with
    | release v =>
        cases b with
        | release w => exact congrArg release (Std.LawfulEqOrd.eq_of_compare h)
        | development => cases h
    | development =>
        cases b with
        | release w => cases h
        | development => rfl

instance : LinearOrder VersionNumber := .ofStd VersionNumber

theorem release_le_release {v w : ReleaseVersion} : release v ≤ release w ↔ v ≤ w := Iff.rfl

theorem release_lt_release {v w : ReleaseVersion} : release v < release w ↔ v < w := Iff.rfl

theorem le_development (n : VersionNumber) : n ≤ development := by
  cases n <;> rfl

theorem max_eq (a b : VersionNumber) : a.max b = Max.max a b := ite_compare_eq_max a b

theorem min_eq (a b : VersionNumber) : a.min b = Min.min a b := ite_compare_eq_min a b

theorem iterate_increment_release (v : ReleaseVersion) (n : Nat) :
    increment^[n] (release v) = release (ReleaseVersion.next^[n] v) := by
  have hstep : Function.Semiconj release ReleaseVersion.next increment := fun _ => rfl
  exact ((hstep.iterate_right n) v).symm

theorem iterate_increment_development (n : Nat) : increment^[n] development = development :=
  Function.iterate_fixed rfl n

theorem increment_monotone : Monotone increment := by
  intro a b h
  cases b with
  | development => exact le_development a.increment
  | release w =>
      cases a with
      | release v => exact release_le_release.mpr (ReleaseVersion.next_monotone h)
      | development => exact absurd h (by rintro ⟨⟩)

theorem advances_increment :
    Advances increment (fun n => ∃ v, n = release v ∧ v.minor < 2147483647) := by
  refine .of_monotone ?_ ?_ ?_ increment_monotone
  · intro a
    cases a with
    | release v => exact release_le_release.mpr v.le_next
    | development => exact le_rfl
  · intro a
    cases a with
    | release v =>
        change release v < release v.next ↔ _
        rw [release_lt_release, ReleaseVersion.lt_next_iff]
        constructor
        · exact fun h => ⟨v, rfl, h⟩
        · rintro ⟨_, ⟨rfl⟩, h⟩
          exact h
    | development =>
        constructor
        · exact fun h => absurd h (lt_irrefl development)
        · rintro ⟨_, ⟨⟩, -⟩
  · intro a b h h'
    cases a with
    | development => exact not_lt.mpr (le_development b) h
    | release v =>
        cases b with
        | development => exact not_lt.mpr (le_development (release v.next)) h'
        | release w => exact ReleaseVersion.not_lt_next_of_lt h h'

end VersionNumber

end ReleaseLine
