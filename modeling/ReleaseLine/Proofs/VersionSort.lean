import ReleaseLine.Proofs.VersionOrder

namespace ReleaseLine

theorem ascending_mergeSort {α : Type} [LinearOrder α] (elements : List α) :
    (elements.mergeSort fun a b => compare a b ≠ .gt).Pairwise fun a b => compare a b ≠ .gt := by
  have hsorted : (elements.mergeSort fun a b => compare a b ≠ .gt).Pairwise
      fun a b => decide (compare a b ≠ .gt) = true := by
    apply List.pairwise_mergeSort
    · intro a b c hab hbc
      simp only [decide_eq_true_eq, compare_le_iff_le] at hab hbc ⊢
      exact le_trans hab hbc
    · intro a b
      simp only [Bool.or_eq_true, decide_eq_true_eq, compare_le_iff_le]
      exact le_total a b
  simpa only [decide_eq_true_eq] using hsorted

namespace VersionNumber

/-- What is said of two versions agrees. -/
structure Compared (a b : VersionNumber) : Prop where
  reversed : compare b a = (compare a b).swap
  eq_iff : compare a b = .eq ↔ a = b
  total : compare a b ≠ .gt ∨ compare b a ≠ .gt
  partly : a.partialCompare b = some (compare a b)
  less : a.isLess b = true ↔ compare a b = .lt
  atMost : a.isAtMost b = true ↔ compare a b ≠ .gt
  greater : a.isGreater b = true ↔ compare a b = .gt
  atLeast : a.isAtLeast b = true ↔ compare a b ≠ .lt
  max_mem : a.max b = a ∨ a.max b = b
  max_least : ∀ c, compare (a.max b) c ≠ .gt ↔ compare a c ≠ .gt ∧ compare b c ≠ .gt
  min_mem : a.min b = a ∨ a.min b = b
  min_greatest : ∀ c, compare c (a.min b) ≠ .gt ↔ compare c a ≠ .gt ∧ compare c b ≠ .gt

theorem isLess_iff (a b : VersionNumber) : a.isLess b = true ↔ compare a b = .lt := by
  simp [isLess, partialCompare]

theorem isGreater_iff (a b : VersionNumber) : a.isGreater b = true ↔ compare a b = .gt := by
  simp [isGreater, partialCompare]

theorem isAtMost_iff (a b : VersionNumber) : a.isAtMost b = true ↔ compare a b ≠ .gt := by
  simp [isAtMost, partialCompare, Ordering.isLE_iff_ne_gt]

theorem isAtLeast_iff (a b : VersionNumber) : a.isAtLeast b = true ↔ compare a b ≠ .lt := by
  simp [isAtLeast, partialCompare, Ordering.isGE_iff_ne_lt]

theorem compared (a b : VersionNumber) : Compared a b := by
  constructor
  case reversed => exact Std.OrientedOrd.eq_swap
  case eq_iff => exact Std.compare_eq_iff_eq
  case total =>
    rw [compare_le_iff_le, compare_le_iff_le]
    exact le_total a b
  case partly => rfl
  case less => exact isLess_iff a b
  case atMost => exact isAtMost_iff a b
  case greater => exact isGreater_iff a b
  case atLeast => exact isAtLeast_iff a b
  case max_mem =>
    rw [max_eq]
    exact max_choice a b
  case max_least =>
    intro c
    simp only [max_eq, compare_le_iff_le]
    exact max_le_iff
  case min_mem =>
    rw [min_eq]
    exact min_choice a b
  case min_greatest =>
    intro c
    simp only [min_eq, compare_le_iff_le]
    exact le_min_iff

theorem compare_trans {a b c : VersionNumber} (hab : compare a b ≠ .gt)
    (hbc : compare b c ≠ .gt) : compare a c ≠ .gt := by
  rw [compare_le_iff_le] at hab hbc ⊢
  exact le_trans hab hbc

theorem compare_release (v w : ReleaseVersion) :
    compare (release v) (release w) = compare v w := rfl

theorem eq_development_iff (n : VersionNumber) :
    (∀ v, compare n (release v) = .gt) ↔ n = development := by
  constructor
  · intro h
    cases n with
    | release v =>
        have hself := h v
        rw [Std.compare_self] at hself
        cases hself
    | development => rfl
  · rintro rfl v
    rfl

theorem sort_perm (versions : List VersionNumber) : (sort versions).Perm versions :=
  List.mergeSort_perm versions _

theorem sort_ascending (versions : List VersionNumber) :
    (sort versions).Pairwise fun a b => compare a b ≠ .gt :=
  ascending_mergeSort versions

theorem sort_eq_of_perm {versions sorted : List VersionNumber} (hperm : sorted.Perm versions)
    (hsorted : sorted.Pairwise fun a b => compare a b ≠ .gt) : sort versions = sorted := by
  refine List.Perm.eq_of_pairwise ?_ (sort_ascending versions) hsorted
    ((sort_perm versions).trans hperm.symm)
  intro a b _ _ hab hba
  rw [compare_le_iff_le] at hab hba
  exact le_antisymm hab hba

theorem sort_congr {first second : List VersionNumber} (h : first.Perm second) :
    sort first = sort second :=
  sort_eq_of_perm ((sort_perm second).trans h.symm) (sort_ascending second)

def releases (versions : List VersionNumber) : List ReleaseVersion := versions.filterMap release?

theorem perm_releases (versions : List VersionNumber) :
    ((releases versions).map release ++
      List.replicate (versions.count development) development).Perm versions := by
  induction versions with
  | nil => exact .nil
  | cons n versions ih =>
      cases n with
      | release v =>
          rw [List.count_cons_of_ne (by simp)]
          exact ih.cons (release v)
      | development =>
          rw [List.count_cons_self, List.replicate_succ]
          exact List.perm_middle.trans (ih.cons development)

/-- The releases of a list, by number. -/
def sortedReleases (versions : List VersionNumber) : List ReleaseVersion :=
  (releases versions).mergeSort fun v w => compare v w ≠ .gt

theorem sortedReleases_perm (versions : List VersionNumber) :
    (sortedReleases versions).Perm (releases versions) :=
  List.mergeSort_perm (releases versions) _

theorem sortedReleases_ascending (versions : List VersionNumber) :
    (sortedReleases versions).Pairwise fun v w => compare v w ≠ .gt :=
  ascending_mergeSort (releases versions)

theorem sort_eq (versions : List VersionNumber) :
    sort versions = (sortedReleases versions).map release ++
      List.replicate (versions.count development) development := by
  apply sort_eq_of_perm
  · exact (((sortedReleases_perm versions).map release).append_right _).trans
      (perm_releases versions)
  · rw [List.pairwise_append]
    refine ⟨?_, ?_, ?_⟩
    · rw [List.pairwise_map]
      exact sortedReleases_ascending versions
    · rw [List.pairwise_replicate]
      exact .inr (by simp)
    · intro a _ b hb
      rw [List.eq_of_mem_replicate hb, compare_le_iff_le]
      exact le_development a

/-- A list sorted: its releases by number, then development as often as it occurs. -/
structure Sorted (versions sorted : List VersionNumber) : Prop where
  perm : sorted.Perm versions
  ascending : sorted.Pairwise fun a b => compare a b ≠ .gt
  unique : ∀ versions', versions'.Perm versions → sort versions' = sorted
  releases_first : ∃ numbered : List ReleaseVersion,
    sorted = numbered.map release ++
      List.replicate (versions.count development) development ∧
    numbered.Perm (versions.filterMap release?) ∧
    numbered.Pairwise fun v w => v.major < w.major ∨ v.major = w.major ∧ v.minor ≤ w.minor

theorem sorted_sort (versions : List VersionNumber) : Sorted versions (sort versions) := by
  constructor
  case perm => exact sort_perm versions
  case ascending => exact sort_ascending versions
  case unique => exact fun versions' h => sort_congr h
  case releases_first =>
    refine ⟨sortedReleases versions, sort_eq versions, sortedReleases_perm versions, ?_⟩
    refine (sortedReleases_ascending versions).imp ?_
    intro v w h
    rwa [compare_le_iff_le, ReleaseVersion.le_iff] at h

/-- Versions are in one total order, that of releases with development at its end, and lists of
them are sorted by it. -/
theorem ordered_and_sorted :
    (∀ a : VersionNumber, compare a a = .eq) ∧
      (∀ a b, Compared a b) ∧
      (∀ a b c : VersionNumber,
        compare a b ≠ .gt → compare b c ≠ .gt → compare a c ≠ .gt) ∧
      (∀ v w, compare (release v) (release w) = compare v w ∧
        (compare v w = .lt ↔ v.major < w.major ∨ v.major = w.major ∧ v.minor < w.minor)) ∧
      (∀ n, (∀ v, compare n (release v) = .gt) ↔ n = development) ∧
      ∀ versions, Sorted versions (sort versions) := by
  refine ⟨fun a => Std.compare_self, compared, fun a b c => compare_trans, ?_,
    eq_development_iff, sorted_sort⟩
  intro v w
  refine ⟨compare_release v w, ?_⟩
  rw [compare_lt_iff_lt, ReleaseVersion.lt_iff]

end VersionNumber

end ReleaseLine
