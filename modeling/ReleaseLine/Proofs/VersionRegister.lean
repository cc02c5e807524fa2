import ReleaseLine.Proofs.VersionOrder

namespace ReleaseLine

/-- A version as it is stored: the words of its two components, and none for development. -/
abbrev Stored := Option (UInt32 × UInt32)

def VersionNumber.stored : VersionNumber → Stored
  | .release v => some (UInt32.ofNat v.major, v.minorWord)
  | .development => none

namespace Stored

/-- Words are compared as numbers; what has none comes last. -/
def compare : Stored → Stored → Ordering
  | some (major, minor), some (major', minor') =>
    (Ord.compare major major').then (Ord.compare minor minor')
  | some _, none => .lt
  | none, some _ => .gt
  | none, none => .eq

def next (held : Stored) : Stored :=
  held.map fun words => (words.1, ReleaseVersion.succWord words.2)

def max (a b : Stored) : Stored := if a.compare b = .gt then a else b

def min (a b : Stored) : Stored := if a.compare b = .gt then b else a

end Stored

/-- What can be done to a register that holds a version. -/
inductive VersionStep where
  | of (major minor : Int)
  | parse (text : String)
  | ofString (text : String)
  | next
  | increment
  | max (other : VersionNumber)
  | min (other : VersionNumber)

namespace VersionStep

/-- What a step builds or reads, whatever the register holds. -/
def given? : VersionStep → Option VersionNumber
  | of major minor => (ReleaseVersion.of major minor).toOption.map .release
  | parse text => (VersionNumber.parse text).toOption
  | ofString text => (ReleaseVersion.ofString text).toOption.map .release
  | next | increment | max _ | min _ => none

/-- A step that fails leaves the register as it is. -/
def run (held : VersionNumber) : VersionStep → VersionNumber
  | next => (held.release?.map fun v => .release v.next).getD held
  | increment => held.increment
  | max other => held.max other
  | min other => held.min other
  | step => step.given?.getD held

def runStored (held : Stored) : VersionStep → Stored
  | next | increment => held.next
  | max other => held.max other.stored
  | min other => held.min other.stored
  | step => (step.given?.map VersionNumber.stored).getD held

def runAll (held : VersionNumber) (steps : List VersionStep) : VersionNumber :=
  steps.foldl run held

def runAllStored (held : Stored) (steps : List VersionStep) : Stored :=
  steps.foldl runStored held

end VersionStep

theorem compare_ofNat {n m : Nat} (hn : n ≤ maxComponent) (hm : m ≤ maxComponent) :
    compare (UInt32.ofNat n) (UInt32.ofNat m) = compare n m := by
  have hlt : UInt32.ofNat n < UInt32.ofNat m ↔ n < m := by
    rw [UInt32.lt_iff_toNat_lt, toNat_ofNat_of_le hn, toNat_ofNat_of_le hm]
  have hgt : UInt32.ofNat m < UInt32.ofNat n ↔ m < n := by
    rw [UInt32.lt_iff_toNat_lt, toNat_ofNat_of_le hn, toNat_ofNat_of_le hm]
  rcases lt_trichotomy n m with h | rfl | h
  · rw [Std.compare_eq_lt.mpr h, Std.compare_eq_lt.mpr (hlt.mpr h)]
  · rw [Std.ReflOrd.compare_self, Std.ReflOrd.compare_self]
  · rw [Std.compare_eq_gt.mpr h, Std.compare_eq_gt.mpr (hgt.mpr h)]

theorem compare_stored (a b : VersionNumber) : a.stored.compare b.stored = compare a b := by
  cases a with
  | release v =>
      cases b with
      | release w =>
          change (compare _ _).then (compare _ _) = (compare v.major w.major).then _
          rw [compare_ofNat v.major_le w.major_le]
          exact congrArg _ (compare_ofNat v.minor_le w.minor_le)
      | development => rfl
  | development =>
      cases b with
      | release w => rfl
      | development => rfl

theorem stored_max (a b : VersionNumber) : (a.max b).stored = a.stored.max b.stored := by
  unfold VersionNumber.max Stored.max
  rw [compare_stored]
  split
  · rfl
  · rfl

theorem stored_min (a b : VersionNumber) : (a.min b).stored = a.stored.min b.stored := by
  unfold VersionNumber.min Stored.min
  rw [compare_stored]
  split
  · rfl
  · rfl

theorem stored_increment (a : VersionNumber) : a.increment.stored = a.stored.next := by
  cases a with
  | release v =>
      change some (_, UInt32.ofNat (ReleaseVersion.succWord v.minorWord).toNat) = some (_, _)
      rw [UInt32.ofNat_toNat]
      rfl
  | development => rfl

namespace VersionStep

theorem run_stored (held : VersionNumber) (step : VersionStep) :
    runStored held.stored step = (run held step).stored := by
  have hgiven (given : Option VersionNumber) :
      (given.map VersionNumber.stored).getD held.stored = (given.getD held).stored := by
    cases given with
    | none => rfl
    | some version => rfl
  cases step with
  | of major minor => exact hgiven _
  | parse text => exact hgiven _
  | ofString text => exact hgiven _
  | next =>
      cases held with
      | release v => exact (stored_increment (.release v)).symm
      | development => rfl
  | increment => exact (stored_increment held).symm
  | max other => exact (stored_max held other).symm
  | min other => exact (stored_min held other).symm

theorem runAll_stored (held : VersionNumber) (steps : List VersionStep) :
    runAllStored held.stored steps = (runAll held steps).stored := by
  induction steps generalizing held with
  | nil => rfl
  | cons step steps ih =>
      change runAllStored (runStored held.stored step) steps = (runAll (run held step) steps).stored
      rw [run_stored]
      exact ih (run held step)

/-- What holds of a register and of its words, whatever was done to it. -/
structure Reached (held : VersionNumber) (words : Stored) : Prop where
  stored : words = held.stored
  bounded : ∀ major minor, words = some (major, minor) →
    major ≤ 2147483647 ∧ minor ≤ 2147483647 ∧ (minor + 1).toNat = minor.toNat + 1
  reparsed : ∀ v, held = .release v → VersionNumber.parse held.render = .ok held

theorem reached_runAll (start : VersionNumber) (steps : List VersionStep) :
    Reached (runAll start steps) (runAllStored start.stored steps) := by
  rw [runAll_stored]
  cases runAll start steps with
  | development =>
      refine ⟨rfl, ?_, ?_⟩
      · rintro major minor ⟨⟩
      · rintro v ⟨⟩
  | release v =>
      refine ⟨rfl, ?_, ?_⟩
      · rintro major minor ⟨⟩
        rw [UInt32.le_iff_toNat_le, UInt32.le_iff_toNat_le, toNat_ofNat_of_le v.major_le,
          v.toNat_minorWord]
        exact ⟨v.major_le, v.minor_le, v.toNat_minorWord_succ⟩
      · rintro w ⟨⟩
        exact VersionNumber.parse_eq_ok_iff.mpr ⟨v, rfl, v.parse_render⟩

/-- Whatever is done to a register, its words never run over, and what it holds is read back from
its text. A release advances to the very next one as far as there is one, and so does a version
number, of which development stays. -/
theorem registers_advance :
    (∀ start steps, Reached (runAll start steps) (runAllStored start.stored steps)) ∧
      Advances ReleaseVersion.next (fun v => v.minor < 2147483647) ∧
      Advances VersionNumber.increment (fun n => ∃ v, n = .release v ∧ v.minor < 2147483647) ∧
      (∀ v n, (ReleaseVersion.next^[n] v).major = v.major ∧
        (ReleaseVersion.next^[n] v).minor = Min.min (v.minor + n) 2147483647 ∧
        VersionNumber.increment^[n] (.release v) = .release (ReleaseVersion.next^[n] v)) ∧
      (∀ n, VersionNumber.increment^[n] .development = .development) ∧
      (∀ v w, ReleaseVersion.latest v w = Max.max v w) ∧
      ∀ a b : VersionNumber, a.max b = Max.max a b ∧ a.min b = Min.min a b := by
  refine ⟨reached_runAll, ReleaseVersion.advances_next, VersionNumber.advances_increment, ?_,
    VersionNumber.iterate_increment_development, ReleaseVersion.latest_eq_max,
    fun a b => ⟨a.max_eq b, a.min_eq b⟩⟩
  intro v n
  exact ⟨(v.iterate_next n).1, (v.iterate_next n).2, VersionNumber.iterate_increment_release v n⟩

end VersionStep

end ReleaseLine
