import ReleaseLine.Decimal

/-!
Release versions. A release is tagged `major.minor`; a build without a release number is the
development version, which sorts above every release and never advances. Components are read and
advanced in words of 32 bits. The bound on both is part of the type, and keeps the words from
running over.
-/

namespace ReleaseLine

def maxComponent : Nat := 2147483647

@[ext]
structure ReleaseVersion where
  major : Nat
  minor : Nat
  major_le : major ≤ maxComponent
  minor_le : minor ≤ maxComponent
deriving DecidableEq

inductive VersionError where
  /-- The text is not two numerals within bounds around one dot. -/
  | malformed (text : String)
  | majorOutOfRange (value : Int)
  | minorOutOfRange (value : Int)
deriving DecidableEq, Inhabited

/-- The text of the error; a malformed version is shown as it was given. -/
def VersionError.message : VersionError → String
  | .malformed text => text
  | .majorOutOfRange value => "majorVersion " ++ toString value
  | .minorOutOfRange value => "minorVersion " ++ toString value

theorem toNat_ofNat_of_le {n : Nat} (h : n ≤ maxComponent) : (UInt32.ofNat n).toNat = n :=
  UInt32.toNat_ofNat_of_lt' (Nat.lt_of_le_of_lt h (by decide))

namespace ReleaseVersion

/-- A component within bounds, as a natural number. -/
def component? (value : Int) : Option { n : Nat // n ≤ maxComponent } :=
  if h : 0 ≤ value ∧ value ≤ maxComponent then some ⟨value.toNat, by omega⟩ else none

/-- Build a release from two integers; the major component is judged first. -/
def of (major minor : Int) : Except VersionError ReleaseVersion :=
  match component? major, component? minor with
  | none, _ => .error (.majorOutOfRange major)
  | some _, none => .error (.minorOutOfRange minor)
  | some a, some b => .ok ⟨a, b, a.2, b.2⟩

/-- Read one half of a version: ASCII digits only, any number of leading zeros. -/
def readComponent? (digits : List Char) : Option { n : Nat // n ≤ maxComponent } :=
  match Decimal.readWord? digits with
  | none => none
  | some word => if h : word.toNat ≤ maxComponent then some ⟨word.toNat, h⟩ else none

/-- Read the two halves around the only dot. -/
def ofChars? (text : List Char) : Option ReleaseVersion :=
  match text.span (· ≠ '.') with
  | (major, '.' :: minor) =>
    match readComponent? major, readComponent? minor with
    | some a, some b => some ⟨a, b, a.2, b.2⟩
    | _, _ => none
  | _ => none

def parse (text : String) : Except VersionError ReleaseVersion :=
  match ofChars? text.toList with
  | some version => .ok version
  | none => .error (.malformed text)

/-- The reading of a release as that of any value that is written as text. -/
def ofString (text : String) : Except VersionError ReleaseVersion := parse text

def toChars (v : ReleaseVersion) : List Char :=
  Decimal.numeral v.major ++ '.' :: Decimal.numeral v.minor

def render (v : ReleaseVersion) : String := String.ofList v.toChars

def minorWord (v : ReleaseVersion) : UInt32 := UInt32.ofNat v.minor

/-- The word after one that holds a component; the last component is its own successor. -/
def succWord (component : UInt32) : UInt32 := min (component + 1) 2147483647

theorem toNat_succWord (component : UInt32) :
    (succWord component).toNat = min (component + 1).toNat maxComponent := by
  change (if component + 1 ≤ 2147483647 then component + 1 else 2147483647).toNat = _
  split
  · rename_i h
    exact (Nat.min_eq_left (UInt32.le_iff_toNat_le.mp h)).symm
  · rename_i h
    exact (Nat.min_eq_right (Nat.le_of_not_le (mt UInt32.le_iff_toNat_le.mpr h))).symm

def next (v : ReleaseVersion) : ReleaseVersion where
  major := v.major
  minor := (succWord v.minorWord).toNat
  major_le := v.major_le
  minor_le := by
    rw [toNat_succWord]
    exact Nat.min_le_right _ _

theorem toNat_minorWord (v : ReleaseVersion) : v.minorWord.toNat = v.minor :=
  toNat_ofNat_of_le v.minor_le

theorem toNat_minorWord_succ (v : ReleaseVersion) : (v.minorWord + 1).toNat = v.minor + 1 := by
  have hlt : v.minor + 1 < 2 ^ 32 := Nat.lt_of_le_of_lt (Nat.succ_le_succ v.minor_le) (by decide)
  rw [UInt32.toNat_add, toNat_minorWord]
  exact Nat.mod_eq_of_lt hlt

@[simp] theorem next_major (v : ReleaseVersion) : v.next.major = v.major := rfl

@[simp] theorem next_minor (v : ReleaseVersion) :
    v.next.minor = min (v.minor + 1) maxComponent := by
  rw [← toNat_minorWord_succ]
  exact toNat_succWord v.minorWord

/-- Major components first, then minor ones, both as numbers. -/
instance : Ord ReleaseVersion where
  compare a b := (compare a.major b.major).then (compare a.minor b.minor)

def latest (a b : ReleaseVersion) : ReleaseVersion := if compare a b = .gt then a else b

end ReleaseVersion

/-- A release, or the sentinel of a build that has no release number. -/
inductive VersionNumber where
  | release (version : ReleaseVersion)
  | development
deriving DecidableEq

namespace VersionNumber

/-- Read a release; the development version has no written form that is read back. -/
def parse (text : String) : Except VersionError VersionNumber :=
  (ReleaseVersion.parse text).map .release

def render : VersionNumber → String
  | .release version => version.render
  | .development => "development"

/-- Advance a release; the development version stays. -/
def increment : VersionNumber → VersionNumber
  | .release version => .release version.next
  | .development => .development

def release? : VersionNumber → Option ReleaseVersion
  | .release version => some version
  | .development => none

/-- The development version comes after every release. -/
instance : Ord VersionNumber where
  compare
    | .development, .development => .eq
    | .development, .release _ => .gt
    | .release _, .development => .lt
    | .release a, .release b => compare a b

/-- Any two versions can be compared. -/
def partialCompare (a b : VersionNumber) : Option Ordering := some (compare a b)

def isLess (a b : VersionNumber) : Bool := a.partialCompare b = some .lt

def isAtMost (a b : VersionNumber) : Bool := (a.partialCompare b).any Ordering.isLE

def isGreater (a b : VersionNumber) : Bool := a.partialCompare b = some .gt

def isAtLeast (a b : VersionNumber) : Bool := (a.partialCompare b).any Ordering.isGE

def max (a b : VersionNumber) : VersionNumber := if compare a b = .gt then a else b

def min (a b : VersionNumber) : VersionNumber := if compare a b = .gt then b else a

def sort (versions : List VersionNumber) : List VersionNumber :=
  versions.mergeSort fun a b => compare a b ≠ .gt

end VersionNumber

end ReleaseLine
