import ReleaseLine.Listing

namespace ReleaseLine

namespace Json.Reader

variable {α β σ : Type}

/-- Whatever a reader gives has a property. -/
def Yields (reader : Reader α) (P : α → Prop) : Prop :=
  ∀ bound bytes a rest, reader bound bytes = .ok a rest → P a

theorem yields_pure {P : α → Prop} {a : α} (h : P a) : Yields (pure a : Reader α) P := by
  intro bound bytes b rest hread
  cases hread
  exact h

theorem yields_bind {reader : Reader α} {next : α → Reader β} {P : α → Prop} {Q : β → Prop}
    (hreader : Yields reader P) (hnext : ∀ a, P a → Yields (next a) Q) :
    Yields (reader >>= next) Q := by
  intro bound bytes b rest hread
  change EStateM.bind (reader bound) (fun a => next a bound) bytes = .ok b rest at hread
  unfold EStateM.bind at hread
  cases hfirst : reader bound bytes with
  | ok a later =>
      rw [hfirst] at hread
      exact hnext a (hreader bound bytes a later hfirst) bound later b rest hread
  | error fault later =>
      rw [hfirst] at hread
      cases hread

theorem yields_then {reader : Reader α} {next : α → Reader β} {Q : β → Prop}
    (hnext : ∀ a, Yields (next a) Q) : Yields (reader >>= next) Q :=
  yields_bind (P := fun _ => True) (fun _ _ _ _ _ => trivial) fun a _ => hnext a

theorem yields_failUnplaced {reason : Reason} {P : α → Prop} :
    Yields (failUnplaced reason : Reader α) P := by
  intro bound bytes a rest hread
  cases hread

theorem yields_failHere {reason : Reason} {P : α → Prop} :
    Yields (failHere reason : Reader α) P := by
  intro bound bytes a rest hread
  cases hread

theorem yields_failNext {reason : Reason} {P : α → Prop} :
    Yields (failNext reason : Reader α) P := by
  intro bound bytes a rest hread
  cases hread

theorem yields_ite {c : Prop} [Decidable c] {yes no : Reader α} {P : α → Prop}
    (hyes : c → Yields yes P) (hno : ¬ c → Yields no P) : Yields (if c then yes else no) P := by
  split
  · exact hyes ‹_›
  · exact hno ‹_›

theorem yields_placed {reader : Reader α} {P : α → Prop} (h : Yields reader P) :
    Yields (placed reader) P := by
  intro bound bytes a rest hread
  unfold placed at hread
  split at hread
  · rename_i hfirst
    cases hread
    exact h _ _ _ _ hfirst
  · cases hread
  · cases hread

theorem yields_closedBy {body : Reader α} {closing : Reader Unit} {P : α → Prop}
    (h : Yields body P) : Yields (closedBy body closing) P := by
  intro bound bytes a rest hread
  unfold closedBy at hread
  split at hread
  · rename_i hfirst
    split at hread
    · cases hread
      exact h _ _ _ _ hfirst
    · cases hread
  · split at hread <;> cases hread

/-- A loop yields what its last step yields, as long as each step keeps an invariant. -/
theorem yields_loop {step : σ → Reader (σ ⊕ α)} {start : σ} {I : σ → Prop} {P : α → Prop}
    (hstart : I start) (hstep : ∀ state, I state → Yields (step state) (Sum.elim I P)) :
    Yields (loop step start) P := by
  have hiterate (n : Nat) : ∀ state, I state → Yields (iterate step n state) P := by
    induction n with
    | zero =>
        intro state _
        exact yields_failHere
    | succ n ih =>
        intro state hstate
        refine yields_bind (hstep state hstate) ?_
        rintro (state | result) hresult
        · exact ih state hresult
        · exact yields_pure hresult
  exact yields_then fun bound => hiterate (bound + 1) start hstart

/-- A natural number fits 64 bits. -/
def Number.Fits : Number → Prop
  | .natural n => n < UInt64.size
  | .negative _ | .float _ => True

theorem yields_float {x : Float} : Yields (pure (.float x)) Number.Fits :=
  yields_pure trivial

theorem yields_floatOf (positive : Bool) (significand : Nat) (exponent : Int) :
    Yields (floatOf positive significand exponent) Number.Fits := by
  unfold floatOf
  dsimp only
  split
  · exact yields_then fun _ => yields_float
  · split
    · split
      · exact yields_then fun _ => yields_float
      · exact yields_then fun _ => yields_float
    · split
      · exact yields_then fun _ => yields_float
      · exact yields_then fun _ => yields_float

theorem yields_exponent (positive : Bool) (significand : Nat) (start : Int) :
    Yields (exponent positive significand start) Number.Fits := by
  unfold exponent
  refine yields_then fun _ => yields_then fun sign => ?_
  dsimp only
  split
  all_goals
    repeat refine yields_then fun _ => ?_
    split
    · exact yields_failHere
    · refine yields_ite (fun _ => yields_then fun _ => ?_) fun _ => yields_failHere
      refine yields_ite (fun _ => ?_) fun _ => yields_floatOf _ _ _
      exact yields_ite (fun _ => yields_failHere) fun _ => yields_then fun _ => yields_float

theorem yields_decimals (positive : Bool) (significand : Nat) (start : Int) :
    Yields (decimals positive significand start) Number.Fits := by
  have hend {significand : Nat} {places : Nat} : Yields (do
      if isExponentMark (← peek) then exponent positive significand (start - places)
      else floatOf positive significand (start - places)) Number.Fits :=
    yields_then fun _ => yields_ite (fun _ => yields_exponent _ _ _) fun _ => yields_floatOf _ _ _
  unfold decimals
  refine yields_then fun _ => yields_then fun read => ?_
  refine yields_ite (fun _ => yields_then fun _ => hend) fun _ =>
    yields_ite (fun _ => ?_) fun _ => hend
  refine yields_then fun _ => ?_
  split
  · exact yields_then fun _ => hend
  · exact yields_then fun _ => hend

theorem yields_longNumber (positive : Bool) (significand : Nat) :
    Yields (longNumber positive significand) Number.Fits := by
  unfold longNumber
  refine yields_then fun _ => yields_then fun _ => yields_then fun _ => yields_then fun _ => ?_
  split
  · exact yields_decimals _ _ _
  · exact yields_ite (fun _ => yields_exponent _ _ _) fun _ => yields_floatOf _ _ _

theorem yields_afterWhole (positive : Bool) {significand : Nat} (h : significand < UInt64.size) :
    Yields (afterWhole positive significand) Number.Fits := by
  unfold afterWhole
  refine yields_then fun _ => ?_
  split
  · exact yields_decimals _ _ _
  · refine yields_ite (fun _ => yields_exponent _ _ _) fun _ => ?_
    refine yields_ite (fun _ => yields_pure h) fun _ => ?_
    exact yields_ite (fun _ => yields_float) fun _ => yields_pure trivial

theorem digitValue_lt {b : UInt8} : digitValue b < UInt64.size := by
  have hb : b.toNat < 256 := b.toNat_lt
  unfold digitValue
  simp only [UInt64.size]
  omega

theorem yields_number (positive : Bool) : Yields (number positive) Number.Fits := by
  unfold number
  refine yields_then fun _ => ?_
  split
  · exact yields_failHere
  · refine yields_ite (fun _ => yields_then fun _ => ?_) fun _ =>
      yields_ite (fun _ => ?_) fun _ => yields_failHere
    · exact yields_ite (fun _ => yields_failNext) fun _ => yields_afterWhole _ (by decide)
    · refine yields_bind (P := fun read => read.1 < UInt64.size) ?_ ?_
      · refine yields_loop (I := (· < UInt64.size)) digitValue_lt fun significand hfits => ?_
        refine yields_then fun _ => ?_
        split
        · refine yields_ite (fun _ => ?_) fun _ => yields_pure hfits
          refine yields_ite (fun _ => yields_pure hfits) fun hle => yields_then fun _ => ?_
          have hlt : UInt64.size - 1 < UInt64.size := by decide
          exact yields_pure (Nat.lt_of_le_of_lt (Nat.le_of_not_lt hle) hlt)
        · exact yields_pure hfits
      · intro read hfits
        exact yields_ite (fun _ => yields_longNumber _ _) fun _ => yields_afterWhole _ hfits

theorem yields_signedNumber : Yields signedNumber Number.Fits := by
  unfold signedNumber
  refine yields_then fun _ => ?_
  exact yields_ite (fun _ => yields_then fun _ => yields_number _) fun _ => yields_number _

theorem yields_wrongType {expected : String} {P : α → Prop} :
    Yields (wrongType expected : Reader α) P := by
  unfold wrongType
  refine yields_placed (yields_then fun _ => ?_)
  dsimp only
  split
  · exact yields_then fun _ => yields_then fun _ => yields_failUnplaced
  · exact yields_then fun _ => yields_then fun _ => yields_failUnplaced
  · exact yields_then fun _ => yields_then fun _ => yields_failUnplaced
  · exact yields_then fun _ => yields_then fun _ => yields_failUnplaced
  · exact yields_failUnplaced
  · exact yields_failUnplaced
  · exact yields_ite (fun _ => yields_then fun _ => yields_failUnplaced) fun _ => yields_failNext
  · exact yields_failNext

theorem yields_identifierReader : Yields identifierReader (· < UInt64.size) := by
  unfold identifierReader
  refine yields_placed (yields_then fun _ => yields_ite (fun _ => ?_) fun _ => yields_wrongType)
  refine yields_bind yields_signedNumber ?_
  rintro (n | n | x) hfits
  · exact yields_pure hfits
  · exact yields_failUnplaced
  · exact yields_failUnplaced

theorem yields_recordReader {type name : String} {value : Reader α} {P : α → Prop}
    (h : Yields value P) : Yields (recordReader type name value) P := by
  unfold recordReader
  refine yields_placed (yields_then fun _ => ?_)
  split
  · refine yields_closedBy (yields_then fun _ => yields_then fun _ => ?_)
    exact yields_ite (fun _ => h) fun _ => yields_failUnplaced
  · refine yields_closedBy (yields_then fun _ => ?_)
    refine yields_loop (I := fun state => ∀ a ∈ state.2, P a) (by simp) ?_
    rintro ⟨first, read⟩ hread
    refine yields_then fun _ => yields_ite (fun _ => ?_) fun _ => ?_
    · refine yields_then fun _ => yields_then fun key => yields_ite (fun _ => ?_) fun _ => ?_
      · dsimp only
        have hvalue : Yields (do
            colon
            return Sum.inl (false, some (← value)))
            (Sum.elim (fun state => ∀ a ∈ state.2, P a) P) :=
          yields_then fun _ => yields_bind h fun a ha => yields_pure (by simpa using ha)
        exact yields_ite (fun _ => yields_then fun _ => hvalue) fun _ => hvalue
      · refine yields_then fun _ => yields_then fun _ => yields_pure hread
    · cases read with
      | none => exact yields_failUnplaced
      | some a => exact yields_pure (hread a rfl)
  · exact yields_wrongType

theorem Yields.of_run {reader : Reader α} {P : α → Prop} {bytes : List UInt8} {a : α}
    (h : Yields reader P) (hrun : run reader bytes = .ok a) : P a := by
  have hwhole : Yields (whole reader) P := by
    unfold whole
    refine yields_bind h fun a ha => yields_then fun _ => ?_
    split
    · exact yields_pure ha
    · exact yields_failNext
  unfold run at hrun
  split at hrun
  · rename_i hread
    cases hrun
    exact hwhole _ _ _ _ hread
  · cases hrun

end Json.Reader

theorem Listing.createdId_lt {body : String} {n : Nat} (h : createdId body = .ok n) :
    n < UInt64.size :=
  (Json.Reader.yields_recordReader Json.Reader.yields_identifierReader).of_run h

end ReleaseLine
