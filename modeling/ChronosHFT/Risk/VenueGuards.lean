import ChronosHFT.Oms.GuardCleanup

/-!
# The venue guards of the risk manager

`_freeze_venue` and `_recover_venue_if_stable` of `risk/scope_guards.py`.  The risk manager
freezes a venue in the OMS and remembers the reason and the epoch of the guard, so that it can
clear exactly this guard once the venue has been healthy for long enough.

There is one slot for each venue.  A freeze for another cause takes the slot over, and a recovery
empties it before the OMS has answered; the OMS keeps a guard for each owner all the same.
`placed` remembers the guards that the risk manager put into the OMS.  What is lost is what the
OMS still holds of them and the slot does not name (`System.Coherent`), and `System.Careful` says
of each call when that cannot happen.

The OMS is the guard state of `Oms.Guards`, and everyone else may work on it in between.
-/

namespace ChronosHFT.Risk.VenueGuards

open Oms

/-! ## The two sides -/

/-- `_risk_symbol_guard_owner`: the reason up to its first colon. -/
def riskGuardOwner (reason : String) : String := (Text.split ':' reason).headD ""

/-- The venue fields of `RiskScopeGuardController`. -/
structure ScopeGuards where
  frozenVenues : Dict String String := ∅
  venueFreezeEpochs : Dict String ℤ := ∅
  venueRecoveryByVenue : Dict String ℕ := ∅
deriving DecidableEq

/-- What becomes of a call of `oms.freeze_venue`. -/
inductive FreezeAnswer where
  /-- The guard is placed and its epoch is answered. -/
  | epoch
  /-- The guard is placed and `None` is answered. -/
  | noEpoch
  /-- The call raises before the guard is placed. -/
  | raisesBefore
  /-- The guard is placed, and the call raises. -/
  | raisesAfter
deriving DecidableEq, Repr

/-- What becomes of a call of `oms.clear_venue_freeze`. -/
inductive ClearAnswer where
  | answers
  /-- The clear is done, and the call raises. -/
  | raisesAfter
  /-- Nothing is done, and `False` is answered. -/
  | refuses
  /-- Nothing is done, and the call raises. -/
  | raisesBefore
deriving DecidableEq, Repr

/-- The OMS does what it is asked to. -/
def ClearAnswer.clears : ClearAnswer → Bool
  | answers => true
  | raisesAfter => true
  | refuses => false
  | raisesBefore => false

/-- The risk manager, the guards of the OMS, and the venue guards that the first put into the
second. -/
structure System where
  risk : ScopeGuards := {}
  oms : GuardState
  placed : List (String × GuardEntry) := []
deriving DecidableEq

/-- The reason the OMS keeps of a freeze. -/
def omsReason (reason : String) : String := orElse reason "venue_guarded"

/-- The epoch that `freeze_venue` answers. -/
def freezeVenueEpoch (oms : GuardState) (venue reason : String) : ℤ :=
  match (oms.venues.install .venue (oms.venueName venue) (omsReason reason)).2 with
  | .frozen _ _ _ _ _ epoch => epoch
  | _ => 0

namespace ScopeGuards

/-- `self.venue_freeze_epochs[venue] = epoch`, or the epoch is dropped. -/
def trackEpoch (risk : ScopeGuards) (venue : String) : Option ℤ → ScopeGuards
  | some epoch => { risk with venueFreezeEpochs := risk.venueFreezeEpochs.set venue epoch }
  | none => { risk with venueFreezeEpochs := risk.venueFreezeEpochs.erase venue }

/-- The slot of a venue is taken. -/
def takeSlot (risk : ScopeGuards) (venue reason : String) : ScopeGuards :=
  { risk with
    frozenVenues := risk.frozenVenues.set venue reason
    venueRecoveryByVenue := risk.venueRecoveryByVenue.set venue 0 }

/-- The slot of a venue is emptied. -/
def dropSlot (risk : ScopeGuards) (venue : String) : ScopeGuards :=
  { frozenVenues := risk.frozenVenues.erase venue
    venueFreezeEpochs := risk.venueFreezeEpochs.erase venue
    venueRecoveryByVenue := risk.venueRecoveryByVenue.set venue 0 }

end ScopeGuards

namespace System

/-- A guard of the venue is placed in the OMS. -/
def place (s : System) (venue reason : String) : System :=
  { s with
    oms := s.oms.freezeVenue venue reason
    placed := s.placed ++ [(venue, ⟨omsReason reason, freezeVenueEpoch s.oms venue reason⟩)] }

/-- The epoch that `_freeze_venue` looks up when `freeze_venue` answers `None`. -/
def lookUpEpoch (s : System) (venue reason : String) : Option ℤ :=
  if s.oms.venues.guards.getD venue "" = reason then some (s.oms.venues.epochs.getD venue 0)
  else none

/-- `_freeze_venue`. -/
def freezeVenue (s : System) (venue reason : String) (answer : FreezeAnswer) : System :=
  if venue = "" then s
  else
    let venue := venue.toUpper
    let existingReason := s.risk.frozenVenues.getD venue ""
    if existingReason ≠ "" ∧ riskGuardOwner existingReason = riskGuardOwner reason then s
    else
      let risk := s.risk.takeSlot venue reason
      let after := s.place venue reason
      match answer with
      | .epoch =>
        { after with risk := risk.trackEpoch venue (some (freezeVenueEpoch s.oms venue reason)) }
      | .noEpoch => { after with risk := risk.trackEpoch venue (after.lookUpEpoch venue reason) }
      | .raisesAfter => { after with risk := risk.trackEpoch venue none }
      | .raisesBefore => { s with risk := risk.trackEpoch venue none }

/-- The venue a recovery is about. -/
def recoveredVenue (venue : String) : String := (orElse venue "UNKNOWN").toUpper

/-- The clear that a recovery asks the OMS for. -/
def clearVenue (s : System) (venue frozenReason : String) (expectedEpoch : Option ℤ)
    (answer : ClearAnswer) : System :=
  match expectedEpoch with
  | none => s
  | some epoch =>
    if answer.clears then
      { s with oms := s.oms.clearVenueFreeze venue (some epoch) (some frozenReason) "" }
    else s

/-- `_recover_venue_if_stable`; `head` is the prefix of the reasons that have recovered. -/
def recoverVenueIfStable (updates : ℕ) (s : System) (venue head : String)
    (answer : ClearAnswer) :
    System :=
  let venue := recoveredVenue venue
  let frozenReason := s.risk.frozenVenues.getD venue ""
  if ¬head.toList.isPrefixOf frozenReason.toList then s
  else
    let stableUpdates := s.risk.venueRecoveryByVenue.getD venue 0 + 1
    if stableUpdates < updates then
      { s with
        risk :=
          { s.risk with
            venueRecoveryByVenue := s.risk.venueRecoveryByVenue.set venue stableUpdates } }
    else
      ({ s with risk := s.risk.dropSlot venue }).clearVenue venue frozenReason
        (s.risk.venueFreezeEpochs.get? venue) answer

end System

/-- What happens: a freeze, a healthy update, an unhealthy one, or something else that the guards
of the OMS see. -/
inductive Action where
  | freeze (venue reason : String) (answer : FreezeAnswer)
  | recover (venue head : String) (answer : ClearAnswer)
  | breach (venue : String)
  | other (op : GuardOp)
deriving DecidableEq

/-- One step; `updates` is `venue_freeze_recovery_updates`. -/
def step (updates : ℕ) (s : System) : Action → Option System
  | .freeze venue reason answer => some (s.freezeVenue venue reason answer)
  | .recover venue head answer => some (s.recoverVenueIfStable updates venue head answer)
  | .breach venue =>
    some { s with
      risk :=
        { s.risk with venueRecoveryByVenue := s.risk.venueRecoveryByVenue.set venue 0 } }
  | .other op => some { s with oms := s.oms.apply op }

/-- A risk manager and an OMS without guards. -/
def initial (gatewayName : String) : System := { oms := GuardState.fresh gatewayName }

/-! ## When nothing is lost -/

namespace System

/-- The OMS still holds a guard that the risk manager placed. -/
def Outstanding (s : System) (venue : String) (entry : GuardEntry) : Prop :=
  (venue, entry) ∈ s.placed ∧ ∃ owner, s.oms.venues.Holds venue owner entry

/-- The slot of the venue names the guard. -/
def Tracks (s : System) (venue : String) (entry : GuardEntry) : Prop :=
  s.risk.frozenVenues.get? venue = some entry.reason ∧
    s.risk.venueFreezeEpochs.get? venue = some entry.epoch

/-- **Coherence**: what the OMS still holds of the placed guards is tracked.  The other two parts
say that an epoch is never given out twice. -/
structure Coherent (s : System) : Prop where
  sound : s.oms.Sound
  older : ∀ venue entry, (venue, entry) ∈ s.placed →
    entry.epoch ≤ s.oms.venues.counters.getD venue 0
  tracked : ∀ venue entry, s.Outstanding venue entry → s.Tracks venue entry

/-- The calls that lose nothing.  A freeze that takes the slot has a reason, its answer lets the
epoch be known, and no guard of the venue is outstanding that the OMS would keep beside the new
one. A recovery that empties the slot of an outstanding guard gets the OMS to clear it. -/
def Careful (updates : ℕ) (s : System) : Action → Prop
  | .freeze venue reason answer =>
    venue ≠ "" →
    ¬(s.risk.frozenVenues.getD venue.toUpper "" ≠ "" ∧
      riskGuardOwner (s.risk.frozenVenues.getD venue.toUpper "") = riskGuardOwner reason) →
    reason ≠ "" ∧ answer ≠ .raisesAfter ∧
      ∀ entry owner, (venue.toUpper, entry) ∈ s.placed →
        s.oms.venues.Holds venue.toUpper owner entry →
          answer ≠ .raisesBefore ∧ owner = venueGuardOwner reason
  | .recover venue head answer =>
    head.toList.isPrefixOf
      (s.risk.frozenVenues.getD (recoveredVenue venue) "").toList = true →
    updates ≤ s.risk.venueRecoveryByVenue.getD (recoveredVenue venue) 0 + 1 →
    (∃ entry, s.Outstanding (recoveredVenue venue) entry) → answer.clears = true
  | _ => True

end System

/-! ## What the OMS does -/

section Oms

variable {oms : GuardState}

theorem counters_putOwners (book : GuardBook) (name : String) (owners : GuardOwners) :
    (book.putOwners name owners).counters = book.counters := by
  unfold GuardBook.putOwners GuardBook.refreshEffective
  dsimp only
  split <;> rfl

/-- **A freeze in the OMS**: the guard of its owner is replaced by one with a new highest epoch,
and the other guards stay. -/
theorem freezeVenue_spec (hs : oms.Sound) (venue reason : String) :
    oms.venues.counters.getD (oms.venueName venue) 0 < freezeVenueEpoch oms venue reason ∧
      (oms.freezeVenue venue reason).venues.counters =
        oms.venues.counters.set (oms.venueName venue) (freezeVenueEpoch oms venue reason) ∧
      (oms.freezeVenue venue reason).venues.ownersOf (oms.venueName venue) =
        (oms.venues.ownersOf (oms.venueName venue)).set (venueGuardOwner (omsReason reason))
          ⟨omsReason reason, freezeVenueEpoch oms venue reason⟩ ∧
      (∀ owner entry, oms.venues.Holds (oms.venueName venue) owner entry →
        entry.epoch < freezeVenueEpoch oms venue reason) ∧
      ∀ name, name ≠ oms.venueName venue →
        (oms.freezeVenue venue reason).venues.ownersOf name = oms.venues.ownersOf name := by
  obtain ⟨howners, hcounters, -, hsame⟩ :=
    GuardBook.ensureRecords_spec hs.venues.effective .venue (oms.venueName venue)
  unfold freezeVenueEpoch GuardState.freezeVenue
  show _ ∧ (oms.venues.install .venue (oms.venueName venue) (omsReason reason)).1.counters = _ ∧
    (oms.venues.install .venue (oms.venueName venue) (omsReason reason)).1.ownersOf _ = _ ∧ _ ∧
    ∀ name, _ → (oms.venues.install .venue (oms.venueName venue) (omsReason reason)).1.ownersOf
      name = _
  unfold GuardBook.install
  generalize oms.venues.ensureRecords .venue (oms.venueName venue) = ensured
    at howners hcounters hsame ⊢
  obtain ⟨ensuredBook, owners⟩ := ensured
  dsimp only at howners hcounters hsame ⊢
  obtain ⟨habove, hnew⟩ := ensuredBook.lt_nextEpoch (oms.venueName venue) owners
  generalize ensuredBook.nextEpoch (oms.venueName venue) owners = epoch at habove hnew ⊢
  rw [hcounters] at habove
  subst howners
  refine ⟨habove, ?_, ?_, fun owner entry hget => hnew owner entry hget, fun name hname => ?_⟩
  · rw [counters_putOwners, hcounters]
  · rw [GuardBook.ownersOf_putOwners, if_pos rfl]
    rfl
  · rw [GuardBook.ownersOf_putOwners, if_neg hname]
    exact hsame name

/-- Who holds a venue after a freeze. -/
theorem holds_freezeVenue_iff (hs : oms.Sound) (venue reason name owner : String)
    (entry : GuardEntry) :
    (oms.freezeVenue venue reason).venues.Holds name owner entry ↔
      if name = oms.venueName venue ∧ owner = venueGuardOwner (omsReason reason) then
        entry = ⟨omsReason reason, freezeVenueEpoch oms venue reason⟩
      else oms.venues.Holds name owner entry := by
  obtain ⟨-, -, howners, -, hsame⟩ := freezeVenue_spec hs venue reason
  unfold GuardBook.Holds
  by_cases hname : name = oms.venueName venue
  · subst hname
    rw [howners, Dict.get?_set]
    by_cases howner : owner = venueGuardOwner (omsReason reason)
    · rw [if_pos howner, if_pos ⟨rfl, howner⟩, Option.some.injEq, eq_comm]
    · rw [if_neg howner, if_neg fun h => howner h.2]
  · rw [hsame name hname, if_neg fun h => hname h.1]

/-- The guard just placed is the one in effect. -/
theorem newest_freezeVenue (hs : oms.Sound) (venue reason : String) :
    (oms.freezeVenue venue reason).venues.guards.get? (oms.venueName venue) =
        some (omsReason reason) ∧
      (oms.freezeVenue venue reason).venues.epochs.get? (oms.venueName venue) =
        some (freezeVenueEpoch oms venue reason) := by
  have hafter : (oms.freezeVenue venue reason).Sound := hs.apply (.freezeVenue venue reason)
  have hheld : (oms.freezeVenue venue reason).venues.Holds (oms.venueName venue)
      (venueGuardOwner (omsReason reason))
      ⟨omsReason reason, freezeVenueEpoch oms venue reason⟩ := by
    rw [holds_freezeVenue_iff hs, if_pos ⟨rfl, rfl⟩]
  obtain ⟨hexists, hmax⟩ := hafter.effective_spec .venue (oms.venueName venue)
  obtain ⟨reason', hreason'⟩ := hexists.mpr ⟨_, _, hheld⟩
  obtain ⟨owner, epoch, hepoch, hget, hall⟩ := hmax reason' hreason'
  -- no older guard can be in effect
  have hle : freezeVenueEpoch oms venue reason ≤ epoch := hall _ _ hheld
  have hentry : (⟨reason', epoch⟩ : GuardEntry) =
      ⟨omsReason reason, freezeVenueEpoch oms venue reason⟩ := by
    have hget' := (holds_freezeVenue_iff hs venue reason _ owner ⟨reason', epoch⟩).mp hget
    split at hget'
    · exact hget'
    · have hold := (freezeVenue_spec hs venue reason).2.2.2.1 owner _ hget'
      exact absurd hold hle.not_gt
  cases hentry
  exact ⟨hreason', hepoch⟩

theorem venues_clearSymbolFreeze (oms : GuardState) (symbol : String) (expectedEpoch : Option ℤ)
    (expectedReason expectedOwner : String) :
    (oms.clearSymbolFreeze symbol expectedEpoch expectedReason expectedOwner).venues =
      oms.venues := by
  unfold GuardState.clearSymbolFreeze
  split <;> rfl

theorem counters_clear (hs : oms.Sound) (name expectedOwner : String) (unconditional : Bool)
    (accepts : GuardEntry → Bool) :
    (oms.venues.clear .venue name expectedOwner unconditional accepts).1.counters =
      oms.venues.counters := by
  obtain ⟨-, hcounters, -, -⟩ :=
    GuardBook.ensureRecords_spec hs.venues.effective .venue name
  unfold GuardBook.clear
  generalize oms.venues.ensureRecords .venue name = ensured at hcounters ⊢
  obtain ⟨ensuredBook, owners⟩ := ensured
  dsimp only at hcounters ⊢
  split
  · rw [counters_putOwners]
    exact hcounters
  · exact hcounters

/-- **Anyone's operation**: an epoch that was given out is not given out again, and whatever
guard is new has a newer epoch. -/
theorem venues_apply (hs : oms.Sound) (op : GuardOp) :
    (∀ name, oms.venues.counters.getD name 0 ≤ (oms.apply op).venues.counters.getD name 0) ∧
      ∀ name owner entry, (oms.apply op).venues.Holds name owner entry →
        oms.venues.Holds name owner entry ∨ oms.venues.counters.getD name 0 < entry.epoch := by
  have hsame : ∀ {oms' : GuardState}, oms'.venues = oms.venues →
      (∀ name, oms.venues.counters.getD name 0 ≤ oms'.venues.counters.getD name 0) ∧
        ∀ name owner entry, oms'.venues.Holds name owner entry →
          oms.venues.Holds name owner entry ∨ oms.venues.counters.getD name 0 < entry.epoch := by
    intro oms' hvenues
    rw [hvenues]
    exact ⟨fun _ => le_rfl, fun _ _ _ h => .inl h⟩
  cases op with
  | freezeSymbol symbol reason =>
    refine hsame ?_
    show (oms.freezeSymbol symbol reason).venues = _
    unfold GuardState.freezeSymbol
    split <;> rfl
  | clearSymbolFreeze symbol expectedEpoch expectedReason expectedOwner =>
    exact hsame (venues_clearSymbolFreeze oms symbol expectedEpoch expectedReason expectedOwner)
  | clearOrderbookFreeze symbol recoveryToken =>
    refine hsame ?_
    show (oms.clearOrderbookFreeze symbol recoveryToken).venues = _
    unfold GuardState.clearOrderbookFreeze
    dsimp only
    split
    · rfl
    · split
      · exact venues_clearSymbolFreeze _ _ _ _ _
      · rfl
  | freezeVenue venue reason =>
    obtain ⟨habove, hcounters, -, -, -⟩ := freezeVenue_spec hs venue reason
    show (∀ name, _ ≤ (oms.freezeVenue venue reason).venues.counters.getD name 0) ∧ _
    rw [hcounters]
    constructor
    · intro name
      rw [Dict.getD_set]
      split
      · next hname => exact hname ▸ habove.le
      · exact le_rfl
    · intro name owner entry hget
      have hget' := (holds_freezeVenue_iff hs venue reason name owner entry).mp hget
      split at hget'
      · next hnew =>
        rw [hget', hnew.1]
        exact .inr habove
      · exact .inl hget'
  | clearVenueFreeze venue expectedEpoch expectedReason expectedOwner =>
    obtain ⟨-, hsub⟩ := hs.venues.clear_subset (oms.venueName venue) expectedOwner
      (decide (expectedOwner = "" ∧ expectedReason = none ∧ expectedEpoch = none))
      (fun entry => decide ((expectedReason = none ∨ expectedReason = some entry.reason) ∧
        (expectedEpoch = none ∨ expectedEpoch = some entry.epoch)))
    refine ⟨fun name => ?_, fun name owner entry h => .inl (hsub name owner entry h)⟩
    show _ ≤ (oms.clearVenueFreeze venue expectedEpoch expectedReason
      expectedOwner).venues.counters.getD name 0
    exact (congrArg (fun counters => Dict.getD counters name 0)
      (counters_clear hs (oms.venueName venue) expectedOwner _ _)).ge
  | freezeStrategy strategyId reason symbol =>
    exact hsame (oms.sameBooks_freezeStrategy strategyId reason symbol).venues
  | clearStrategyFreeze strategyId symbol =>
    exact hsame (oms.sameBooks_clearStrategyFreeze strategyId symbol).venues
  | setTradingMode mode reason => exact hsame (oms.sameBooks_setTradingMode mode reason).venues
  | clearTradingMode heads expectedGenerations =>
    exact hsame (oms.sameBooks_clearTradingMode heads expectedGenerations).venues

/-- A clear by epoch and reason takes away the guard it means. -/
theorem holds_clearVenueFreeze_iff (hs : oms.Sound) {venue : String}
    (hname : oms.venueName venue = venue) (reason : String) (epoch : ℤ) (name owner : String)
    (entry : GuardEntry) :
    (oms.clearVenueFreeze venue (some epoch) (some reason) "").venues.Holds name owner entry ↔
      oms.venues.Holds name owner entry ∧ ¬(name = venue ∧ entry = ⟨reason, epoch⟩) :=
  have hcaptured : oms.venueName (⟨venue, "", ⟨reason, epoch⟩⟩ : CapturedGuard).name = venue :=
    hname
  (hs.clearCapturedVenue hcaptured).2.2.2 name owner entry

end Oms

/-! ## One step -/

namespace System

variable {s t : System} {updates : ℕ}

variable {reason venue venue' : String} {entry : GuardEntry}

theorem venueName_of_upper (oms : GuardState) (hne : venue ≠ "")
    (hupper : venue.toUpper = venue) : oms.venueName venue = venue := by
  unfold GuardState.venueName orElse
  rw [if_neg hne, hupper]

theorem recoveredVenue_upper (venue : String) :
    recoveredVenue venue ≠ "" ∧ (recoveredVenue venue).toUpper = recoveredVenue venue := by
  unfold recoveredVenue
  exact ⟨GuardState.toUpper_ne_empty (GuardState.orElse_ne_empty (by decide) venue),
    Text.toUpper_toUpper _⟩

theorem Coherent.initial (gatewayName : String) : Coherent (initial gatewayName) where
  sound := GuardState.Sound.fresh gatewayName
  older := nofun
  tracked := fun _ _ h => nomatch h.1

/-- What a placement leaves outstanding: the new guard, and what was outstanding and is not
replaced by it. -/
theorem Coherent.outstanding_place (hs : s.Coherent)
    (hname : s.oms.venueName venue = venue) (reason : String)
    (h : (s.place venue reason).Outstanding venue' entry) :
    (venue' = venue ∧ entry = ⟨omsReason reason, freezeVenueEpoch s.oms venue reason⟩) ∨
      (s.Outstanding venue' entry ∧ (venue' = venue →
        ∃ owner, s.oms.venues.Holds venue owner entry ∧
          owner ≠ venueGuardOwner (omsReason reason))) := by
  obtain ⟨hplaced, owner, hget⟩ := h
  obtain hold | hnew := List.mem_append.mp hplaced
  · refine .inr ?_
    have hget' := (holds_freezeVenue_iff hs.sound venue reason venue' owner entry).mp hget
    rw [hname] at hget'
    by_cases hsame : venue' = venue ∧ owner = venueGuardOwner (omsReason reason)
    · -- the new epoch is above all that were given out
      rw [if_pos hsame] at hget'
      have habove := (freezeVenue_spec hs.sound venue reason).1
      rw [hname] at habove
      have hle := hs.older venue' entry hold
      rw [hget', hsame.1] at hle
      exact absurd habove hle.not_gt
    · rw [if_neg hsame] at hget'
      refine ⟨⟨hold, owner, hget'⟩, ?_⟩
      rintro rfl
      exact ⟨owner, hget', fun howner => hsame ⟨rfl, howner⟩⟩
  · cases List.mem_singleton.mp hnew
    exact .inl ⟨rfl, rfl⟩

theorem Coherent.older_place (hs : s.Coherent)
    (hname : s.oms.venueName venue = venue) (reason : String)
    (h : (venue', entry) ∈ (s.place venue reason).placed) :
    entry.epoch ≤ (s.place venue reason).oms.venues.counters.getD venue' 0 := by
  obtain ⟨habove, hcounters, -⟩ := freezeVenue_spec hs.sound venue reason
  show entry.epoch ≤ (s.oms.freezeVenue venue reason).venues.counters.getD venue' 0
  rw [hname] at habove hcounters
  rw [hcounters, Dict.getD_set]
  obtain hold | hnew := List.mem_append.mp h
  · have hle := hs.older venue' entry hold
    split
    · next heq =>
      rw [heq] at hle
      exact hle.trans habove.le
    · exact hle
  · cases List.mem_singleton.mp hnew
    rw [if_pos rfl]

/-- The slot of a placed guard. -/
theorem tracks_trackEpoch (risk : ScopeGuards) (venue reason : String) (epoch : ℤ) :
    ((risk.takeSlot venue reason).trackEpoch venue (some epoch)).frozenVenues.get? venue =
        some reason ∧
      ((risk.takeSlot venue reason).trackEpoch venue (some epoch)).venueFreezeEpochs.get? venue =
        some epoch :=
  ⟨Dict.get?_set_self _ _ _, Dict.get?_set_self _ _ _⟩

/-- The slots of the other venues stay. -/
theorem trackEpoch_of_ne (risk : ScopeGuards) (h : venue' ≠ venue)
    (reason : String) (epoch : Option ℤ) :
    ((risk.takeSlot venue reason).trackEpoch venue epoch).frozenVenues.get? venue' =
        risk.frozenVenues.get? venue' ∧
      ((risk.takeSlot venue reason).trackEpoch venue epoch).venueFreezeEpochs.get? venue' =
        risk.venueFreezeEpochs.get? venue' ∧
      ((risk.takeSlot venue reason).trackEpoch venue epoch).venueRecoveryByVenue.getD venue' 0 =
        risk.venueRecoveryByVenue.getD venue' 0 := by
  cases epoch with
  | none =>
    exact ⟨Dict.get?_set_of_ne _ _ h, Dict.get?_erase_of_ne _ h, Dict.getD_set_of_ne _ _ _ h⟩
  | some epoch =>
    exact ⟨Dict.get?_set_of_ne _ _ h, Dict.get?_set_of_ne _ _ h, Dict.getD_set_of_ne _ _ _ h⟩

/-- What the answers of a freeze that takes the slot come to, when the call is careful: the guard
is placed and tracked, or nothing is outstanding and nothing is placed. -/
theorem Coherent.freezeVenue_cases (hs : s.Coherent) {answer : FreezeAnswer}
    (hcareful : s.Careful updates (.freeze venue reason answer)) :
    s.freezeVenue venue reason answer = s ∨
      reason ≠ "" ∧ venue.toUpper ≠ "" ∧
      ((s.freezeVenue venue reason answer =
          { s.place venue.toUpper reason with
            risk := (s.risk.takeSlot venue.toUpper reason).trackEpoch venue.toUpper
              (some (freezeVenueEpoch s.oms venue.toUpper reason)) } ∧
        ∀ entry owner, (venue.toUpper, entry) ∈ s.placed →
          s.oms.venues.Holds venue.toUpper owner entry → owner = venueGuardOwner reason) ∨
      (s.freezeVenue venue reason answer =
          { s with
            risk := (s.risk.takeSlot venue.toUpper reason).trackEpoch venue.toUpper none } ∧
        ∀ entry, ¬s.Outstanding venue.toUpper entry)) := by
  unfold freezeVenue
  by_cases hvenue : venue = ""
  · exact .inl (if_pos hvenue)
  rw [if_neg hvenue]
  dsimp only
  by_cases hsame : s.risk.frozenVenues.getD venue.toUpper "" ≠ "" ∧
      riskGuardOwner (s.risk.frozenVenues.getD venue.toUpper "") = riskGuardOwner reason
  · exact .inl (if_pos hsame)
  rw [if_neg hsame]
  obtain ⟨hreason, hanswer, hothers⟩ := hcareful hvenue hsame
  have hne := GuardState.toUpper_ne_empty hvenue
  have hname := venueName_of_upper s.oms hne (Text.toUpper_toUpper venue)
  refine .inr ⟨hreason, hne, ?_⟩
  cases answer with
  | epoch =>
    exact .inl ⟨rfl, fun entry owner hplaced hget => (hothers entry owner hplaced hget).2⟩
  | noEpoch =>
    refine .inl ⟨?_, fun entry owner hplaced hget => (hothers entry owner hplaced hget).2⟩
    have homs : omsReason reason = reason := if_neg hreason
    obtain ⟨hguard, hepoch⟩ := newest_freezeVenue hs.sound venue.toUpper reason
    rw [hname] at hguard hepoch
    have hlook : (s.place venue.toUpper reason).lookUpEpoch venue.toUpper reason =
        some (freezeVenueEpoch s.oms venue.toUpper reason) := by
      unfold lookUpEpoch place
      dsimp only
      rw [Dict.getD, hguard, Option.getD_some, if_pos homs, Dict.getD, hepoch, Option.getD_some]
    rw [hlook]
  | raisesAfter => exact absurd rfl hanswer
  | raisesBefore =>
    refine .inr ⟨rfl, ?_⟩
    rintro entry ⟨hplaced, owner, hget⟩
    exact (hothers entry owner hplaced hget).1 rfl

/-- **A careful freeze** keeps the system coherent. -/
theorem Coherent.freezeVenue (hs : s.Coherent) {answer : FreezeAnswer}
    (hcareful : s.Careful updates (.freeze venue reason answer)) :
    (s.freezeVenue venue reason answer).Coherent := by
  obtain hsame | ⟨hreason, hne, ⟨hafter, hothers⟩ | ⟨hafter, hnone⟩⟩ :=
    hs.freezeVenue_cases hcareful
  · rw [hsame]
    exact hs
  · have hname := venueName_of_upper s.oms hne (Text.toUpper_toUpper venue)
    have homs : omsReason reason = reason := if_neg hreason
    rw [hafter]
    refine ⟨hs.sound.apply (.freezeVenue venue.toUpper reason),
      fun venue' entry hplaced => hs.older_place hname reason hplaced, ?_⟩
    intro venue' entry hout
    have hplace : (s.place venue.toUpper reason).Outstanding venue' entry := hout
    obtain ⟨rfl, rfl⟩ | ⟨hold, hother⟩ := hs.outstanding_place hname reason hplace
    · rw [homs]
      exact tracks_trackEpoch _ _ _ _
    by_cases hvenue : venue' = venue.toUpper
    · obtain ⟨owner, hget, howner⟩ := hother hvenue
      rw [homs] at howner
      exact absurd (hothers entry owner (hvenue ▸ hold.1) hget) howner
    · obtain ⟨hfrozen, hepoch, -⟩ := trackEpoch_of_ne s.risk hvenue reason
        (some (freezeVenueEpoch s.oms venue.toUpper reason))
      exact ⟨hfrozen.trans (hs.tracked venue' entry hold).1,
        hepoch.trans (hs.tracked venue' entry hold).2⟩
  · rw [hafter]
    refine ⟨hs.sound, hs.older, ?_⟩
    intro venue' entry hout
    have hold : s.Outstanding venue' entry := hout
    have hvenue : venue' ≠ venue.toUpper := fun heq => hnone entry (heq ▸ hold)
    obtain ⟨hfrozen, hepoch, -⟩ := trackEpoch_of_ne s.risk hvenue reason none
    exact ⟨hfrozen.trans (hs.tracked venue' entry hold).1,
      hepoch.trans (hs.tracked venue' entry hold).2⟩

/-- What a recovery does: nothing when the reason is not the slot's; it counts below the
threshold; and at the threshold it empties the slot and asks for the clear. -/
theorem recover_cases (updates : ℕ) (s : System) (venue head : String) (answer : ClearAnswer) :
    (head.toList.isPrefixOf
          (s.risk.frozenVenues.getD (recoveredVenue venue) "").toList = false ∧
        s.recoverVenueIfStable updates venue head answer = s) ∨
      (head.toList.isPrefixOf
          (s.risk.frozenVenues.getD (recoveredVenue venue) "").toList = true ∧
        s.risk.venueRecoveryByVenue.getD (recoveredVenue venue) 0 + 1 < updates ∧
        s.recoverVenueIfStable updates venue head answer =
          { s with
            risk :=
              { s.risk with
                venueRecoveryByVenue := s.risk.venueRecoveryByVenue.set (recoveredVenue venue)
                  (s.risk.venueRecoveryByVenue.getD (recoveredVenue venue) 0 + 1) } }) ∨
      (head.toList.isPrefixOf
          (s.risk.frozenVenues.getD (recoveredVenue venue) "").toList = true ∧
        updates ≤ s.risk.venueRecoveryByVenue.getD (recoveredVenue venue) 0 + 1 ∧
        s.recoverVenueIfStable updates venue head answer =
          ({ s with risk := s.risk.dropSlot (recoveredVenue venue) }).clearVenue
            (recoveredVenue venue) (s.risk.frozenVenues.getD (recoveredVenue venue) "")
            (s.risk.venueFreezeEpochs.get? (recoveredVenue venue)) answer) := by
  unfold recoverVenueIfStable
  dsimp only
  by_cases hhead : head.toList.isPrefixOf
      (s.risk.frozenVenues.getD (recoveredVenue venue) "").toList = true
  · rw [if_neg fun h => h hhead]
    by_cases hbelow : s.risk.venueRecoveryByVenue.getD (recoveredVenue venue) 0 + 1 < updates
    · exact .inr (.inl ⟨hhead, hbelow, if_pos hbelow⟩)
    · exact .inr (.inr ⟨hhead, not_lt.mp hbelow, if_neg hbelow⟩)
  · exact .inl ⟨Bool.eq_false_iff.mpr hhead, if_pos hhead⟩

/-- What a clear does to the system. -/
theorem clearVenue_spec (hs : s.oms.Sound) (risk : ScopeGuards) (hne : venue ≠ "")
    (hupper : venue.toUpper = venue) (reason : String) (expectedEpoch : Option ℤ)
    (answer : ClearAnswer) :
    (({ s with risk := risk } : System).clearVenue venue reason expectedEpoch answer).risk =
      risk ∧
      (({ s with risk := risk } : System).clearVenue venue reason expectedEpoch answer).placed =
        s.placed ∧
      (({ s with risk := risk } : System).clearVenue venue reason expectedEpoch
        answer).oms.Sound ∧
      (({ s with risk := risk } : System).clearVenue venue reason expectedEpoch
        answer).oms.venues.counters = s.oms.venues.counters ∧
      ∀ name owner entry,
        (({ s with risk := risk } : System).clearVenue venue reason expectedEpoch
          answer).oms.venues.Holds name owner entry ↔
          s.oms.venues.Holds name owner entry ∧
            ¬(answer.clears = true ∧ name = venue ∧ entry.reason = reason ∧
              expectedEpoch = some entry.epoch) := by
  unfold clearVenue
  cases expectedEpoch with
  | none => exact ⟨rfl, rfl, hs, rfl, fun name owner entry => (and_iff_left nofun).symm⟩
  | some epoch =>
    cases hclears : answer.clears with
    | false => exact ⟨rfl, rfl, hs, rfl, fun name owner entry => (and_iff_left nofun).symm⟩
    | true =>
      refine ⟨rfl, rfl, hs.apply (.clearVenueFreeze venue (some epoch) (some reason) ""),
        counters_clear hs _ _ _ _, fun name owner entry => ?_⟩
      refine (holds_clearVenueFreeze_iff hs (venueName_of_upper s.oms hne hupper) reason epoch
        name owner entry).trans (and_congr_right' (not_congr ?_))
      obtain ⟨reason', epoch'⟩ := entry
      rw [GuardEntry.mk.injEq, Option.some.injEq, eq_comm (a := epoch)]
      exact ⟨fun h => ⟨rfl, h.1, h.2.1, h.2.2⟩, fun h => ⟨h.2.1, h.2.2.1, h.2.2.2⟩⟩

/-- Whatever is outstanding after a step that places nothing was outstanding before. -/
theorem Coherent.outstanding_of_step (hs : s.Coherent) (hplaced : t.placed = s.placed)
    (hholds : ∀ name owner entry, t.oms.venues.Holds name owner entry →
      s.oms.venues.Holds name owner entry ∨
      s.oms.venues.counters.getD name 0 < entry.epoch) (hout :
      t.Outstanding venue entry) :
    s.Outstanding venue entry := by
  obtain ⟨hmem, owner, hget⟩ := hout
  rw [hplaced] at hmem
  obtain hold | hnew := hholds venue owner entry hget
  · exact ⟨hmem, owner, hold⟩
  · exact absurd hnew (hs.older venue entry hmem).not_gt

theorem dropSlot_of_ne (risk : ScopeGuards) (h : venue' ≠ venue) :
    (risk.dropSlot venue).frozenVenues.get? venue' = risk.frozenVenues.get? venue' ∧
      (risk.dropSlot venue).venueFreezeEpochs.get? venue' = risk.venueFreezeEpochs.get? venue' ∧
      (risk.dropSlot venue).venueRecoveryByVenue.getD venue' 0 =
        risk.venueRecoveryByVenue.getD venue' 0 :=
  ⟨Dict.get?_erase_of_ne _ h, Dict.get?_erase_of_ne _ h, Dict.getD_set_of_ne _ _ _ h⟩

/-- **A careful recovery**: what is still outstanding was so before and keeps its slot; and a
recovery that reaches the threshold leaves nothing outstanding at its venue. -/
theorem Coherent.recover_spec (hs : s.Coherent) {head : String} {answer : ClearAnswer}
    (hcareful : s.Careful updates (.recover venue head answer)) :
    (s.recoverVenueIfStable updates venue head answer).oms.Sound ∧
      (s.recoverVenueIfStable updates venue head answer).placed = s.placed ∧
      (s.recoverVenueIfStable updates venue head answer).oms.venues.counters =
        s.oms.venues.counters ∧
      ∀ venue' entry,
        (s.recoverVenueIfStable updates venue head answer).Outstanding venue' entry →
          s.Outstanding venue' entry ∧
          (s.recoverVenueIfStable updates venue head answer).Tracks venue' entry ∧
          (s.recoverVenueIfStable updates venue head answer).risk.venueRecoveryByVenue.getD
              venue' 0 =
            s.risk.venueRecoveryByVenue.getD venue' 0 +
              (if recoveredVenue venue = venue' ∧
                head.toList.isPrefixOf entry.reason.toList = true then 1 else 0) ∧
          (recoveredVenue venue = venue' → head.toList.isPrefixOf entry.reason.toList = true →
            (s.recoverVenueIfStable updates venue head answer).risk.venueRecoveryByVenue.getD
              venue' 0 < updates) := by
  obtain ⟨hhead, hafter⟩ | ⟨hhead, hbelow, hafter⟩ | ⟨hhead, hreached, hafter⟩ :=
    recover_cases updates s venue head answer
  · rw [hafter]
    refine ⟨hs.sound, rfl, rfl, fun venue' entry hout => ?_⟩
    have htracks := hs.tracked venue' entry hout
    have hother : ¬(recoveredVenue venue = venue' ∧
        head.toList.isPrefixOf entry.reason.toList = true) := by
      rintro ⟨rfl, hentry⟩
      rw [Dict.getD, htracks.1, Option.getD_some, hentry] at hhead
      cases hhead
    rw [if_neg hother, Nat.add_zero]
    exact ⟨hout, htracks, rfl, fun hvenue hentry => absurd ⟨hvenue, hentry⟩ hother⟩
  · rw [hafter]
    refine ⟨hs.sound, rfl, rfl, fun venue' entry hout => ?_⟩
    have hold : s.Outstanding venue' entry := hout
    have htracks := hs.tracked venue' entry hold
    refine ⟨hold, htracks, ?_⟩
    dsimp only
    rw [Dict.getD_set]
    by_cases hvenue : venue' = recoveredVenue venue
    · subst hvenue
      rw [Dict.getD, htracks.1, Option.getD_some] at hhead
      rw [if_pos rfl, if_pos ⟨rfl, hhead⟩]
      exact ⟨rfl, fun _ _ => hbelow⟩
    · rw [if_neg hvenue, if_neg fun h => hvenue h.1.symm]
      exact ⟨rfl, fun h => absurd h.symm hvenue⟩
  · obtain ⟨hne, hupper⟩ := recoveredVenue_upper venue
    obtain ⟨hrisk, hplaced, hsound, hcounters, hholds⟩ :=
      clearVenue_spec (s := s) hs.sound (s.risk.dropSlot (recoveredVenue venue)) hne hupper
        (s.risk.frozenVenues.getD (recoveredVenue venue) "")
        (s.risk.venueFreezeEpochs.get? (recoveredVenue venue)) answer
    rw [← hafter] at hrisk hplaced hsound hcounters hholds
    refine ⟨hsound, hplaced, hcounters, fun venue' entry hout => ?_⟩
    have hold : s.Outstanding venue' entry :=
      hs.outstanding_of_step hplaced
        (fun name owner entry h => .inl ((hholds name owner entry).mp h).1) hout
    have htracks := hs.tracked venue' entry hold
    by_cases hvenue : venue' = recoveredVenue venue
    · -- the guard in the slot is the only one, and the OMS has cleared it
      subst hvenue
      obtain ⟨-, owner, hget⟩ := hout
      have hclears := hcareful hhead hreached ⟨entry, hold⟩
      refine absurd ⟨hclears, rfl, ?_, htracks.2⟩ ((hholds _ owner entry).mp hget).2
      rw [Dict.getD, htracks.1, Option.getD_some]
    · obtain ⟨hfrozen, hepoch, hcount⟩ := dropSlot_of_ne s.risk hvenue
      rw [Tracks, hrisk, hfrozen, hepoch, hcount, if_neg fun h => hvenue h.1.symm]
      exact ⟨hold, htracks, rfl, fun h => absurd h.symm hvenue⟩

/-- **One careful step** keeps the system coherent. -/
theorem Coherent.step {s' : System} {a : Action} (hs : s.Coherent)
    (hcareful : s.Careful updates a) (hstep : step updates s a = some s') : s'.Coherent := by
  cases a with
  | freeze venue reason answer =>
    cases hstep
    exact hs.freezeVenue hcareful
  | recover venue head answer =>
    cases hstep
    obtain ⟨hsound, hplaced, hcounters, hout⟩ := hs.recover_spec hcareful
    refine ⟨hsound, fun venue' entry hmem => ?_,
      fun venue' entry h => (hout venue' entry h).2.1⟩
    rw [hcounters]
    exact hs.older venue' entry (hplaced ▸ hmem)
  | breach venue =>
    cases hstep
    exact ⟨hs.sound, hs.older, hs.tracked⟩
  | other op =>
    cases hstep
    obtain ⟨hcounters, hholds⟩ := venues_apply hs.sound op
    exact ⟨hs.sound.apply op,
      fun venue' entry hmem => (hs.older venue' entry hmem).trans (hcounters venue'),
      fun venue' entry hout =>
        hs.tracked venue' entry
          (hs.outstanding_of_step (t := { s with oms := s.oms.apply op }) rfl hholds hout)⟩

end System

/-! ## The way to the clear -/

/-- A healthy update for the guard. -/
def Action.healthyFor (venue : String) (entry : GuardEntry) : Action → Bool
  | .recover venue' head _ =>
    decide (System.recoveredVenue venue' = venue ∧
      head.toList.isPrefixOf entry.reason.toList = true)
  | _ => false

namespace System

variable {s t : System} {updates : ℕ}

variable {venue : String} {entry : GuardEntry}

/-- **One step of the way**: a guard that is still outstanding has had its healthy update
counted, and the count has not reached the threshold. -/
theorem Coherent.counted {s' : System} {a : Action}
    (hs : s.Coherent) (hcareful : s.Careful updates a)
    (hstep : VenueGuards.step updates s a = some s')
    (hplaced : (venue, entry) ∈ s.placed) (hquiet : a ≠ .breach venue)
    (hout : s'.Outstanding venue entry) : s.Outstanding venue entry ∧
      s'.risk.venueRecoveryByVenue.getD venue 0 =
        s.risk.venueRecoveryByVenue.getD venue 0 + (if a.healthyFor venue entry then 1 else 0) ∧
      (a.healthyFor venue entry = true →
        s'.risk.venueRecoveryByVenue.getD venue 0 < updates) := by
  cases a with
  | freeze venue' reason answer =>
    cases hstep
    obtain hsame | ⟨hreason, hne, ⟨hafter, hothers⟩ | ⟨hafter, hnone⟩⟩ :=
      hs.freezeVenue_cases hcareful
    · rw [hsame] at hout ⊢
      exact ⟨hout, rfl, nofun⟩
    · have hname := venueName_of_upper s.oms hne (Text.toUpper_toUpper venue')
      have homs : omsReason reason = reason := if_neg hreason
      rw [hafter] at hout ⊢
      have hplace : (s.place venue'.toUpper reason).Outstanding venue entry := hout
      obtain ⟨rfl, rfl⟩ | ⟨hold, hother⟩ := hs.outstanding_place hname reason hplace
      · -- a guard that was placed before has an older epoch than the new one
        have hle := hs.older _ _ hplaced
        have habove := (freezeVenue_spec hs.sound venue'.toUpper reason).1
        rw [hname] at habove
        exact absurd habove hle.not_gt
      · have hvenue : venue ≠ venue'.toUpper := by
          intro hvenue
          obtain ⟨owner, hget, howner⟩ := hother hvenue
          rw [homs] at howner
          exact howner (hothers entry owner (hvenue ▸ hplaced) hget)
        exact ⟨hold, (trackEpoch_of_ne s.risk hvenue reason _).2.2, nofun⟩
    · rw [hafter] at hout ⊢
      have hold : s.Outstanding venue entry := hout
      have hvenue : venue ≠ venue'.toUpper := fun heq => hnone entry (heq ▸ hold)
      exact ⟨hold, (trackEpoch_of_ne s.risk hvenue reason none).2.2, nofun⟩
  | recover venue' head answer =>
    cases hstep
    obtain ⟨-, -, -, hall⟩ := hs.recover_spec hcareful
    obtain ⟨hold, -, hcount, hbelow⟩ := hall venue entry hout
    refine ⟨hold, ?_, fun h => ?_⟩
    · rw [hcount]
      simp only [Action.healthyFor, decide_eq_true_eq]
    · obtain ⟨hvenue, hentry⟩ := of_decide_eq_true h
      exact hbelow hvenue hentry
  | breach venue' =>
    cases hstep
    have hvenue : venue ≠ venue' := fun heq => hquiet (heq ▸ rfl)
    exact ⟨hout, Dict.getD_set_of_ne _ _ _ hvenue, nofun⟩
  | other op =>
    cases hstep
    obtain ⟨-, hholds⟩ := venues_apply hs.sound op
    exact ⟨hs.outstanding_of_step (t := { s with oms := s.oms.apply op }) rfl hholds hout, rfl,
      nofun⟩

theorem placed_subset {s' : System} {a : Action} (hs : s.Coherent)
    (hcareful : s.Careful updates a) (hstep : VenueGuards.step updates s a = some s') :
    s.placed ⊆ s'.placed := by
  cases a with
  | freeze venue reason answer =>
    cases hstep
    obtain hsame | ⟨-, -, ⟨hafter, -⟩ | ⟨hafter, -⟩⟩ := hs.freezeVenue_cases hcareful
    · rw [hsame]
      exact List.Subset.refl _
    · rw [hafter]
      exact List.subset_append_left _ _
    · rw [hafter]
      exact List.Subset.refl _
  | recover venue head answer =>
    cases hstep
    rw [(hs.recover_spec hcareful).2.1]
    exact List.Subset.refl _
  | breach venue =>
    cases hstep
    exact List.Subset.refl _
  | other op =>
    cases hstep
    exact List.Subset.refl _

/-- **The whole way**: while a guard is outstanding, its healthy updates are counted. -/
theorem Coherent.counted_exec : ∀ {later : List Action} {s : System}, s.Coherent →
      Run.Along (VenueGuards.step updates) (Careful updates) s later →
      Run.exec (VenueGuards.step updates) s later = some t → (venue, entry) ∈ s.placed →
      .breach venue ∉ later → t.Outstanding venue entry →
      s.Outstanding venue entry ∧
        t.risk.venueRecoveryByVenue.getD venue 0 =
          s.risk.venueRecoveryByVenue.getD venue 0 +
            later.countP (Action.healthyFor venue entry) ∧
        (0 < later.countP (Action.healthyFor venue entry) →
          s.risk.venueRecoveryByVenue.getD venue 0 +
            later.countP (Action.healthyFor venue entry) < updates) := by
  intro later
  induction later with
  | nil =>
    intro s _ _ hexec _ _ hout
    cases hexec
    exact ⟨hout, rfl, nofun⟩
  | cons a rest ih =>
    intro s hs halong hexec hplaced hquiet hout
    obtain ⟨s', hs', hrest⟩ := Run.exec_cons_eq_some.mp hexec
    obtain ⟨hout', hcount', hbelow'⟩ :=
      ih (hs.step halong.1 hs') (halong.2 s' hs') hrest
        (placed_subset hs halong.1 hs' hplaced)
        (fun hmem => hquiet (List.mem_cons_of_mem _ hmem)) hout
    obtain ⟨hold, hcount, hbelow⟩ := hs.counted halong.1 hs' hplaced
      (fun heq => hquiet (heq ▸ List.mem_cons_self)) hout'
    rw [List.countP_cons]
    refine ⟨hold, by omega, fun hpos => ?_⟩
    by_cases hzero : rest.countP (Action.healthyFor venue entry) = 0
    · -- the last healthy update is this one
      rw [hzero, Nat.zero_add] at hpos ⊢
      rw [← hcount]
      refine hbelow ?_
      by_contra hnot
      rw [if_neg hnot] at hpos
      exact absurd hpos (Nat.lt_irrefl 0)
    · have := hbelow' (Nat.pos_of_ne_zero hzero)
      omega

/-- **Healthy updates clear the guard**: without an unhealthy one in between, as many as are
asked for. -/
theorem Coherent.cleared {later : List Action}
    (hs : s.Coherent) (halong : Run.Along (VenueGuards.step updates) (Careful updates) s later)
    (hexec : Run.exec (VenueGuards.step updates) s later = some t)
    (hplaced : (venue, entry) ∈ s.placed) (hquiet : .breach venue ∉ later)
    (hmany : max 1 updates ≤ later.countP (Action.healthyFor venue entry)) :
    ¬t.Outstanding venue entry := by
  intro hout
  obtain ⟨-, -, hbelow⟩ := hs.counted_exec halong hexec hplaced hquiet hout
  have := hbelow (by omega)
  omega

/-- **A recovery keeps to its own**: it clears no guard and forgets no slot but those of its
venue whose reason it has recovered from. -/
theorem recover_others (hs : s.oms.Sound) (venue head : String) (answer : ClearAnswer) :
    (∀ name owner entry, s.oms.venues.Holds name owner entry →
        (s.recoverVenueIfStable updates venue head answer).oms.venues.Holds name owner entry ∨
          (name = recoveredVenue venue ∧ head.toList.isPrefixOf entry.reason.toList = true ∧
            s.risk.frozenVenues.getD name "" = entry.reason ∧
            s.risk.venueFreezeEpochs.get? name = some entry.epoch)) ∧
      ∀ name entry, s.Tracks name entry →
        (s.recoverVenueIfStable updates venue head answer).Tracks name entry ∨
          (name = recoveredVenue venue ∧
            head.toList.isPrefixOf entry.reason.toList = true) := by
  obtain ⟨-, hafter⟩ | ⟨-, -, hafter⟩ | ⟨hhead, -, hafter⟩ :=
    recover_cases updates s venue head answer
  · rw [hafter]
    exact ⟨fun _ _ _ h => .inl h, fun _ _ h => .inl h⟩
  · rw [hafter]
    exact ⟨fun _ _ _ h => .inl h, fun _ _ h => .inl h⟩
  obtain ⟨hne, hupper⟩ := recoveredVenue_upper venue
  obtain ⟨hrisk, -, -, -, hholds⟩ :=
    clearVenue_spec (s := s) hs (s.risk.dropSlot (recoveredVenue venue)) hne hupper
      (s.risk.frozenVenues.getD (recoveredVenue venue) "")
      (s.risk.venueFreezeEpochs.get? (recoveredVenue venue)) answer
  rw [← hafter] at hrisk hholds
  constructor
  · intro name owner entry hget
    by_cases hcleared : answer.clears = true ∧ name = recoveredVenue venue ∧
        entry.reason = s.risk.frozenVenues.getD (recoveredVenue venue) "" ∧
        s.risk.venueFreezeEpochs.get? (recoveredVenue venue) = some entry.epoch
    · obtain ⟨-, rfl, hreason, hepoch⟩ := hcleared
      rw [← hreason] at hhead
      exact .inr ⟨rfl, hhead, hreason.symm, hepoch⟩
    · exact .inl ((hholds name owner entry).mpr ⟨hget, hcleared⟩)
  · intro name entry htracks
    by_cases hname : name = recoveredVenue venue
    · subst hname
      rw [Dict.getD, htracks.1, Option.getD_some] at hhead
      exact .inr ⟨rfl, hhead⟩
    · obtain ⟨hfrozen, hepoch, -⟩ := dropSlot_of_ne s.risk hname
      rw [Tracks, hrisk, hfrozen, hepoch]
      exact .inl htracks

end System

/-! ## The two sides together -/

/-- **The venue guards stay coherent** in every run whose calls are careful: a guard that the OMS
still holds for the risk manager is the one its slot names; as many healthy updates as are asked
for, without an unhealthy one in between, clear it; and a recovery takes away no other guard and
no other slot. -/
theorem venue_guards_coherent (gatewayName : String) (updates : ℕ) {actions : List Action}
    {s : System} (hexec : Run.exec (step updates) (initial gatewayName) actions = some s)
    (hcareful : Run.Along (step updates) (System.Careful updates) (initial gatewayName)
      actions) :
    (∀ venue entry, s.Outstanding venue entry → s.Tracks venue entry) ∧
      (∀ venue entry later t, (venue, entry) ∈ s.placed →
        Run.exec (step updates) s later = some t →
        Run.Along (step updates) (System.Careful updates) s later → .breach venue ∉ later →
        max 1 updates ≤ later.countP (Action.healthyFor venue entry) →
          ¬t.Outstanding venue entry) ∧
      ∀ venue head answer,
        (∀ name owner entry, s.oms.venues.Holds name owner entry →
          (s.recoverVenueIfStable updates venue head answer).oms.venues.Holds name owner entry ∨
            (name = System.recoveredVenue venue ∧
              head.toList.isPrefixOf entry.reason.toList = true ∧
              s.risk.frozenVenues.getD name "" = entry.reason ∧
              s.risk.venueFreezeEpochs.get? name = some entry.epoch)) ∧
        ∀ name entry, s.Tracks name entry →
          (s.recoverVenueIfStable updates venue head answer).Tracks name entry ∨
            (name = System.recoveredVenue venue ∧
              head.toList.isPrefixOf entry.reason.toList = true) := by
  have hs : s.Coherent :=
    Run.exec_invariant (I := System.Coherent) (fun _ _ _ h hP hstep => h.step hP hstep)
      (System.Coherent.initial gatewayName) hcareful hexec
  refine ⟨hs.tracked, ?_, fun venue head answer =>
    System.recover_others hs.sound venue head answer⟩
  intro venue entry later t hplaced hlater halong hquiet hmany
  exact hs.cleared halong hlater hplaced hquiet hmany

/-- A frozen venue, and two healthy updates. -/
theorem venue_guards_coherent_two_updates :
    ∃ s t, Run.exec (step 2) (initial "BINANCE")
          [.freeze "binance" "processing_lag:900.0ms>500.0ms" .epoch] = some s ∧
        Run.exec (step 2) s [.recover "BINANCE" "processing_lag:" .answers,
          .recover "BINANCE" "processing_lag:" .answers] = some t ∧
        s.Outstanding "BINANCE" ⟨"processing_lag:900.0ms>500.0ms", 1⟩ ∧
        s.Tracks "BINANCE" ⟨"processing_lag:900.0ms>500.0ms", 1⟩ ∧
        ¬t.Outstanding "BINANCE" ⟨"processing_lag:900.0ms>500.0ms", 1⟩ := by
  have hout : ((initial "BINANCE").freezeVenue "binance" "processing_lag:900.0ms>500.0ms"
      .epoch).Outstanding "BINANCE" ⟨"processing_lag:900.0ms>500.0ms", 1⟩ := by
    refine ⟨by decide +kernel, "processing_lag", ?_⟩
    unfold GuardBook.Holds
    decide +kernel
  obtain ⟨htracked, hcleared, -⟩ :=
    venue_guards_coherent "BINANCE" 2
      (rfl : Run.exec (step 2) (initial "BINANCE")
        [.freeze "binance" "processing_lag:900.0ms>500.0ms" .epoch] = some _)
      ⟨fun _ _ => ⟨by decide, by decide, fun _ _ h => nomatch h⟩, fun _ _ => trivial⟩
  refine ⟨_, _, rfl, rfl, hout, htracked _ _ hout, ?_⟩
  exact hcleared "BINANCE" _
    [.recover "BINANCE" "processing_lag:" .answers,
      .recover "BINANCE" "processing_lag:" .answers] _
    hout.1 rfl ⟨fun _ _ _ => rfl, fun _ _ => ⟨fun _ _ _ => rfl, fun _ _ => trivial⟩⟩ (by decide)
    (by decide +kernel)

/-- Guards left behind.  A clear that raises: the slot is gone, and the healthy updates that
follow do nothing.  Two causes at one venue: the second takes the slot of the first, and after
both have recovered, and the OMS has done all it was asked to, the guard of the first is still
there. -/
theorem guards_left_behind :
    (∃ s, Run.exec (step 2) (initial "BINANCE")
          [.freeze "BINANCE" "processing_lag:900.0ms>500.0ms" .epoch,
            .recover "BINANCE" "processing_lag:" .answers,
            .recover "BINANCE" "processing_lag:" .raisesBefore,
            .recover "BINANCE" "processing_lag:" .answers,
            .recover "BINANCE" "processing_lag:" .answers] = some s ∧
        s.Outstanding "BINANCE" ⟨"processing_lag:900.0ms>500.0ms", 1⟩ ∧
        ¬s.Tracks "BINANCE" ⟨"processing_lag:900.0ms>500.0ms", 1⟩) ∧
      ∃ s, Run.exec (step 2) (initial "BINANCE")
          [.freeze "BINANCE" "processing_lag:900.0ms>500.0ms" .epoch,
            .freeze "BINANCE" "divergence:80bps" .epoch,
            .recover "BINANCE" "processing_lag:" .answers,
            .recover "BINANCE" "processing_lag:" .answers,
            .recover "BINANCE" "divergence:" .answers,
            .recover "BINANCE" "divergence:" .answers] = some s ∧
        s.Outstanding "BINANCE" ⟨"processing_lag:900.0ms>500.0ms", 1⟩ ∧
        ¬s.Tracks "BINANCE" ⟨"processing_lag:900.0ms>500.0ms", 1⟩ := by
  have held : ∀ {s : System} {venue : String} {entry : GuardEntry} (owner : String),
      (venue, entry) ∈ s.placed → (s.oms.venues.ownersOf venue).get? owner = some entry →
        s.risk.frozenVenues.get? venue = none →
        s.Outstanding venue entry ∧ ¬s.Tracks venue entry := by
    intro s venue entry owner hmem hget hnone
    exact ⟨⟨hmem, owner, hget⟩, fun h => nomatch hnone.symm.trans h.1⟩
  constructor
  · exact ⟨_, rfl, held "processing_lag" (by decide +kernel) (by decide +kernel)
      (by decide +kernel)⟩
  · exact ⟨_, rfl, held "processing_lag" (by decide +kernel) (by decide +kernel)
      (by decide +kernel)⟩

end ChronosHFT.Risk.VenueGuards
