import ChronosHFT.Oms.GuardRecovery

/-!
# Clearing guards that recovery has proven healthy

A recovery notes which guards are there when it begins and, once the exchange has been checked,
clears what it noted.  Guards come and go in between, so that a noted guard is cleared only while
it is the one that was noted: by owner, epoch and reason.

For symbols the snapshot is taken of the guards by owner.  For venues it is taken of the
effective guard alone (`captureGuardCleanup`), and the guards of the venue's other owners are not
in it.  What the cleanup removes is therefore every symbol guard that was noted and is unchanged,
and of the venue guards those that were in effect (`clearGuardCleanup_spec`). -/

namespace ChronosHFT.Oms

open List

/-! ## The snapshot -/

/-- A noted guard.  `owner` is empty where the snapshot has none. -/
structure CapturedGuard where
  name : String
  owner : String
  entry : GuardEntry
deriving DecidableEq, Repr

/-- What `_capture_guard_cleanup_snapshot_locked` answers. -/
structure GuardCleanup where
  symbols : List CapturedGuard
  venues : List CapturedGuard
  strategies : List (String × String)
  strategySymbols : List ((String × String) × String)
deriving DecidableEq, Repr

namespace GuardCleanup

/-- `selected`: without prefixes every reason is. -/
def selected (heads : List String) (reason : String) : Bool :=
  heads.isEmpty || heads.any fun head => head.toList.isPrefixOf reason.toList

/-- The guards of one symbol by owner. -/
def ofOwners (heads : List String) (name : String) (owners : GuardOwners) : List CapturedGuard :=
  (owners.items.filter fun p => selected heads p.2.reason).map fun p => ⟨name, p.1, p.2⟩

/-- The loop over the symbols; asking for the guards of a symbol may store them. -/
def captureSymbols (heads : List String) : GuardBook → List String →
    GuardBook × List CapturedGuard
  | book, [] => (book, [])
  | book, name :: rest =>
    let (book, owners) := book.ensureRecords .symbol name
    let (book, others) := captureSymbols heads book rest
    (book, ofOwners heads name owners ++ others)

/-- The venues with their effective reasons and epochs. -/
def captureVenues (heads : List String) (book : GuardBook) : List CapturedGuard :=
  (book.guards.items.filter fun p => selected heads p.2).map fun p =>
    ⟨p.1, "", ⟨p.2, book.epochs.getD p.1 0⟩⟩

end GuardCleanup

namespace GuardState

/-- `_capture_guard_cleanup_snapshot_locked`. -/
def captureGuardCleanup (s : GuardState) (heads : List String) : GuardState × GuardCleanup :=
  let (symbols, captured) :=
    GuardCleanup.captureSymbols heads s.symbols (s.symbols.guards.keys ++
      s.symbols.records.keys).dedup
  ({ s with symbols := symbols },
    { symbols := captured
      venues := GuardCleanup.captureVenues heads s.venues
      strategies := s.strategyGuards.items.filter fun p => GuardCleanup.selected heads p.2
      strategySymbols :=
        s.strategySymbolGuards.items.filter fun p => GuardCleanup.selected heads p.2 })

/-- One noted symbol guard. -/
def clearCapturedSymbol (s : GuardState) (g : CapturedGuard) : GuardState :=
  s.clearSymbolFreeze g.name (some g.entry.epoch) g.entry.reason g.owner

/-- One noted venue guard; the clear names no owner. -/
def clearCapturedVenue (s : GuardState) (g : CapturedGuard) : GuardState :=
  s.clearVenueFreeze g.name (some g.entry.epoch) (some g.entry.reason) ""

/-- One noted strategy guard, cleared when its reason is the noted one. -/
def clearCapturedStrategy (s : GuardState) (g : String × String) : GuardState :=
  if s.strategyGuards.getD g.1 "" ≠ g.2 then s else s.clearStrategyFreeze g.1 ""

def clearCapturedStrategySymbol (s : GuardState) (g : (String × String) × String) : GuardState :=
  if s.strategySymbolGuards.getD g.1 "" ≠ g.2 then s else s.clearStrategyFreeze g.1.1 g.1.2

/-- `_clear_guard_cleanup_snapshot`. -/
def clearGuardCleanup (s : GuardState) (snapshot : GuardCleanup) : GuardState :=
  let s := snapshot.symbols.foldl clearCapturedSymbol s
  let s := snapshot.venues.foldl clearCapturedVenue s
  let s := snapshot.strategies.foldl clearCapturedStrategy s
  snapshot.strategySymbols.foldl clearCapturedStrategySymbol s

/-- The guards of a family. -/
def book (s : GuardState) : GuardFamily → GuardBook
  | .symbol => s.symbols
  | .venue => s.venues

end GuardState

/-! ## The newest guard -/

/-- The fold keeps the newest of what it has seen. -/
theorem foldl_newerOf_spec (entries : List GuardEntry) (kept : GuardEntry) :
    ∃ entry, entries.foldl newerOf (some kept) = some entry ∧ (entry = kept ∨ entry ∈ entries) ∧
      kept.epoch ≤ entry.epoch ∧ ∀ other ∈ entries, other.epoch ≤ entry.epoch := by
  induction entries generalizing kept with
  | nil => exact ⟨kept, rfl, .inl rfl, le_rfl, nofun⟩
  | cons next rest ih =>
    rw [foldl_cons, newerOf]
    by_cases hnewer : kept.epoch < next.epoch
    · rw [if_pos hnewer]
      obtain ⟨entry, hfold, hmem, hle, hall⟩ := ih next
      refine ⟨entry, hfold, .inr ?_, hnewer.le.trans hle, ?_⟩
      · exact hmem.elim (fun h => h ▸ mem_cons_self) (mem_cons_of_mem _)
      · exact forall_mem_cons.mpr ⟨hle, hall⟩
    · rw [if_neg hnewer]
      obtain ⟨entry, hfold, hmem, hle, hall⟩ := ih kept
      refine ⟨entry, hfold, hmem.imp_right (mem_cons_of_mem _), hle, ?_⟩
      exact forall_mem_cons.mpr ⟨(not_lt.mp hnewer).trans hle, hall⟩

/-- **The newest guard** of a name is one of its guards, and none of them is newer. -/
theorem newest_spec {owners : GuardOwners} {entry : GuardEntry}
    (h : newest owners = some entry) :
    (∃ owner, owners.get? owner = some entry) ∧
      ∀ owner other, owners.get? owner = some other → other.epoch ≤ entry.epoch := by
  have hvalues : entry ∈ owners.values ∧ ∀ other ∈ owners.values, other.epoch ≤ entry.epoch := by
    unfold newest at h
    cases hlist : owners.values with
    | nil =>
      rw [hlist] at h
      cases h
    | cons first rest =>
      rw [hlist, foldl_cons, newerOf] at h
      obtain ⟨entry', hfold, hmem, hle, hall⟩ := foldl_newerOf_spec rest first
      cases h.symm.trans hfold
      exact ⟨mem_cons.mpr hmem, forall_mem_cons.mpr ⟨hle, hall⟩⟩
  exact ⟨Dict.mem_values_iff.mp hvalues.1,
    fun owner other hget => hvalues.2 other (Dict.mem_values_iff.mpr ⟨owner, hget⟩)⟩

namespace GuardBook

/-! ## Sound books -/

/-- The name is held by the owner, with this reason since this epoch. -/
def Holds (book : GuardBook) (name owner : String) (entry : GuardEntry) : Prop :=
  (book.ownersOf name).get? owner = some entry

/-- Owners follow from the reasons, epochs are distinct, and the newest guard is in effect. -/
structure Sound (family : GuardFamily) (book : GuardBook) : Prop where
  ok : ∀ name, OwnersOk family (book.ownersOf name)
  effective : book.Effective
  counters : ∀ name, 0 ≤ book.counters.getD name 0

variable {family : GuardFamily} {book : GuardBook} {name : String}

theorem Sound.empty (family : GuardFamily) : Sound family {} where
  ok _ := OwnersOk.empty family
  effective _ := ⟨rfl, rfl⟩
  counters _ := le_rfl

/-- Asking for the guards of a name changes none of them. -/
theorem Sound.ensureRecords (h : Sound family book) (name : String) :
    Sound family (book.ensureRecords family name).1 ∧
      (book.ensureRecords family name).2 = book.ownersOf name ∧
      ∀ name', (book.ensureRecords family name).1.ownersOf name' = book.ownersOf name' := by
  obtain ⟨howners, hcounters, heffective, hsame⟩ := ensureRecords_spec h.effective family name
  refine ⟨⟨fun name' => hsame name' ▸ h.ok name', heffective, ?_⟩, howners, hsame⟩
  rw [hcounters]
  exact h.counters

/-- Storing the guards of a name. -/
theorem Sound.putOwners (h : Sound family book) {owners : GuardOwners}
    (hok : OwnersOk family owners) : Sound family (book.putOwners name owners) where
  ok name' := by
    rw [ownersOf_putOwners]
    split
    · exact hok
    · exact h.ok name'
  effective := effective_putOwners h.effective name owners
  counters := by
    unfold GuardBook.putOwners refreshEffective
    dsimp only
    split <;> exact h.counters

/-- **Freezing** touches the guards of one name. -/
theorem Sound.install (h : Sound family book) (name : String) {reason : String}
    (hreason : reason ≠ "") :
    Sound family (book.install family name reason).1 ∧
      ∀ name', name' ≠ name →
        (book.install family name reason).1.ownersOf name' = book.ownersOf name' := by
  obtain ⟨hensured, howners, hsame⟩ := h.ensureRecords name
  unfold GuardBook.install
  generalize book.ensureRecords family name = ensured at hensured howners hsame ⊢
  obtain ⟨ensuredBook, owners⟩ := ensured
  dsimp only at hensured howners hsame ⊢
  obtain ⟨habove, hnew⟩ := ensuredBook.lt_nextEpoch name owners
  generalize ensuredBook.nextEpoch name owners = epoch at habove hnew ⊢
  have hpositive : 0 < epoch := (hensured.counters name).trans_lt habove
  have hcounted : Sound family
      { ensuredBook with counters := ensuredBook.counters.set name epoch } := by
    refine ⟨hensured.ok, hensured.effective, fun name' => ?_⟩
    dsimp only
    rw [Dict.getD_set]
    split
    · exact hpositive.le
    · exact hensured.counters name'
  have hok : OwnersOk family owners := howners ▸ h.ok name
  refine ⟨hcounted.putOwners (hok.set hreason hpositive hnew), fun name' hname => ?_⟩
  rw [ownersOf_putOwners, if_neg hname]
  exact hsame name'

/-! ## Clearing -/

variable {expectedOwner : String} {accepts : GuardEntry → Bool}

theorem mem_candidates {owners : GuardOwners} {p : String × GuardEntry} :
    p ∈ candidates owners expectedOwner accepts ↔
      owners.get? p.1 = some p.2 ∧ (expectedOwner = "" ∨ p.1 = expectedOwner) ∧
        accepts p.2 = true := by
  unfold candidates
  by_cases howner : expectedOwner ≠ ""
  · rw [if_pos howner]
    cases hget : owners.get? expectedOwner with
    | none =>
      refine ⟨nofun, ?_⟩
      rintro ⟨hp, hempty | heq, -⟩
      · exact absurd hempty howner
      · rw [heq, hget] at hp
        cases hp
    | some entry =>
      dsimp only
      constructor
      · intro hmem
        split at hmem
        · next haccepts =>
          rw [mem_singleton.mp hmem]
          exact ⟨hget, .inr rfl, haccepts⟩
        · cases hmem
      · rintro ⟨hp, hempty | heq, haccepts⟩
        · exact absurd hempty howner
        rw [heq, hget] at hp
        cases hp
        rw [if_pos haccepts, ← heq]
        exact mem_singleton_self _
  · rw [if_neg howner, mem_filter, ← Dict.get?_eq_some_iff]
    exact ⟨fun h => ⟨h.1, .inl (not_not.mp howner), h.2⟩, fun h => ⟨h.1, h.2.2⟩⟩

theorem nodup_candidates (owners : GuardOwners) (expectedOwner : String)
    (accepts : GuardEntry → Bool) : (candidates owners expectedOwner accepts).Nodup := by
  unfold candidates
  split
  · split
    · exact nodup_nil
    · split
      · exact nodup_singleton _
      · exact nodup_nil
  · exact (owners.nodup.of_map _).filter _

/-- **A clear that singles out at most one guard** removes that guard and nothing else. -/
theorem Sound.clear (h : Sound family book) (name expectedOwner : String)
    (accepts : GuardEntry → Bool) (meant : String → GuardEntry → Prop)
    (hmeant : ∀ owner entry, book.Holds name owner entry →
      ((expectedOwner = "" ∨ owner = expectedOwner) ∧ accepts entry = true ↔ meant owner entry))
    (hone : ∀ owner entry owner' entry', book.Holds name owner entry →
      book.Holds name owner' entry' → meant owner entry → meant owner' entry' → owner = owner') :
    Sound family (book.clear family name expectedOwner false accepts).1 ∧
      ∀ name' owner entry,
        (book.clear family name expectedOwner false accepts).1.Holds name' owner entry ↔
          book.Holds name' owner entry ∧ ¬(name' = name ∧ meant owner entry) := by
  obtain ⟨hensured, howners, hsame⟩ := h.ensureRecords name
  unfold GuardBook.clear
  generalize book.ensureRecords family name = ensured at hensured howners hsame ⊢
  obtain ⟨ensuredBook, owners⟩ := ensured
  dsimp only at hensured howners hsame ⊢
  rw [if_neg Bool.false_ne_true]
  subst howners
  have hmem : ∀ p, p ∈ candidates (book.ownersOf name) expectedOwner accepts ↔
      book.Holds name p.1 p.2 ∧ meant p.1 p.2 := by
    intro p
    rw [mem_candidates]
    exact and_congr_right fun hp => hmeant p.1 p.2 hp
  have hnodup := nodup_candidates (book.ownersOf name) expectedOwner accepts
  generalize candidates (book.ownersOf name) expectedOwner accepts = found at hmem hnodup ⊢
  match found with
  | [] =>
    refine ⟨hensured, fun name' owner entry => ?_⟩
    unfold Holds
    rw [hsame]
    refine ⟨fun hget => ⟨hget, ?_⟩, fun hget => hget.1⟩
    rintro ⟨rfl, hm⟩
    exact absurd ((hmem (owner, entry)).mpr ⟨hget, hm⟩) not_mem_nil
  | [(owner₀, entry₀)] =>
    obtain ⟨hget₀, hmeant₀⟩ := (hmem (owner₀, entry₀)).mp (mem_singleton_self _)
    refine ⟨hensured.putOwners ((h.ok name).erase owner₀), fun name' owner entry => ?_⟩
    unfold Holds
    rw [ownersOf_putOwners]
    by_cases hname : name' = name
    · rw [if_pos hname, hname, Dict.get?_erase]
      by_cases howner : owner = owner₀
      · rw [if_pos howner]
        refine ⟨nofun, ?_⟩
        rintro ⟨hget, hnot⟩
        rw [howner] at hget
        cases hget.symm.trans hget₀
        exact absurd ⟨rfl, howner ▸ hmeant₀⟩ hnot
      · rw [if_neg howner]
        refine ⟨fun hget => ⟨hget, ?_⟩, fun hget => hget.1⟩
        rintro ⟨-, hm⟩
        exact howner (hone owner entry owner₀ entry₀ hget hget₀ hm hmeant₀)
    · rw [if_neg hname, hsame]
      exact ⟨fun hget => ⟨hget, fun hboth => hname hboth.1⟩, fun hget => hget.1⟩
  | p :: q :: rest =>
    -- two candidates would be one
    exfalso
    obtain ⟨hp, hpm⟩ := (hmem p).mp mem_cons_self
    obtain ⟨hq, hqm⟩ := (hmem q).mp (mem_cons_of_mem _ mem_cons_self)
    have howner := hone _ _ _ _ hp hq hpm hqm
    have hentry : p.2 = q.2 := by
      unfold Holds at hp hq
      rw [howner] at hp
      exact Option.some.inj (hp.symm.trans hq)
    exact (nodup_cons.mp hnodup).1
      (mem_cons.mpr (.inl (Prod.ext howner hentry)))

/-- A clear for one entry, with or without the owner its reason leads to. -/
theorem Sound.clear_entry (h : Sound family book) (name : String) (entry₀ : GuardEntry)
    (howner : expectedOwner = "" ∨ expectedOwner = guardOwner family entry₀.reason)
    (haccepts : ∀ entry, accepts entry = true ↔ entry = entry₀) :
    Sound family (book.clear family name expectedOwner false accepts).1 ∧
      ∀ name' owner entry,
        (book.clear family name expectedOwner false accepts).1.Holds name' owner entry ↔
          book.Holds name' owner entry ∧ ¬(name' = name ∧ entry = entry₀) := by
  refine h.clear name expectedOwner accepts (fun _ entry => entry = entry₀) ?_ ?_
  · intro owner entry hget
    rw [haccepts]
    refine ⟨fun hboth => hboth.2, ?_⟩
    rintro rfl
    refine ⟨howner.imp_right fun heq => ?_, rfl⟩
    rw [heq]
    exact (h.ok name).owner owner entry hget
  · rintro owner entry owner' entry' hget hget' rfl rfl
    exact (h.ok name).distinct owner _ owner' _ hget hget' rfl

/-- A clear for one entry of one owner. -/
theorem Sound.clear_owned (h : Sound family book) (name : String) (entry₀ : GuardEntry)
    (howner : expectedOwner ≠ "")
    (haccepts : ∀ entry, accepts entry = true ↔ entry = entry₀) :
    Sound family (book.clear family name expectedOwner false accepts).1 ∧
      ∀ name' owner entry,
        (book.clear family name expectedOwner false accepts).1.Holds name' owner entry ↔
          book.Holds name' owner entry ∧
            ¬(name' = name ∧ owner = expectedOwner ∧ entry = entry₀) := by
  refine h.clear name expectedOwner accepts
    (fun owner entry => owner = expectedOwner ∧ entry = entry₀) ?_ ?_
  · intro owner entry _
    rw [haccepts]
    exact and_congr_left fun _ => or_iff_right howner
  · rintro owner entry owner' entry' - - ⟨rfl, -⟩ ⟨rfl, -⟩
    rfl

/-- Whatever a clear is for, it takes guards away and adds none. -/
theorem Sound.clear_subset (h : Sound family book) (name expectedOwner : String)
    (unconditional : Bool) (accepts : GuardEntry → Bool) :
    Sound family (book.clear family name expectedOwner unconditional accepts).1 ∧
      ∀ name' owner entry,
        (book.clear family name expectedOwner unconditional accepts).1.Holds name' owner entry →
          book.Holds name' owner entry := by
  obtain ⟨hensured, howners, hsame⟩ := h.ensureRecords name
  unfold GuardBook.clear
  generalize book.ensureRecords family name = ensured at hensured howners hsame ⊢
  obtain ⟨ensuredBook, owners⟩ := ensured
  dsimp only at hensured howners hsame ⊢
  subst howners
  split
  · next owner₀ entry₀ hfound =>
    refine ⟨hensured.putOwners ((h.ok name).erase owner₀), fun name' owner entry hget => ?_⟩
    unfold Holds at hget ⊢
    rw [ownersOf_putOwners] at hget
    by_cases hname : name' = name
    · rw [if_pos hname] at hget
      rw [hname]
      exact (Dict.get?_of_erase hget).2
    · rw [if_neg hname, hsame] at hget
      exact hget
  · refine ⟨hensured, fun name' owner entry hget => ?_⟩
    unfold Holds at hget ⊢
    rwa [hsame] at hget

end GuardBook

namespace GuardState

/-! ## Sound states -/

/-- Both families are sound, and every guarded name is one that a clear finds again. -/
structure Sound (s : GuardState) : Prop where
  symbols : s.symbols.Sound .symbol
  venues : s.venues.Sound .venue
  symbolNames : ∀ name owner entry, s.symbols.Holds name owner entry →
    name ≠ "" ∧ name.toUpper = name
  venueNames : ∀ name owner entry, s.venues.Holds name owner entry → s.venueName name = name

/-- The guards by owner are untouched. -/
structure SameBooks (t s : GuardState) : Prop where
  symbols : t.symbols = s.symbols
  venues : t.venues = s.venues
  gatewayName : t.gatewayName = s.gatewayName

variable {s t : GuardState}

theorem SameBooks.sound (h : SameBooks t s) (hs : s.Sound) : t.Sound := by
  refine ⟨h.symbols ▸ hs.symbols, h.venues ▸ hs.venues, ?_, ?_⟩
  · rw [h.symbols]
    exact hs.symbolNames
  · unfold venueName
    rw [h.venues, h.gatewayName]
    exact hs.venueNames

/-- Strategies and modes are kept apart from the guards by owner. -/
theorem sameBooks_freezeStrategy (s : GuardState) (strategyId reason symbol : String) :
    SameBooks (s.freezeStrategy strategyId reason symbol) s := by
  unfold freezeStrategy
  dsimp only
  split
  · exact ⟨rfl, rfl, rfl⟩
  · split <;> exact ⟨rfl, rfl, rfl⟩

theorem sameBooks_clearStrategyFreeze (s : GuardState) (strategyId symbol : String) :
    SameBooks (s.clearStrategyFreeze strategyId symbol) s := by
  unfold clearStrategyFreeze
  dsimp only
  split
  · exact ⟨rfl, rfl, rfl⟩
  · split <;> split <;> exact ⟨rfl, rfl, rfl⟩

theorem sameBooks_setTradingMode (s : GuardState) (mode : OMSCapabilityMode) (reason : String) :
    SameBooks (s.setTradingMode mode reason) s := by
  unfold setTradingMode
  dsimp only
  split
  · exact ⟨rfl, rfl, rfl⟩
  split
  · exact ⟨rfl, rfl, rfl⟩
  · rw [refreshSelected_eq]
    exact ⟨rfl, rfl, rfl⟩

theorem sameBooks_clearTradingMode (s : GuardState) (heads : List String)
    (expectedGenerations : Option (Dict String ℤ)) :
    SameBooks (s.clearTradingMode heads expectedGenerations) s := by
  unfold clearTradingMode
  split
  · exact ⟨rfl, rfl, rfl⟩
  · dsimp only
    rw [refreshSelected_eq]
    exact ⟨rfl, rfl, rfl⟩

theorem venueName_venueName (s : GuardState) (venue : String) :
    s.venueName (s.venueName venue) = s.venueName venue := by
  unfold venueName
  by_cases hempty : (orElse venue s.gatewayName).toUpper = ""
  · -- the gateway has no name either
    have hgateway : s.gatewayName = "" := by
      have hboth := upper_eq_empty_iff.mp hempty
      unfold orElse at hboth
      split at hboth
      · exact hboth
      · next hvenue => exact absurd hboth hvenue
    rw [hempty]
    unfold orElse
    rw [if_pos rfl, hgateway]
    decide +kernel
  · rw [show orElse (orElse venue s.gatewayName).toUpper s.gatewayName =
      (orElse venue s.gatewayName).toUpper from if_neg hempty]
    exact Text.toUpper_toUpper _

/-- A new version of the symbol guards. -/
theorem Sound.withSymbols (hs : s.Sound) {symbols : GuardBook} (hsound : symbols.Sound .symbol)
    (hnames : ∀ name owner entry, symbols.Holds name owner entry →
      s.symbols.Holds name owner entry ∨ (name ≠ "" ∧ name.toUpper = name)) :
    ({ s with symbols := symbols } : GuardState).Sound :=
  ⟨hsound, hs.venues,
    fun name owner entry h =>
    (hnames name owner entry h).elim (hs.symbolNames name owner entry) id,
    hs.venueNames⟩

/-- A new version of the venue guards. -/
theorem Sound.withVenues (hs : s.Sound) {venues : GuardBook} (hsound : venues.Sound .venue)
    (hnames : ∀ name owner entry, venues.Holds name owner entry →
      s.venues.Holds name owner entry ∨ s.venueName name = name) :
    ({ s with venues := venues } : GuardState).Sound :=
  ⟨hs.symbols, hsound, hs.symbolNames,
    fun name owner entry h =>
    (hnames name owner entry h).elim (hs.venueNames name owner entry) id⟩

theorem Sound.audit (hs : s.Sound) (record : GuardRecord) : (s.audit record).Sound :=
  have hsame : SameBooks (s.audit record) s := ⟨rfl, rfl, rfl⟩
  hsame.sound hs

theorem Sound.clearSymbolFreeze (hs : s.Sound) (symbol : String) (expectedEpoch : Option ℤ)
    (expectedReason expectedOwner : String) :
    (s.clearSymbolFreeze symbol expectedEpoch expectedReason expectedOwner).Sound := by
  unfold GuardState.clearSymbolFreeze
  split
  · exact hs
  obtain ⟨hsound, hsub⟩ := hs.symbols.clear_subset symbol.toUpper expectedOwner
    (decide (expectedOwner = "" ∧ expectedReason = "" ∧ expectedEpoch = none))
    (fun entry => decide ((expectedReason = "" ∨ entry.reason = expectedReason) ∧
      (expectedEpoch = none ∨ expectedEpoch = some entry.epoch)))
  exact (hs.withSymbols hsound fun name owner entry h => .inl (hsub name owner entry h)).audit _

/-- **Every operation keeps the state sound.** -/
theorem Sound.apply (hs : s.Sound) (op : GuardOp) : (s.apply op).Sound := by
  cases op with
  | freezeSymbol symbol reason =>
    show (s.freezeSymbol symbol reason).Sound
    unfold freezeSymbol
    split
    · exact hs
    next hsymbol =>
      have hreason : orElse reason "symbol_guarded" ≠ "" := orElse_ne_empty (by decide) reason
      obtain ⟨hsound, hsame⟩ := hs.symbols.install symbol.toUpper hreason
      refine (hs.withSymbols hsound fun name owner entry h => ?_).audit _
      by_cases hname : name = symbol.toUpper
      · rw [hname]
        exact .inr ⟨toUpper_ne_empty hsymbol, Text.toUpper_toUpper symbol⟩
      · unfold GuardBook.Holds at h ⊢
        rw [hsame name hname] at h
        exact .inl h
  | clearSymbolFreeze symbol expectedEpoch expectedReason expectedOwner =>
    exact hs.clearSymbolFreeze symbol expectedEpoch expectedReason expectedOwner
  | clearOrderbookFreeze symbol recoveryToken =>
    show (s.clearOrderbookFreeze symbol recoveryToken).Sound
    unfold clearOrderbookFreeze
    dsimp only
    split
    · exact hs
    obtain ⟨hensured, -, hsame⟩ := hs.symbols.ensureRecords symbol.toUpper
    have hbefore : ({ s with
        symbols := (s.symbols.ensureRecords .symbol symbol.toUpper).1 } : GuardState).Sound := by
      refine hs.withSymbols hensured fun name owner entry h => ?_
      unfold GuardBook.Holds at h ⊢
      rw [hsame] at h
      exact .inl h
    split
    · exact hbefore.clearSymbolFreeze _ _ _ _
    · exact hbefore.audit _
  | freezeVenue venue reason =>
    have hreason : orElse reason "venue_guarded" ≠ "" := orElse_ne_empty (by decide) reason
    obtain ⟨hsound, hsame⟩ := hs.venues.install (s.venueName venue) hreason
    refine (hs.withVenues hsound fun name owner entry h => ?_).audit _
    by_cases hname : name = s.venueName venue
    · rw [hname]
      exact .inr (s.venueName_venueName venue)
    · unfold GuardBook.Holds at h ⊢
      rw [hsame name hname] at h
      exact .inl h
  | clearVenueFreeze venue expectedEpoch expectedReason expectedOwner =>
    obtain ⟨hsound, hsub⟩ := hs.venues.clear_subset (s.venueName venue) expectedOwner
      (decide (expectedOwner = "" ∧ expectedReason = none ∧ expectedEpoch = none))
      (fun entry => decide ((expectedReason = none ∨ expectedReason = some entry.reason) ∧
        (expectedEpoch = none ∨ expectedEpoch = some entry.epoch)))
    exact (hs.withVenues hsound fun name owner entry h => .inl (hsub name owner entry h)).audit _
  | freezeStrategy strategyId reason symbol =>
    exact (s.sameBooks_freezeStrategy strategyId reason symbol).sound hs
  | clearStrategyFreeze strategyId symbol =>
    exact (s.sameBooks_clearStrategyFreeze strategyId symbol).sound hs
  | setTradingMode mode reason => exact (s.sameBooks_setTradingMode mode reason).sound hs
  | clearTradingMode heads expectedGenerations =>
    exact (s.sameBooks_clearTradingMode heads expectedGenerations).sound hs

theorem Sound.fresh (gatewayName : String) : (fresh gatewayName).Sound :=
  ⟨.empty .symbol, .empty .venue, fun _ _ _ h => (by cases h), fun _ _ _ h => (by cases h)⟩

theorem Sound.foldl (hs : s.Sound) (ops : List GuardOp) :
    (ops.foldl GuardState.apply s).Sound := by
  induction ops generalizing s with
  | nil => exact hs
  | cons op rest ih => exact ih (hs.apply op)

end GuardState

/-! ## What is noted -/

namespace GuardCleanup

variable {heads : List String} {family : GuardFamily} {book : GuardBook}

theorem mem_ofOwners {name : String} {owners : GuardOwners} {g : CapturedGuard} :
    g ∈ ofOwners heads name owners ↔
      g.name = name ∧ owners.get? g.owner = some g.entry ∧
      selected heads g.entry.reason = true := by
  unfold ofOwners
  rw [mem_map]
  constructor
  · rintro ⟨p, hp, rfl⟩
    obtain ⟨hmem, hselected⟩ := mem_filter.mp hp
    exact ⟨rfl, Dict.get?_eq_some_iff.mpr hmem, hselected⟩
  · rintro ⟨rfl, hget, hselected⟩
    exact ⟨(g.owner, g.entry),
      mem_filter.mpr ⟨Dict.get?_eq_some_iff.mp hget, hselected⟩, rfl⟩

/-- The symbol part of the snapshot holds every selected guard, by owner. -/
theorem captureSymbols_spec (h : book.Sound .symbol) (names : List String) :
    (captureSymbols heads book names).1.Sound .symbol ∧
      (∀ name, (captureSymbols heads book names).1.ownersOf name = book.ownersOf name) ∧
      ∀ g, g ∈ (captureSymbols heads book names).2 ↔
        g.name ∈ names ∧ book.Holds g.name g.owner g.entry ∧
          selected heads g.entry.reason = true := by
  induction names generalizing book with
  | nil => exact ⟨h, fun _ => rfl, fun g => ⟨nofun, fun hg => nomatch hg.1⟩⟩
  | cons name rest ih =>
    obtain ⟨hensured, howners, hsame⟩ := h.ensureRecords name
    obtain ⟨hsound, hrest, hmem⟩ := ih hensured
    unfold captureSymbols
    refine ⟨hsound, fun name' => (hrest name').trans (hsame name'), fun g => ?_⟩
    rw [mem_append, howners, mem_ofOwners, hmem, mem_cons]
    unfold GuardBook.Holds
    rw [hsame]
    constructor
    · rintro (⟨rfl, hget, hselected⟩ | ⟨hin, hget, hselected⟩)
      · exact ⟨.inl rfl, hget, hselected⟩
      · exact ⟨.inr hin, hget, hselected⟩
    · rintro ⟨heq | hin, hget, hselected⟩
      · exact .inl ⟨heq, heq ▸ hget, hselected⟩
      · exact .inr ⟨hin, hget, hselected⟩

/-- The venue part holds the guards in effect. -/
theorem mem_captureVenues (h : book.Effective) {g : CapturedGuard} :
    g ∈ captureVenues heads book ↔
      g.owner = "" ∧ newest (book.ownersOf g.name) = some g.entry ∧
        selected heads g.entry.reason = true := by
  unfold captureVenues
  rw [mem_map]
  constructor
  · rintro ⟨p, hp, rfl⟩
    obtain ⟨hmem, hselected⟩ := mem_filter.mp hp
    have hget : book.guards.get? p.1 = some p.2 := Dict.get?_eq_some_iff.mpr hmem
    obtain ⟨hguard, hepoch⟩ := h p.1
    rw [hget] at hguard
    obtain ⟨entry, hentry, hreason⟩ := Option.map_eq_some_iff.mp hguard.symm
    rw [hentry, Option.map_some] at hepoch
    refine ⟨rfl, ?_, hselected⟩
    rw [hentry, Dict.getD, hepoch, ← hreason]
    rfl
  · rintro ⟨howner, hnewest, hselected⟩
    obtain ⟨hguard, hepoch⟩ := h g.name
    rw [hnewest, Option.map_some] at hguard hepoch
    refine ⟨(g.name, g.entry.reason), mem_filter.mpr
      ⟨Dict.get?_eq_some_iff.mp hguard, hselected⟩, ?_⟩
    rw [Dict.getD, hepoch, Option.getD_some, ← howner]

end GuardCleanup

namespace GuardState

variable {s t : GuardState} {heads : List String}

/-- **The snapshot**: of the symbols every selected guard, of the venues the selected guards that
are in effect. -/
theorem captureGuardCleanup_spec (hs : s.Sound) (heads : List String) :
    (s.captureGuardCleanup heads).1.Sound ∧
      (∀ family name owner entry, ((s.captureGuardCleanup heads).1.book family).Holds name owner
        entry ↔ (s.book family).Holds name owner entry) ∧
      (s.captureGuardCleanup heads).1.gatewayName = s.gatewayName ∧
      (∀ g, g ∈ (s.captureGuardCleanup heads).2.symbols ↔
        s.symbols.Holds g.name g.owner g.entry ∧
          GuardCleanup.selected heads g.entry.reason = true) ∧
      ∀ g, g ∈ (s.captureGuardCleanup heads).2.venues ↔
        g.owner = "" ∧ newest (s.venues.ownersOf g.name) = some g.entry ∧
          GuardCleanup.selected heads g.entry.reason = true := by
  obtain ⟨hsound, hsame, hmem⟩ := @GuardCleanup.captureSymbols_spec heads _ hs.symbols
    (s.symbols.guards.keys ++ s.symbols.records.keys).dedup
  have hholds : ∀ name owner entry,
      (GuardCleanup.captureSymbols heads s.symbols
        (s.symbols.guards.keys ++ s.symbols.records.keys).dedup).1.Holds name owner entry ↔
      s.symbols.Holds name owner entry := by
    intro name owner entry
    unfold GuardBook.Holds
    rw [hsame]
  refine ⟨hs.withSymbols hsound fun name owner entry h => .inl ((hholds name owner entry).mp h),
    ?_, rfl, fun g => ?_, fun g => GuardCleanup.mem_captureVenues hs.venues.effective⟩
  · intro family name owner entry
    cases family with
    | symbol => exact hholds name owner entry
    | venue => exact Iff.rfl
  · refine (hmem g).trans ⟨fun h => h.2, fun h => ⟨?_, h⟩⟩
    rw [mem_dedup, mem_append]
    refine .inr (Dict.mem_keys_iff.mpr ?_)
    have hget := h.1
    unfold GuardBook.Holds GuardBook.ownersOf at hget
    rw [Dict.getD] at hget
    cases hrecord : s.symbols.records.get? g.name with
    | none =>
      rw [hrecord] at hget
      cases hget
    | some owners => exact ⟨owners, rfl⟩

/-! ## What is cleared -/

variable {entry entry₀ : GuardEntry} {owner : String}

/-- What `clear_symbol_freeze` accepts when it is given a reason and an epoch. -/
theorem accepts_symbol_iff (hreason : entry₀.reason ≠ "") :
    decide ((entry₀.reason = "" ∨ entry.reason = entry₀.reason) ∧
      (some entry₀.epoch = none ∨ some entry₀.epoch = some entry.epoch)) = true ↔
      entry = entry₀ := by
  rw [decide_eq_true_eq]
  cases entry with
  | mk reason epoch =>
    cases entry₀ with
    | mk reason₀ epoch₀ =>
      simp only [reduceCtorEq, false_or, Option.some.injEq, GuardEntry.mk.injEq]
      refine and_congr (or_iff_right hreason) eq_comm

/-- What `clear_venue_freeze` accepts when it is given a reason and an epoch. -/
theorem accepts_venue_iff :
    decide ((some entry₀.reason = none ∨ some entry₀.reason = some entry.reason) ∧
      (some entry₀.epoch = none ∨ some entry₀.epoch = some entry.epoch)) = true ↔
      entry = entry₀ := by
  rw [decide_eq_true_eq]
  cases entry with
  | mk reason epoch =>
    cases entry₀ with
    | mk reason₀ epoch₀ =>
      simp only [reduceCtorEq, false_or, Option.some.injEq, GuardEntry.mk.injEq]
      exact and_congr eq_comm eq_comm

/-- Clearing one noted symbol guard. -/
theorem Sound.clearCapturedSymbol (hs : s.Sound) {g : CapturedGuard} (hname : g.name ≠ "")
    (hupper : g.name.toUpper = g.name) (hreason : g.entry.reason ≠ "")
    (howner : g.owner = guardOwner .symbol g.entry.reason) :
    (s.clearCapturedSymbol g).Sound ∧ (s.clearCapturedSymbol g).venues = s.venues ∧
      (s.clearCapturedSymbol g).gatewayName = s.gatewayName ∧
      ∀ name owner entry, (s.clearCapturedSymbol g).symbols.Holds name owner entry ↔
        s.symbols.Holds name owner entry ∧ ¬(name = g.name ∧ entry = g.entry) := by
  have hconditional : decide (g.owner = "" ∧ g.entry.reason = "" ∧ some g.entry.epoch = none) =
      false := decide_eq_false fun h => nomatch h.2.2
  refine ⟨hs.clearSymbolFreeze _ _ _ _, ?_⟩
  unfold GuardState.clearCapturedSymbol GuardState.clearSymbolFreeze
  rw [if_neg hname, hupper, hconditional]
  exact ⟨rfl, rfl, (hs.symbols.clear_entry g.name g.entry (.inr howner)
    fun _ => accepts_symbol_iff hreason).2⟩

/-- Clearing one noted venue guard. -/
theorem Sound.clearCapturedVenue (hs : s.Sound) {g : CapturedGuard}
    (hname : s.venueName g.name = g.name) :
    (s.clearCapturedVenue g).Sound ∧ (s.clearCapturedVenue g).symbols = s.symbols ∧
      (s.clearCapturedVenue g).gatewayName = s.gatewayName ∧
      ∀ name owner entry, (s.clearCapturedVenue g).venues.Holds name owner entry ↔
        s.venues.Holds name owner entry ∧ ¬(name = g.name ∧ entry = g.entry) := by
  have hconditional : decide (("" : String) = "" ∧ some g.entry.reason = none ∧
      some g.entry.epoch = none) = false := decide_eq_false fun h => nomatch h.2.1
  refine ⟨hs.apply (.clearVenueFreeze g.name (some g.entry.epoch) (some g.entry.reason) ""), ?_⟩
  unfold GuardState.clearCapturedVenue GuardState.clearVenueFreeze
  rw [hname, hconditional]
  exact ⟨rfl, rfl, (hs.venues.clear_entry g.name g.entry (.inl rfl)
    fun _ => accepts_venue_iff).2⟩

/-- Clearing the noted symbol guards one after the other. -/
theorem Sound.foldl_clearCapturedSymbol (hs : s.Sound) (captured : List CapturedGuard)
    (hcaptured : ∀ g ∈ captured, g.name ≠ "" ∧ g.name.toUpper = g.name ∧ g.entry.reason ≠ "" ∧
      g.owner = guardOwner .symbol g.entry.reason) :
    (captured.foldl GuardState.clearCapturedSymbol s).Sound ∧
      (captured.foldl GuardState.clearCapturedSymbol s).venues = s.venues ∧
      (captured.foldl GuardState.clearCapturedSymbol s).gatewayName = s.gatewayName ∧
      ∀ name owner entry,
        (captured.foldl GuardState.clearCapturedSymbol s).symbols.Holds name owner entry ↔
          s.symbols.Holds name owner entry ∧
            ¬∃ g ∈ captured, name = g.name ∧ entry = g.entry := by
  induction captured generalizing s with
  | nil => exact ⟨hs, rfl, rfl, fun _ _ _ => ⟨fun h => ⟨h, nofun⟩, fun h => h.1⟩⟩
  | cons g rest ih =>
    obtain ⟨hname, hupper, hreason, howner⟩ := hcaptured g mem_cons_self
    obtain ⟨hsound, hvenues, hgateway, hholds⟩ :=
      hs.clearCapturedSymbol hname hupper hreason howner
    obtain ⟨hsound', hvenues', hgateway', hholds'⟩ :=
      ih hsound fun g' hg' => hcaptured g' (mem_cons_of_mem _ hg')
    refine ⟨hsound', hvenues'.trans hvenues, hgateway'.trans hgateway,
      fun name owner entry => ?_⟩
    rw [foldl_cons, hholds', hholds, and_assoc]
    simp only [mem_cons, exists_eq_or_imp, not_or]

/-- Clearing the noted venue guards one after the other. -/
theorem Sound.foldl_clearCapturedVenue (hs : s.Sound) (captured : List CapturedGuard)
    (hcaptured : ∀ g ∈ captured, s.venueName g.name = g.name) :
    (captured.foldl GuardState.clearCapturedVenue s).Sound ∧
      (captured.foldl GuardState.clearCapturedVenue s).symbols = s.symbols ∧
      ∀ name owner entry,
        (captured.foldl GuardState.clearCapturedVenue s).venues.Holds name owner entry ↔
          s.venues.Holds name owner entry ∧
            ¬∃ g ∈ captured, name = g.name ∧ entry = g.entry := by
  induction captured generalizing s with
  | nil => exact ⟨hs, rfl, fun _ _ _ => ⟨fun h => ⟨h, nofun⟩, fun h => h.1⟩⟩
  | cons g rest ih =>
    obtain ⟨hsound, hsymbols, hgateway, hholds⟩ :=
      hs.clearCapturedVenue (hcaptured g mem_cons_self)
    obtain ⟨hsound', hsymbols', hholds'⟩ := ih hsound fun g' hg' => by
      unfold venueName
      rw [hgateway]
      exact hcaptured g' (mem_cons_of_mem _ hg')
    refine ⟨hsound', hsymbols'.trans hsymbols, fun name owner entry => ?_⟩
    rw [foldl_cons, hholds', hholds, and_assoc]
    simp only [mem_cons, exists_eq_or_imp, not_or]

/-- The strategy part of the cleanup leaves the guards by owner alone. -/
theorem sameBooks_foldl {α : Type} {f : GuardState → α → GuardState}
    (hf : ∀ s a, SameBooks (f s a) s) (captured : List α) (s : GuardState) :
    SameBooks (captured.foldl f s) s := by
  induction captured generalizing s with
  | nil => exact ⟨rfl, rfl, rfl⟩
  | cons a rest ih =>
    have hrest := ih (f s a)
    exact ⟨hrest.symbols.trans (hf s a).symbols, hrest.venues.trans (hf s a).venues,
      hrest.gatewayName.trans (hf s a).gatewayName⟩

/-- **What the cleanup removes**, of a snapshot that was taken from `s`: every symbol guard that
was noted and is unchanged, every venue guard that was noted in effect and is unchanged, and
nothing else. -/
theorem clearGuardCleanup_spec (hs : s.Sound) (heads : List String) (ht : t.Sound)
    (hgateway : t.gatewayName = s.gatewayName) :
    (∀ name owner entry,
      (t.clearGuardCleanup (s.captureGuardCleanup heads).2).symbols.Holds name owner entry ↔
        t.symbols.Holds name owner entry ∧
          ¬(s.symbols.Holds name owner entry ∧
            GuardCleanup.selected heads entry.reason = true)) ∧
    ∀ name owner entry,
      (t.clearGuardCleanup (s.captureGuardCleanup heads).2).venues.Holds name owner entry ↔
        t.venues.Holds name owner entry ∧
          ¬(newest (s.venues.ownersOf name) = some entry ∧
            GuardCleanup.selected heads entry.reason = true) := by
  obtain ⟨-, -, -, hsymbols, hvenues⟩ := captureGuardCleanup_spec hs heads
  generalize (s.captureGuardCleanup heads).2 = snapshot at hsymbols hvenues ⊢
  obtain ⟨hsound₁, hvenues₁, hgateway₁, hholds₁⟩ :=
    ht.foldl_clearCapturedSymbol snapshot.symbols fun g hg => by
      obtain ⟨hget, -⟩ := (hsymbols g).mp hg
      obtain ⟨hname, hupper⟩ := hs.symbolNames _ _ _ hget
      exact ⟨hname, hupper, (hs.symbols.ok g.name).reason _ _ hget,
        (hs.symbols.ok g.name).owner _ _ hget⟩
  obtain ⟨-, hsymbols₂, hholds₂⟩ :=
    hsound₁.foldl_clearCapturedVenue snapshot.venues fun g hg => by
      obtain ⟨owner, hget⟩ := (newest_spec ((hvenues g).mp hg).2.1).1
      have hname := hs.venueNames g.name owner g.entry hget
      unfold venueName at hname ⊢
      rw [hgateway₁, hgateway]
      exact hname
  have hstrategies : ∀ s g, SameBooks (GuardState.clearCapturedStrategy s g) s := by
    intro s g
    unfold clearCapturedStrategy
    split
    · exact ⟨rfl, rfl, rfl⟩
    · exact s.sameBooks_clearStrategyFreeze _ _
  have hpairs : ∀ s g, SameBooks (GuardState.clearCapturedStrategySymbol s g) s := by
    intro s g
    unfold clearCapturedStrategySymbol
    split
    · exact ⟨rfl, rfl, rfl⟩
    · exact s.sameBooks_clearStrategyFreeze _ _
  unfold clearGuardCleanup
  dsimp only
  rw [(sameBooks_foldl hpairs _ _).symbols, (sameBooks_foldl hpairs _ _).venues,
    (sameBooks_foldl hstrategies _ _).symbols, (sameBooks_foldl hstrategies _ _).venues]
  constructor
  · intro name owner entry
    rw [hsymbols₂, hholds₁]
    refine and_congr_right fun hget => not_congr ?_
    constructor
    · rintro ⟨g, hg, rfl, rfl⟩
      obtain ⟨hheld, hselected⟩ := (hsymbols g).mp hg
      -- the reason leads to the owner, then and now
      have howner := (ht.symbols.ok g.name).owner owner g.entry hget
      rw [← (hs.symbols.ok g.name).owner g.owner g.entry hheld] at howner
      exact ⟨howner ▸ hheld, hselected⟩
    · rintro ⟨hheld, hselected⟩
      exact ⟨⟨name, owner, entry⟩, (hsymbols _).mpr ⟨hheld, hselected⟩, rfl, rfl⟩
  · intro name owner entry
    rw [hholds₂, hvenues₁]
    refine and_congr_right fun _ => not_congr ?_
    constructor
    · rintro ⟨g, hg, rfl, rfl⟩
      exact ((hvenues g).mp hg).2
    · rintro ⟨hnewest, hselected⟩
      exact ⟨⟨name, "", entry⟩, (hvenues _).mpr ⟨rfl, hnewest, hselected⟩, rfl, rfl⟩

/-! ## What holds of every run -/

/-- A clear of a symbol guard by owner, epoch and reason. -/
theorem Sound.clearSymbolFreeze_exact (hs : s.Sound) (symbol : String) {reason : String}
    (howner : owner ≠ "") (hreason : reason ≠ "") (epoch : ℤ) (name owner' : String)
    (entry : GuardEntry) :
    (s.clearSymbolFreeze symbol (some epoch) reason owner).symbols.Holds name owner' entry ↔
      s.symbols.Holds name owner' entry ∧
        ¬(name = symbol.toUpper ∧ owner' = owner ∧ entry = ⟨reason, epoch⟩) := by
  unfold GuardState.clearSymbolFreeze
  by_cases hsymbol : symbol = ""
  · rw [if_pos hsymbol]
    refine ⟨fun h => ⟨h, ?_⟩, fun h => h.1⟩
    rintro ⟨hname, -⟩
    refine (hs.symbolNames name owner' entry h).1 ?_
    rw [hname, hsymbol]
    exact upper_eq_empty_iff.mpr rfl
  · have hconditional : decide (owner = "" ∧ reason = "" ∧ some epoch = none) = false :=
      decide_eq_false fun h => nomatch h.2.2
    rw [if_neg hsymbol, hconditional]
    exact (hs.symbols.clear_owned symbol.toUpper ⟨reason, epoch⟩ howner
      fun _ => accepts_symbol_iff hreason).2 name owner' entry

/-- A clear of a venue guard by owner, epoch and reason. -/
theorem Sound.clearVenueFreeze_exact (hs : s.Sound) (venue : String)
    (howner : owner ≠ "") (reason : String) (epoch : ℤ) (name owner' : String)
    (entry : GuardEntry) :
    (s.clearVenueFreeze venue (some epoch) (some reason) owner).venues.Holds name owner' entry ↔
      s.venues.Holds name owner' entry ∧
        ¬(name = s.venueName venue ∧ owner' = owner ∧ entry = ⟨reason, epoch⟩) := by
  have hconditional : decide (owner = "" ∧ some reason = none ∧ some epoch = none) = false :=
    decide_eq_false fun h => nomatch h.2.1
  unfold GuardState.clearVenueFreeze
  rw [hconditional]
  exact (hs.venues.clear_owned (s.venueName venue) ⟨reason, epoch⟩ howner
    fun _ => @accepts_venue_iff _ ⟨reason, epoch⟩).2 name owner' entry

theorem Sound.book (hs : s.Sound) (family : GuardFamily) : (s.book family).Sound family := by
  cases family with
  | symbol => exact hs.symbols
  | venue => exact hs.venues

/-- A guard is the newest of its name when the effective epoch is its own. -/
theorem Sound.newest_eq_iff (hs : s.Sound) {family : GuardFamily} {name : String}
    (hget : (s.book family).Holds name owner entry) :
    newest ((s.book family).ownersOf name) = some entry ↔
      (s.book family).epochs.get? name = some entry.epoch := by
  rw [((hs.book family).effective name).2]
  constructor
  · intro hnewest
    rw [hnewest, Option.map_some]
  intro hepoch
  obtain ⟨other, hnewest, heq⟩ := Option.map_eq_some_iff.mp hepoch
  obtain ⟨owner', hget'⟩ := (newest_spec hnewest).1
  have howner := ((hs.book family).ok name).distinct owner' other owner entry hget' hget heq
  rw [hnewest]
  unfold GuardBook.Holds at hget
  rw [howner] at hget'
  exact hget'.symm.trans hget

/-- **The effective guard** of a name is its newest one, and there is one exactly when the name
has an owner. -/
theorem Sound.effective_spec (hs : s.Sound) (family : GuardFamily) (name : String) :
    ((∃ reason, (s.book family).guards.get? name = some reason) ↔
        ∃ owner entry, (s.book family).Holds name owner entry) ∧
      ∀ reason, (s.book family).guards.get? name = some reason →
        ∃ owner epoch, (s.book family).epochs.get? name = some epoch ∧
          (s.book family).Holds name owner ⟨reason, epoch⟩ ∧
          ∀ owner' entry, (s.book family).Holds name owner' entry → entry.epoch ≤ epoch := by
  obtain ⟨hguard, hepoch⟩ := (hs.book family).effective name
  cases hnewest : newest ((s.book family).ownersOf name) with
  | none =>
    rw [hnewest, Option.map_none] at hguard
    rw [hguard]
    refine ⟨⟨nofun, ?_⟩, nofun⟩
    rintro ⟨owner, entry, hget⟩
    unfold GuardBook.Holds at hget
    rw [newest_eq_none_iff.mp hnewest] at hget
    cases hget
  | some entry =>
    rw [hnewest, Option.map_some] at hguard hepoch
    obtain ⟨⟨owner, hget⟩, hmax⟩ := newest_spec hnewest
    refine ⟨⟨fun _ => ⟨owner, entry, hget⟩, fun _ => ⟨entry.reason, hguard⟩⟩, ?_⟩
    intro reason hreason
    cases hguard.symm.trans hreason
    exact ⟨owner, entry.epoch, hepoch, hget, hmax⟩

/-- **When the cleanup is complete.** -/
theorem cleanup_complete_iff (hs : s.Sound) (heads : List String) (ht : t.Sound)
    (hgateway : t.gatewayName = s.gatewayName) :
    (∀ family name owner entry, (s.book family).Holds name owner entry →
      GuardCleanup.selected heads entry.reason = true → (t.book family).Holds name owner entry →
        ¬((t.clearGuardCleanup (s.captureGuardCleanup heads).2).book family).Holds name owner
          entry) ↔
      ∀ venue owner entry, s.venues.Holds venue owner entry →
        GuardCleanup.selected heads entry.reason = true → t.venues.Holds venue owner entry →
          s.venues.epochs.get? venue = some entry.epoch := by
  obtain ⟨hsymbols, hvenues⟩ := clearGuardCleanup_spec hs heads ht hgateway
  constructor
  · intro hcomplete venue owner entry hheld hselected hstill
    have hgone := hcomplete .venue venue owner entry hheld hselected hstill
    have hiff : newest ((s.book .venue).ownersOf venue) = some entry ↔
        (s.book .venue).epochs.get? venue = some entry.epoch := hs.newest_eq_iff hheld
    refine hiff.mp ?_
    by_contra hnot
    exact hgone ((hvenues venue owner entry).mpr ⟨hstill, fun h => hnot h.1⟩)
  · intro hcondition family name owner entry hheld hselected hstill hleft
    cases family with
    | symbol => exact ((hsymbols name owner entry).mp hleft).2 ⟨hheld, hselected⟩
    | venue =>
      have hepoch := hcondition name owner entry hheld hselected hstill
      have hiff : newest ((s.book .venue).ownersOf name) = some entry ↔
          (s.book .venue).epochs.get? name = some entry.epoch := hs.newest_eq_iff hheld
      exact ((hvenues name owner entry).mp hleft).2 ⟨hiff.mpr hepoch, hselected⟩

theorem gatewayName_clearSymbolFreeze (s : GuardState) (symbol : String)
    (expectedEpoch : Option ℤ) (expectedReason expectedOwner : String) :
    (s.clearSymbolFreeze symbol expectedEpoch expectedReason expectedOwner).gatewayName =
      s.gatewayName := by
  unfold GuardState.clearSymbolFreeze
  split <;> rfl

theorem gatewayName_apply (s : GuardState) (op : GuardOp) :
    (s.apply op).gatewayName = s.gatewayName := by
  cases op with
  | freezeSymbol symbol reason =>
    show (s.freezeSymbol symbol reason).gatewayName = _
    unfold freezeSymbol
    split <;> rfl
  | clearSymbolFreeze symbol expectedEpoch expectedReason expectedOwner =>
    exact s.gatewayName_clearSymbolFreeze symbol expectedEpoch expectedReason expectedOwner
  | clearOrderbookFreeze symbol recoveryToken =>
    show (s.clearOrderbookFreeze symbol recoveryToken).gatewayName = _
    unfold clearOrderbookFreeze
    dsimp only
    split
    · rfl
    · split
      · exact gatewayName_clearSymbolFreeze _ _ _ _ _
      · rfl
  | freezeVenue venue reason => rfl
  | clearVenueFreeze venue expectedEpoch expectedReason expectedOwner => rfl
  | freezeStrategy strategyId reason symbol =>
    exact (s.sameBooks_freezeStrategy strategyId reason symbol).gatewayName
  | clearStrategyFreeze strategyId symbol =>
    exact (s.sameBooks_clearStrategyFreeze strategyId symbol).gatewayName
  | setTradingMode mode reason => exact (s.sameBooks_setTradingMode mode reason).gatewayName
  | clearTradingMode heads expectedGenerations =>
    exact (s.sameBooks_clearTradingMode heads expectedGenerations).gatewayName

theorem gatewayName_foldl (ops : List GuardOp) (s : GuardState) :
    (ops.foldl GuardState.apply s).gatewayName = s.gatewayName := by
  induction ops generalizing s with
  | nil => rfl
  | cons op rest ih => exact (ih (s.apply op)).trans (s.gatewayName_apply op)

/-- **Guards, clears and cleanups.**  In every run: a clear by owner, epoch and reason removes
exactly the guard with that owner, epoch and reason; the effective guard is the newest one; and a
cleanup leaves alone what was not noted or has changed.  It removes everything that was noted and
is unchanged exactly when, of the guards of each venue, only the one in effect at the capture is.
-/
theorem guard_cleanup_iff (gatewayName : String) (earlier later : List GuardOp)
    (heads : List String) :
    let s := earlier.foldl GuardState.apply (fresh gatewayName)
    let t := later.foldl GuardState.apply (s.captureGuardCleanup heads).1
    let u := t.clearGuardCleanup (s.captureGuardCleanup heads).2
    (∀ symbol owner reason epoch, owner ≠ "" → reason ≠ "" → ∀ name owner' entry,
      (s.clearSymbolFreeze symbol (some epoch) reason owner).symbols.Holds name owner' entry ↔
        s.symbols.Holds name owner' entry ∧
          ¬(name = symbol.toUpper ∧ owner' = owner ∧ entry = ⟨reason, epoch⟩)) ∧
    (∀ venue owner reason epoch, owner ≠ "" → ∀ name owner' entry,
      (s.clearVenueFreeze venue (some epoch) (some reason) owner).venues.Holds name owner'
      entry ↔
        s.venues.Holds name owner' entry ∧
          ¬(name = s.venueName venue ∧ owner' = owner ∧ entry = ⟨reason, epoch⟩)) ∧
    (∀ family name,
      ((∃ reason, (s.book family).guards.get? name = some reason) ↔
        ∃ owner entry, (s.book family).Holds name owner entry) ∧
      ∀ reason, (s.book family).guards.get? name = some reason →
        ∃ owner epoch, (s.book family).epochs.get? name = some epoch ∧
          (s.book family).Holds name owner ⟨reason, epoch⟩ ∧
          ∀ owner' entry, (s.book family).Holds name owner' entry → entry.epoch ≤ epoch) ∧
    (∀ family name owner entry,
      ((u.book family).Holds name owner entry → (t.book family).Holds name owner entry) ∧
      ((t.book family).Holds name owner entry →
        ¬((s.book family).Holds name owner entry ∧
          GuardCleanup.selected heads entry.reason = true) →
        (u.book family).Holds name owner entry)) ∧
    ((∀ family name owner entry, (s.book family).Holds name owner entry →
      GuardCleanup.selected heads entry.reason = true → (t.book family).Holds name owner entry →
        ¬(u.book family).Holds name owner entry) ↔
      ∀ venue owner entry, s.venues.Holds venue owner entry →
        GuardCleanup.selected heads entry.reason = true → t.venues.Holds venue owner entry →
          s.venues.epochs.get? venue = some entry.epoch) := by
  intro s t u
  have hs : s.Sound := (Sound.fresh gatewayName).foldl earlier
  obtain ⟨hcaptured, -, hgateway, -⟩ := captureGuardCleanup_spec hs heads
  have ht : t.Sound := hcaptured.foldl later
  have hsame : t.gatewayName = s.gatewayName := (gatewayName_foldl later _).trans hgateway
  obtain ⟨hsymbols, hvenues⟩ := clearGuardCleanup_spec hs heads ht hsame
  refine ⟨fun symbol owner reason epoch howner hreason =>
      hs.clearSymbolFreeze_exact symbol howner hreason epoch,
    fun venue owner reason epoch howner => hs.clearVenueFreeze_exact venue howner reason epoch,
    hs.effective_spec, fun family name owner entry => ?_,
    cleanup_complete_iff hs heads ht hsame⟩
  cases family with
  | symbol =>
    exact ⟨fun h => ((hsymbols name owner entry).mp h).1,
      fun h hnot => (hsymbols name owner entry).mpr ⟨h, hnot⟩⟩
  | venue =>
    refine ⟨fun h => ((hvenues name owner entry).mp h).1,
      fun h hnot => (hvenues name owner entry).mpr ⟨h, fun hboth => hnot ⟨?_, hboth.2⟩⟩⟩
    -- what was in effect then is of the same owner now
    obtain ⟨owner', hget⟩ := (newest_spec hboth.1).1
    have howner := (ht.venues.ok name).owner owner entry h
    rw [← (hs.venues.ok name).owner owner' entry hget] at howner
    exact howner ▸ hget

/-- A venue frozen by two owners: the guard that is not in effect outlives the cleanup, although
it was there at the capture and nothing has happened since. -/
theorem cleanup_keeps_other_owner :
    ¬∀ family name owner entry,
      ((((fresh "BINANCE").freezeVenue "BINANCE" "latency:slow").freezeVenue "BINANCE"
        "divergence:mid").book family).Holds name owner entry →
      ¬((((((fresh "BINANCE").freezeVenue "BINANCE" "latency:slow").freezeVenue "BINANCE"
          "divergence:mid").captureGuardCleanup []).1.clearGuardCleanup
        ((((fresh "BINANCE").freezeVenue "BINANCE" "latency:slow").freezeVenue "BINANCE"
          "divergence:mid").captureGuardCleanup []).2).book family).Holds name owner entry := by
  intro hcomplete
  refine hcomplete .venue "BINANCE" "latency" ⟨"latency:slow", 1⟩ ?_ ?_
  · unfold GuardBook.Holds
    decide +kernel
  · unfold GuardBook.Holds
    decide +kernel

/-- The one guard of a venue that was frozen once. -/
theorem holds_frozen_iff {venue : String} :
    ((fresh "BINANCE").freezeVenue "BINANCE" "latency:slow").venues.Holds venue owner entry ↔
      venue = "BINANCE" ∧ owner = "latency" ∧ entry = ⟨"latency:slow", 1⟩ := by
  unfold GuardBook.Holds
  by_cases hvenue : venue = "BINANCE"
  · subst hvenue
    have howners : ((fresh "BINANCE").freezeVenue "BINANCE" "latency:slow").venues.ownersOf
        "BINANCE" =
        Dict.set ∅ "latency" ⟨"latency:slow", 1⟩ := by
      decide +kernel
    rw [howners, Dict.get?_set]
    split
    · next heq => simp [heq, eq_comm]
    · next hne => simp [hne]
  · have hbook : ((fresh "BINANCE").freezeVenue "BINANCE" "latency:slow").venues =
        (({} : GuardBook).install .venue "BINANCE" "latency:slow").1 := by
      decide +kernel
    have hother := ((GuardBook.Sound.empty .venue).install "BINANCE" (show "latency:slow" ≠ "" by
      decide)).2
      venue hvenue
    rw [hbook, hother]
    exact ⟨nofun, fun h => absurd h.1 hvenue⟩

/-- A clear that names the guard of the first freeze leaves that of the second; and the cleanup
of a venue leaves the guard of an owner who has frozen it since. -/
theorem guard_cleanup_iff_stale_clear :
    (((((fresh "BINANCE").freezeSymbol "BTCUSDT" "divergence:mid").freezeSymbol "BTCUSDT"
      "divergence:mid").clearSymbolFreeze "BTCUSDT" (some 1) "divergence:mid"
        "divergence").symbols).Holds "BTCUSDT" "divergence" ⟨"divergence:mid", 2⟩ ∧
    let captured := ((fresh "BINANCE").freezeVenue "BINANCE" "latency:slow").captureGuardCleanup
      []
    let u := (captured.1.freezeVenue "BINANCE" "divergence:mid").clearGuardCleanup captured.2
    ¬u.venues.Holds "BINANCE" "latency" ⟨"latency:slow", 1⟩ ∧
      u.venues.Holds "BINANCE" "divergence" ⟨"divergence:mid", 2⟩ := by
  have hclear := (guard_cleanup_iff "BINANCE"
    [.freezeSymbol "BTCUSDT" "divergence:mid", .freezeSymbol "BTCUSDT" "divergence:mid"] [] []).1
      "BTCUSDT" "divergence" "divergence:mid" 1 (by decide) (by decide)
  obtain ⟨-, -, -, hkept, hgone⟩ :=
    guard_cleanup_iff "BINANCE" [.freezeVenue "BINANCE" "latency:slow"]
    [.freezeVenue "BINANCE" "divergence:mid"] []
  refine ⟨(hclear "BTCUSDT" "divergence" ⟨"divergence:mid", 2⟩).mpr ⟨?_, ?_⟩,
    hgone.mpr ?_ .venue "BINANCE" "latency" ⟨"latency:slow", 1⟩
    (holds_frozen_iff.mpr ⟨rfl, rfl, rfl⟩) rfl ?_,
    (hkept .venue "BINANCE" "divergence" ⟨"divergence:mid", 2⟩).2 ?_ ?_⟩
  · unfold GuardBook.Holds
    decide +kernel
  · rintro ⟨-, -, hentry⟩
    exact absurd hentry (by decide)
  · rintro venue owner entry hholds - -
    obtain ⟨rfl, rfl, rfl⟩ := holds_frozen_iff.mp hholds
    decide +kernel
  · unfold GuardBook.Holds
    decide +kernel
  · unfold GuardBook.Holds
    decide +kernel
  · rintro ⟨hholds, -⟩
    exact absurd (holds_frozen_iff.mp hholds).2.1 (by decide)

end GuardState

end ChronosHFT.Oms
