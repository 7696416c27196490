import ChronosHFT.Oms.GuardSpec

/-!
# Guard recovery

The mirrors of the strategy guards and of the mode constraints, and the result: in a run of
guard operations the journal leads back to the guards after every operation, exactly when
every operation is careful (`GuardState.rebuilds_along_iff`).
-/

namespace ChronosHFT.Oms

open List

/-! ## Strategies on one symbol -/

theorem partition_pairKey {strategyId : String} (h : '|' ∉ strategyId.toList) (symbol : String) :
    Text.partition '|' (GuardSummary.pairKey strategyId symbol) = some (strategyId, symbol) :=
  Text.partition_append h symbol

theorem pairKey_inj {strategyId symbol strategyId' symbol' : String}
    (h : '|' ∉ strategyId.toList) (h' : '|' ∉ strategyId'.toList)
    (heq : GuardSummary.pairKey strategyId symbol = GuardSummary.pairKey strategyId' symbol') :
    (strategyId, symbol) = (strategyId', symbol') := by
  have hsplit := partition_pairKey h symbol
  rw [heq, partition_pairKey h' symbol'] at hsplit
  exact (Option.some.inj hsplit).symm

/-- The mirror of the guards of strategies on symbols: each is kept under its text, and no
strategy holds the separator. -/
structure PairsMirror (kept : Dict String String) (live : Dict (String × String) String) :
    Prop where
  keys : ∀ key reason, kept.get? key = some reason →
    ∃ strategyId symbol, '|' ∉ strategyId.toList ∧ key = GuardSummary.pairKey strategyId symbol
  pairs : ∀ pair reason, live.get? pair = some reason → '|' ∉ pair.1.toList ∧ reason ≠ ""
  same : ∀ strategyId symbol, '|' ∉ strategyId.toList →
    kept.get? (GuardSummary.pairKey strategyId symbol) = live.get? (strategyId, symbol)

namespace PairsMirror

variable {kept : Dict String String} {live : Dict (String × String) String}
  {strategyId : String}

theorem set (h : PairsMirror kept live) (hbar : '|' ∉ strategyId.toList) (symbol : String)
    {reason : String} (hreason : reason ≠ "") :
    PairsMirror (kept.set (GuardSummary.pairKey strategyId symbol) reason)
      (live.set (strategyId, symbol) reason) := by
  refine ⟨?_, ?_, ?_⟩
  · intro key reason' hget
    rw [Dict.get?_set] at hget
    split at hget
    · next heq => exact ⟨strategyId, symbol, hbar, heq⟩
    · exact h.keys key reason' hget
  · intro pair reason' hget
    rw [Dict.get?_set] at hget
    split at hget
    · next heq =>
      cases hget
      rw [heq]
      exact ⟨hbar, hreason⟩
    · exact h.pairs pair reason' hget
  · intro strategyId' symbol' hbar'
    rw [Dict.get?_set, Dict.get?_set, h.same strategyId' symbol' hbar']
    by_cases heq : (strategyId', symbol') = (strategyId, symbol)
    · cases heq
      rw [if_pos rfl, if_pos rfl]
    · rw [if_neg heq, if_neg fun hkey => heq (pairKey_inj hbar' hbar hkey)]

theorem erase (h : PairsMirror kept live) (hbar : '|' ∉ strategyId.toList) (symbol : String) :
    PairsMirror (kept.erase (GuardSummary.pairKey strategyId symbol))
      (live.erase (strategyId, symbol)) := by
  refine ⟨?_, ?_, ?_⟩
  · intro key reason' hget
    rw [Dict.get?_erase] at hget
    split at hget
    · cases hget
    · exact h.keys key reason' hget
  · intro pair reason' hget
    rw [Dict.get?_erase] at hget
    split at hget
    · cases hget
    · exact h.pairs pair reason' hget
  · intro strategyId' symbol' hbar'
    rw [Dict.get?_erase, Dict.get?_erase, h.same strategyId' symbol' hbar']
    by_cases heq : (strategyId', symbol') = (strategyId, symbol)
    · cases heq
      rw [if_pos rfl, if_pos rfl]
    · rw [if_neg heq, if_neg fun hkey => heq (pairKey_inj hbar' hbar hkey)]

/-- Splitting the texts of the summary gives the pairs back. -/
theorem restorePairs (h : PairsMirror kept live) :
    Dict.Same (GuardSummary.restorePairs kept) live := by
  have hkey : ∀ p ∈ kept.items, ∀ pair, Text.partition '|' p.1 = some pair →
      '|' ∉ pair.1.toList ∧ p.1 = GuardSummary.pairKey pair.1 pair.2 := by
    intro p hp pair hpair
    obtain ⟨strategyId, symbol, hbar, heq⟩ :=
      h.keys p.1 p.2 (Dict.get?_eq_some_iff.mpr hp)
    rw [heq, partition_pairKey hbar] at hpair
    cases hpair
    exact ⟨hbar, heq⟩
  have hmem : ∀ pair reason,
      (pair, reason) ∈ kept.items.filterMap (fun p =>
        (Text.partition '|' p.1).map fun pair => (pair, p.2)) ↔
      '|' ∉ pair.1.toList ∧ kept.get? (GuardSummary.pairKey pair.1 pair.2) = some reason := by
    intro pair reason
    rw [mem_filterMap]
    constructor
    · rintro ⟨p, hp, hsome⟩
      obtain ⟨pair', hpair, heq⟩ := Option.map_eq_some_iff.mp hsome
      cases heq
      obtain ⟨hbar, hfst⟩ := hkey p hp pair hpair
      refine ⟨hbar, ?_⟩
      rw [← hfst]
      exact Dict.get?_eq_some_iff.mpr hp
    · rintro ⟨hbar, hget⟩
      refine ⟨_, Dict.get?_eq_some_iff.mp hget, ?_⟩
      rw [partition_pairKey hbar]
      rfl
  have hnodup : ((kept.items.filterMap (fun p =>
      (Text.partition '|' p.1).map fun pair => (pair, p.2))).map Prod.fst).Nodup := by
    rw [map_filterMap]
    refine pairwise_filterMap.mpr ((pairwise_map.mp kept.nodup).imp_of_mem ?_)
    intro p q hp hq hne pair hpair pair' hpair' heq
    simp only [Option.map_map, Option.map_eq_some_iff, Function.comp_apply] at hpair hpair'
    obtain ⟨split, hsplit, rfl⟩ := hpair
    obtain ⟨split', hsplit', rfl⟩ := hpair'
    apply hne
    rw [(hkey p hp split hsplit).2, (hkey q hq split' hsplit').2, show split = split' from heq]
  intro pair
  cases hlive : live.get? pair with
  | none =>
    cases hget : (GuardSummary.restorePairs kept).get? pair with
    | none => rfl
    | some reason =>
      obtain ⟨hbar, hkept⟩ :=
        (hmem pair reason).mp ((Dict.get?_ofList_eq_some_iff hnodup).mp hget)
      rw [h.same pair.1 pair.2 hbar, hlive] at hkept
      cases hkept
  | some reason =>
    have hbar := (h.pairs pair reason hlive).1
    refine (Dict.get?_ofList_eq_some_iff hnodup).mpr ((hmem pair reason).mpr ⟨hbar, ?_⟩)
    rw [h.same pair.1 pair.2 hbar]
    exact hlive

end PairsMirror

/-! ## Mode constraints -/

/-- The override the constraints select. -/
def overrideOf (constraints : Dict String (OMSCapabilityMode × String)) :
    Option OMSCapabilityMode × String :=
  match GuardState.strictest constraints with
  | none => (none, "")
  | some (mode, reason) => (some mode, reason)

theorem GuardState.refreshSelected_eq (s : GuardState) :
    s.refreshSelected =
      { s with
        modeOverride := (overrideOf s.modeConstraints).1
        modeOverrideReason := (overrideOf s.modeConstraints).2 } := by
  cases hselected : GuardState.strictest s.modeConstraints with
  | none => simp only [GuardState.refreshSelected, overrideOf, hselected]
  | some constraint => simp only [GuardState.refreshSelected, overrideOf, hselected]

/-- The mirror of the mode constraints: the same keys in the same order, each constraint with
its generation. -/
structure ModesMirror (summary : GuardSummary) (s : GuardState) : Prop where
  keys : summary.modeConstraints.keys = s.modeConstraints.keys
  entries : ∀ key mode reason, s.modeConstraints.get? key = some (mode, reason) →
    reason ≠ "" ∧ ∃ generation, s.modeConstraintGenerations.get? key = some generation ∧
      0 < generation ∧ generation ≤ s.modeConstraintGeneration ∧
      summary.modeConstraints.get? key = some ⟨mode.value, reason, generation⟩
  generations : ∀ key generation, s.modeConstraintGenerations.get? key = some generation →
    key ∈ s.modeConstraints.keys
  counter : summary.modeConstraintGeneration = s.modeConstraintGeneration
  nonneg : 0 ≤ s.modeConstraintGeneration
  overridden : summary.modeConstraints = ∅ →
    summary.modeOverride = "" ∨ summary.modeOverrideReason = ""
  selected : overrideOf s.modeConstraints = (s.modeOverride, s.modeOverrideReason)

namespace ModesMirror

variable {summary : GuardSummary} {s : GuardState}

/-- Every constraint of the summary is one of the state. -/
theorem entry (h : ModesMirror summary s) {key : String} {entry : ModeEntry}
    (hget : summary.modeConstraints.get? key = some entry) :
    ∃ mode reason, s.modeConstraints.get? key = some (mode, reason) ∧
      entry.mode = mode.value ∧ entry.reason = reason ∧ reason ≠ "" ∧
      s.modeConstraintGenerations.get? key = some entry.generation ∧
      0 < entry.generation ∧ entry.generation ≤ s.modeConstraintGeneration := by
  have hmem : key ∈ s.modeConstraints.keys := by
    rw [← h.keys]
    exact Dict.mem_keys_iff.mpr ⟨entry, hget⟩
  obtain ⟨⟨mode, reason⟩, hlive⟩ := Dict.mem_keys_iff.mp hmem
  obtain ⟨hreason, generation, hgeneration, hpositive, hle, hkept⟩ :=
    h.entries key mode reason hlive
  rw [hget] at hkept
  cases hkept
  exact ⟨mode, reason, hlive, rfl, rfl, hreason, hgeneration, hpositive, hle⟩

/-- The rest of the guard state and the journal do not matter. -/
theorem frame (h : ModesMirror summary s) {symbols venues : GuardBook}
    {strategyGuards : Dict String String} {pairs : Dict (String × String) String}
    {journal : List GuardRecord} {keptSymbols keptVenues : ReplayBook}
    {keptGuards keptPairs : Dict String String} :
    ModesMirror
      { summary with
        symbols := keptSymbols
        venues := keptVenues
        strategyGuards := keptGuards
        strategySymbolGuards := keptPairs }
      { s with
        symbols := symbols
        venues := venues
        strategyGuards := strategyGuards
        strategySymbolGuards := pairs
        journal := journal } :=
  ⟨h.keys, h.entries, h.generations, h.counter, h.nonneg, h.overridden, h.selected⟩

theorem value_ne_empty (mode : OMSCapabilityMode) : mode.value ≠ "" := by
  cases mode <;> decide

/-- **Setting a mode** is replayed as it was done. -/
theorem set (h : ModesMirror summary s) (key : String) (mode : OMSCapabilityMode)
    {reason : String} (hreason : reason ≠ "")
    (hkey : key = GuardState.modeConstraintKey reason) :
    ∃ summary', summary.onModeSet mode.value reason key
        (some (s.modeConstraintGeneration + 1)) = .ok summary' ∧
      summary' = { summary with
        modeOverride := mode.value
        modeOverrideReason := reason
        modeConstraintGeneration := s.modeConstraintGeneration + 1
        modeConstraints := summary.modeConstraints.set key
          ⟨mode.value, reason, s.modeConstraintGeneration + 1⟩ } ∧
      ModesMirror summary' ({ s with
        modeConstraintGeneration := s.modeConstraintGeneration + 1
        modeConstraints := s.modeConstraints.set key (mode, reason)
        modeConstraintGenerations :=
          s.modeConstraintGenerations.set key
            (s.modeConstraintGeneration + 1) } : GuardState).refreshSelected := by
  have hnext : ¬s.modeConstraintGeneration + 1 ≤ summary.modeConstraintGeneration := by
    rw [h.counter]
    omega
  have horElse : orElse key (GuardState.modeConstraintKey reason) = key := by
    rw [← hkey]
    exact ite_self _
  refine ⟨_, ?_, rfl, ?_⟩
  · unfold GuardSummary.onModeSet
    simp only [horElse, Option.getD_some, if_neg hnext,
      if_neg (not_or.mpr ⟨value_ne_empty mode, hreason⟩)]
  · rw [GuardState.refreshSelected_eq]
    have hnonneg := h.nonneg
    refine ⟨?_, ?_, ?_, rfl, ?_, ?_, rfl⟩
    · simp only [Dict.keys_set, h.keys]
    · intro key' mode' reason' hget
      simp only [Dict.get?_set] at hget ⊢
      by_cases heq : key' = key
      · rw [if_pos heq] at hget
        cases hget
        refine ⟨hreason, s.modeConstraintGeneration + 1, if_pos heq, by omega, le_refl _, ?_⟩
        rw [if_pos heq]
      · rw [if_neg heq] at hget
        obtain ⟨hreason', generation, hgeneration, hpositive, hle, hkept⟩ :=
          h.entries key' mode' reason' hget
        refine ⟨hreason', generation, ?_, hpositive, by omega, ?_⟩
        · rw [if_neg heq]
          exact hgeneration
        · rw [if_neg heq]
          exact hkept
    · intro key' generation hget
      simp only [Dict.get?_set] at hget
      simp only [Dict.mem_keys_set]
      by_cases heq : key' = key
      · exact Or.inl heq
      · rw [if_neg heq] at hget
        exact Or.inr (h.generations key' generation hget)
    · show 0 ≤ s.modeConstraintGeneration + 1
      omega
    · intro hempty
      have hget := congrArg (fun constraints => Dict.get? constraints key) hempty
      simp at hget

/-- Clearing keys whose generations are the current ones takes them all away. -/
theorem foldl_clearConstraint {generations : Dict String ℤ} (keys : List String) :
    ∀ {constraints : Dict String ModeEntry},
      (∀ key ∈ keys, ∀ entry, constraints.get? key = some entry →
        generations.get? key = some entry.generation) →
      keys.foldl (GuardSummary.clearConstraint generations) constraints =
        keys.foldl Dict.erase constraints := by
  induction keys with
  | nil => exact fun _ => rfl
  | cons key rest ih =>
    intro constraints hall
    have hfirst : GuardSummary.clearConstraint generations constraints key =
        constraints.erase key := by
      unfold GuardSummary.clearConstraint
      cases hget : constraints.get? key with
      | none =>
        split
        · next heq => cases heq
        · rfl
      | some entry =>
        rw [hall key mem_cons_self entry hget]
        simp
    rw [foldl_cons, foldl_cons, hfirst]
    apply ih
    intro key' hmem entry hget
    rw [Dict.get?_erase] at hget
    split at hget
    · cases hget
    · exact hall key' (mem_cons_of_mem _ hmem) entry hget

/-- Known modes can be compared. -/
theorem foldlM_stricterOf_ok (items : List (String × ModeEntry)) :
    ∀ start : Option (String × ModeEntry),
      (∀ item ∈ items, ∃ mode : OMSCapabilityMode, item.2.mode = mode.value) →
      ∃ best, items.foldlM GuardSummary.stricterOf start = .ok best := by
  induction items with
  | nil => exact fun start _ => ⟨start, rfl⟩
  | cons item rest ih =>
    intro start hall
    obtain ⟨mode, hmode⟩ := hall item mem_cons_self
    have hfirst : ∃ next, GuardSummary.stricterOf start item = .ok next := by
      unfold GuardSummary.stricterOf
      rw [hmode, OMSCapabilityMode.ofValue?_value]
      cases start with
      | none => exact ⟨_, rfl⟩
      | some kept =>
        simp only
        split
        · exact ⟨_, rfl⟩
        · exact ⟨_, rfl⟩
    obtain ⟨next, hnext⟩ := hfirst
    obtain ⟨best, hbest⟩ := ih next fun other hmem => hall other (mem_cons_of_mem _ hmem)
    refine ⟨best, ?_⟩
    rw [foldlM_cons, hnext]
    exact hbest

/-- Nothing is selected from nothing. -/
theorem strictestEntry_ok {constraints : Dict String ModeEntry}
    (h : ∀ key entry, constraints.get? key = some entry →
      ∃ mode : OMSCapabilityMode, entry.mode = mode.value) :
    ∃ best, GuardSummary.strictestEntry constraints = .ok best ∧
      (constraints = ∅ → best = none) := by
  obtain ⟨best, hbest⟩ := foldlM_stricterOf_ok constraints.items none
    fun item hmem => h item.1 item.2 (Dict.get?_eq_some_iff.mpr hmem)
  refine ⟨best, hbest, ?_⟩
  rintro rfl
  cases hbest
  rfl

/-- **Clearing modes** is replayed as it was done. -/
theorem clear (h : ModesMirror summary s) {keys : List String} (hne : keys ≠ [])
    (previousReason : String) :
    ∃ override reason, summary.onModeCleared keys
        (Dict.ofList (keys.map fun key => (key, s.modeConstraintGenerations.getD key 0)))
        previousReason = .ok { summary with
          modeConstraints := keys.foldl Dict.erase summary.modeConstraints
          modeOverride := override
          modeOverrideReason := reason } ∧
      ModesMirror { summary with
          modeConstraints := keys.foldl Dict.erase summary.modeConstraints
          modeOverride := override
          modeOverrideReason := reason }
        ({ s with
          modeConstraints := keys.foldl Dict.erase s.modeConstraints
          modeConstraintGenerations := keys.foldl Dict.erase s.modeConstraintGenerations } :
          GuardState).refreshSelected := by
  have hgenerations : ∀ key ∈ keys, ∀ entry, summary.modeConstraints.get? key = some entry →
      (Dict.ofList (keys.map fun key =>
        (key, s.modeConstraintGenerations.getD key 0))).get? key = some entry.generation := by
    intro key hmem entry hget
    obtain ⟨-, -, -, -, -, -, hgeneration, -⟩ := h.entry hget
    have hvalue : s.modeConstraintGenerations.getD key 0 = entry.generation := by
      rw [Dict.getD, hgeneration]
      rfl
    have hstored : ∀ (listed : List String) (d : Dict String ℤ),
        key ∈ listed ∨ d.get? key = some entry.generation →
        (d.setAll (listed.map fun key =>
          (key, s.modeConstraintGenerations.getD key 0))).get? key = some entry.generation := by
      intro listed
      induction listed with
      | nil =>
        intro d hor
        exact hor.resolve_left not_mem_nil
      | cons first rest ih =>
        intro d hor
        apply ih
        by_cases hrest : key ∈ rest
        · exact Or.inl hrest
        refine Or.inr ?_
        rw [Dict.get?_set]
        by_cases hfirst : key = first
        · rw [if_pos hfirst, ← hvalue]
          subst hfirst
          rfl
        · rw [if_neg hfirst]
          refine hor.resolve_left fun hlisted => ?_
          rcases mem_cons.mp hlisted with heq | htail
          · exact hfirst heq
          · exact hrest htail
    exact hstored keys ∅ (Or.inl hmem)
  obtain ⟨best, hbest, hempty⟩ := @strictestEntry_ok
    (keys.foldl Dict.erase summary.modeConstraints) (by
      intro key entry hget
      obtain ⟨mode, -, -, hmode, -⟩ := h.entry (Dict.get?_of_foldl_erase hget).2
      exact ⟨mode, hmode⟩)
  have hmirror : ∀ override reason,
      (keys.foldl Dict.erase summary.modeConstraints = ∅ → override = "" ∨ reason = "") →
      ModesMirror { summary with
          modeConstraints := keys.foldl Dict.erase summary.modeConstraints
          modeOverride := override
          modeOverrideReason := reason }
        ({ s with
          modeConstraints := keys.foldl Dict.erase s.modeConstraints
          modeConstraintGenerations := keys.foldl Dict.erase s.modeConstraintGenerations } :
          GuardState).refreshSelected := by
    intro override reason hoverride
    rw [GuardState.refreshSelected_eq]
    refine ⟨Dict.keys_foldl_erase keys h.keys, ?_, ?_, h.counter, h.nonneg, hoverride, rfl⟩
    · intro key mode reason' hget
      obtain ⟨hkept, hold⟩ := Dict.get?_of_foldl_erase hget
      obtain ⟨hreason, generation, hgeneration, hpositive, hle, hentry⟩ :=
        h.entries key mode reason' hold
      refine ⟨hreason, generation, ?_, hpositive, hle, ?_⟩
      · exact (Dict.get?_foldl_erase ..).trans ((if_neg hkept).trans hgeneration)
      · exact (Dict.get?_foldl_erase ..).trans ((if_neg hkept).trans hentry)
    · intro key generation hget
      obtain ⟨hkept, hold⟩ := Dict.get?_of_foldl_erase hget
      obtain ⟨constraint, hconstraint⟩ :=
        Dict.mem_keys_iff.mp (h.generations key generation hold)
      exact Dict.mem_keys_iff.mpr
        ⟨constraint, (Dict.get?_foldl_erase ..).trans ((if_neg hkept).trans hconstraint)⟩
  unfold GuardSummary.onModeCleared
  rw [if_pos hne, foldl_clearConstraint keys hgenerations]
  simp only [hbest]
  cases best with
  | none => exact ⟨"", "", rfl, hmirror "" "" fun _ => Or.inl rfl⟩
  | some selected =>
    refine ⟨selected.2.mode, selected.2.reason, rfl, hmirror _ _ fun hnone => ?_⟩
    cases hempty hnone

/-- A constraint of the summary as the live state keeps it. -/
def liveConstraint (item : String × ModeEntry) : String × (OMSCapabilityMode × String) :=
  (item.1, ((OMSCapabilityMode.ofValue? item.2.mode).getD .live, item.2.reason))

theorem foldl_restoreConstraint {counter : ℤ} (items : List (String × ModeEntry))
    (hitems : ∀ item ∈ items, (∃ mode : OMSCapabilityMode, item.2.mode = mode.value) ∧
      item.2.reason ≠ "" ∧ 0 < item.2.generation ∧ item.2.generation ≤ counter) :
    ∀ s : GuardState, s.modeConstraintGeneration = counter →
      items.foldl GuardSummary.restoreConstraint s =
        { s with
          modeConstraints := s.modeConstraints.setAll (items.map liveConstraint)
          modeConstraintGenerations :=
            s.modeConstraintGenerations.setAll
              (items.map fun item => (item.1, item.2.generation)) } := by
  induction items with
  | nil => exact fun s _ => rfl
  | cons item rest ih =>
    intro s hcounter
    obtain ⟨⟨mode, hmode⟩, hreason, hpositive, hle⟩ := hitems item mem_cons_self
    have hgeneration : max 1 item.2.generation = item.2.generation := max_eq_right hpositive
    have hmax : max s.modeConstraintGeneration item.2.generation =
        s.modeConstraintGeneration := max_eq_left (hcounter ▸ hle)
    have hlive : (OMSCapabilityMode.ofValue? item.2.mode).getD .live = mode := by
      rw [hmode, OMSCapabilityMode.ofValue?_value]
      rfl
    have hfirst : GuardSummary.restoreConstraint s item =
        { s with
          modeConstraints := s.modeConstraints.set item.1 (liveConstraint item).2
          modeConstraintGenerations :=
            s.modeConstraintGenerations.set item.1 item.2.generation } := by
      unfold GuardSummary.restoreConstraint liveConstraint
      rw [if_neg (not_or.mpr ⟨hmode ▸ value_ne_empty mode, hreason⟩), hlive, hmode,
        OMSCapabilityMode.ofValue?_value]
      simp only [hgeneration, hmax]
    rw [foldl_cons, hfirst]
    exact ih (fun other hmem => hitems other (mem_cons_of_mem _ hmem)) _ hcounter

/-- **The restored constraints are the live ones.** -/
theorem restore (h : ModesMirror summary s) (start : GuardState)
    (hstart : start.modeConstraints = ∅ ∧ start.modeConstraintGenerations = ∅ ∧
      start.modeConstraintGeneration = max 0 summary.modeConstraintGeneration) :
    (summary.restoreOverride
        (summary.modeConstraints.items.foldl GuardSummary.restoreConstraint
          start)).refreshSelected =
      { start with
        modeConstraints := s.modeConstraints
        modeConstraintGenerations :=
          Dict.ofList (summary.modeConstraints.items.map fun item => (item.1, item.2.generation))
        modeConstraintGeneration := s.modeConstraintGeneration
        modeOverride := s.modeOverride
        modeOverrideReason := s.modeOverrideReason } ∧
      Dict.Same
        (Dict.ofList (summary.modeConstraints.items.map fun item => (item.1, item.2.generation)))
        s.modeConstraintGenerations := by
  obtain ⟨hconstraints, hgenerations, hgeneration⟩ := hstart
  have hcounter : start.modeConstraintGeneration = s.modeConstraintGeneration := by
    rw [hgeneration, h.counter]
    exact max_eq_right h.nonneg
  have hitems : ∀ item ∈ summary.modeConstraints.items,
      (∃ mode : OMSCapabilityMode, item.2.mode = mode.value) ∧ item.2.reason ≠ "" ∧
        0 < item.2.generation ∧ item.2.generation ≤ s.modeConstraintGeneration := by
    intro item hmem
    obtain ⟨mode, reason, -, hmode, hreason, hne, -, hpositive, hle⟩ :=
      h.entry (Dict.get?_eq_some_iff.mpr hmem)
    exact ⟨⟨mode, hmode⟩, hreason ▸ hne, hpositive, hle⟩
  have hfold := foldl_restoreConstraint summary.modeConstraints.items hitems start hcounter
  rw [hconstraints, hgenerations] at hfold
  have hnodup : ((summary.modeConstraints.items.map liveConstraint).map Prod.fst).Nodup := by
    rw [map_map]
    exact summary.modeConstraints.nodup
  have hnodup' : ((summary.modeConstraints.items.map fun item =>
      (item.1, item.2.generation)).map Prod.fst).Nodup := by
    rw [map_map]
    exact summary.modeConstraints.nodup
  -- The same keys in the same order, and the same answers.
  have hsame : Dict.setAll ∅ (summary.modeConstraints.items.map liveConstraint) =
      s.modeConstraints := by
    apply Dict.ext_keys
    · rw [← h.keys]
      show (Dict.ofList _).items.map Prod.fst = _
      rw [Dict.items_ofList hnodup, map_map]
      rfl
    · intro key
      apply Option.ext
      rintro ⟨mode, reason⟩
      rw [show Dict.setAll ∅ (summary.modeConstraints.items.map liveConstraint) =
        Dict.ofList (summary.modeConstraints.items.map liveConstraint) from rfl,
        Dict.get?_ofList_eq_some_iff hnodup, mem_map]
      constructor
      · rintro ⟨item, hmem, heq⟩
        obtain ⟨mode', reason', hlive, hmode, hreason, -⟩ :=
          h.entry (Dict.get?_eq_some_iff.mpr hmem)
        have hitem : liveConstraint item = (item.1, (mode', reason')) := by
          unfold liveConstraint
          rw [hmode, OMSCapabilityMode.ofValue?_value, hreason]
          rfl
        rw [hitem] at heq
        cases heq
        exact hlive
      · intro hlive
        obtain ⟨-, generation, -, -, -, hkept⟩ := h.entries key mode reason hlive
        refine ⟨_, Dict.get?_eq_some_iff.mp hkept, ?_⟩
        unfold liveConstraint
        rw [OMSCapabilityMode.ofValue?_value]
        rfl
  have hsame' : Dict.Same
      (Dict.ofList (summary.modeConstraints.items.map fun item => (item.1, item.2.generation)))
      s.modeConstraintGenerations := by
    intro key
    apply Option.ext
    intro generation
    rw [Dict.get?_ofList_eq_some_iff hnodup', mem_map]
    constructor
    · rintro ⟨item, hmem, heq⟩
      obtain ⟨-, -, -, -, -, -, hlive, -⟩ := h.entry (Dict.get?_eq_some_iff.mpr hmem)
      cases heq
      exact hlive
    · intro hlive
      obtain ⟨⟨mode, reason⟩, hconstraint⟩ :=
        Dict.mem_keys_iff.mp (h.generations key generation hlive)
      obtain ⟨-, generation', hlive', -, -, hkept⟩ := h.entries key mode reason hconstraint
      rw [hlive] at hlive'
      cases hlive'
      exact ⟨_, Dict.get?_eq_some_iff.mp hkept, rfl⟩
  refine ⟨?_, hsame'⟩
  rw [hfold, hsame]
  have hoverride : ∀ generations : Dict String ℤ,
      summary.restoreOverride
        { start with
          modeConstraints := s.modeConstraints, modeConstraintGenerations := generations } =
        { start with
          modeConstraints := s.modeConstraints, modeConstraintGenerations := generations } := by
    intro generations
    unfold GuardSummary.restoreOverride
    rw [if_neg]
    rintro ⟨hempty, hmode, hreason⟩
    have hnone : summary.modeConstraints = ∅ := by
      apply Dict.ext_items
      have hkeys : summary.modeConstraints.keys = [] := by
        rw [h.keys, Dict.isEmpty_iff.mp hempty]
        rfl
      exact map_eq_nil_iff.mp hkeys
    rcases h.overridden hnone with hmode' | hreason'
    · exact hmode hmode'
    · exact hreason hreason'
  rw [hoverride, GuardState.refreshSelected_eq]
  simp only [h.selected, hcounter]
  rfl

end ModesMirror

/-! ## The whole guard state -/

/-- The mirror of every part. -/
structure GuardMirror (summary : GuardSummary) (s : GuardState) : Prop where
  symbols : BookMirror .symbol summary.symbols s.symbols
  venues : BookMirror .venue summary.venues s.venues
  strategies : summary.strategyGuards = s.strategyGuards
  reasons : ∀ strategyId reason, s.strategyGuards.get? strategyId = some reason → reason ≠ ""
  pairs : PairsMirror summary.strategySymbolGuards s.strategySymbolGuards
  modes : ModesMirror summary s

/-- The guards of two states are the same, by owner and in effect. -/
structure SameBook (a b : GuardBook) : Prop where
  owners : ∀ name, a.ownersOf name = b.ownersOf name
  guards : Dict.Same a.guards b.guards
  epochs : Dict.Same a.epochs b.epochs

/-- Two states hold the same guards and the same mode constraints. -/
structure SameGuards (a b : GuardState) : Prop where
  symbols : SameBook a.symbols b.symbols
  venues : SameBook a.venues b.venues
  strategyGuards : a.strategyGuards = b.strategyGuards
  strategySymbolGuards : Dict.Same a.strategySymbolGuards b.strategySymbolGuards
  modeConstraints : a.modeConstraints = b.modeConstraints
  modeConstraintGenerations : Dict.Same a.modeConstraintGenerations b.modeConstraintGenerations
  modeConstraintGeneration : a.modeConstraintGeneration = b.modeConstraintGeneration
  modeOverride : a.modeOverride = b.modeOverride
  modeOverrideReason : a.modeOverrideReason = b.modeOverrideReason

/-- What is effective follows from the guards by owner. -/
theorem BookMirror.sameBook {family : GuardFamily} {kept : ReplayBook} {book : GuardBook}
    (h : BookMirror family kept book) : SameBook (kept.restore family) book := by
  obtain ⟨howners, heffective⟩ := h.restore
  refine ⟨howners, ?_, ?_⟩
  · intro name
    rw [(heffective name).1, (h.effective name).1, howners]
  · intro name
    rw [(heffective name).2, (h.effective name).2, howners]

/-- **A mirrored state is rebuilt**, in whatever process the summary is applied. -/
theorem GuardMirror.applyTo {summary : GuardSummary} {s : GuardState}
    (h : GuardMirror summary s) (start : GuardState) : SameGuards (summary.applyTo start) s := by
  obtain ⟨hrestore, hgenerations⟩ := h.modes.restore
    { start with
      symbols := summary.symbols.restore .symbol
      venues := summary.venues.restore .venue
      strategyGuards := summary.strategyGuards
      strategySymbolGuards := GuardSummary.restorePairs summary.strategySymbolGuards
      modeConstraints := ∅
      modeConstraintGenerations := ∅
      modeConstraintGeneration := max 0 summary.modeConstraintGeneration } ⟨rfl, rfl, rfl⟩
  unfold GuardSummary.applyTo
  rw [hrestore]
  exact ⟨h.symbols.sameBook, h.venues.sameBook, h.strategies, h.pairs.restorePairs, rfl,
    hgenerations, rfl, rfl, rfl⟩

namespace GuardState

variable {s : GuardState}

/-- The journal leads to a summary that mirrors the state. -/
def Synced (s : GuardState) : Prop :=
  ∃ summary, GuardSummary.replay s.journal = .ok summary ∧ GuardMirror summary s

/-- The journal leads back to the guards: replaying it succeeds, and applying the summary to a
new process gives them. -/
def Rebuilds (s : GuardState) : Prop :=
  ∃ summary, GuardSummary.replay s.journal = .ok summary ∧
    SameGuards (summary.applyTo { gatewayName := s.gatewayName }) s

theorem Synced.rebuilds (h : Synced s) : Rebuilds s := by
  obtain ⟨summary, hreplay, hmirror⟩ := h
  exact ⟨summary, hreplay, hmirror.applyTo _⟩

variable {summary : GuardSummary} {record : GuardRecord} {reason symbol text venue : String}

theorem replay_audit (s : GuardState) (record : GuardRecord)
    (h : GuardSummary.replay s.journal = .ok summary) :
    GuardSummary.replay (s.audit record).journal = summary.step record := by
  unfold GuardSummary.replay at h
  unfold GuardSummary.replay audit
  rw [foldlM_append, h]
  show summary.step record >>= pure = _
  exact bind_pure _

/-- One record in the journal, and its step in the summary. -/
theorem Synced.audit (summary' : GuardSummary) (record : GuardRecord)
    (hreplay : GuardSummary.replay s.journal = .ok summary)
    (hstep : summary.step record = .ok summary') (hmirror : GuardMirror summary' s) :
    Synced (s.audit record) :=
  ⟨summary', (replay_audit s record hreplay).trans hstep,
    ⟨hmirror.symbols, hmirror.venues, hmirror.strategies, hmirror.reasons, hmirror.pairs,
      hmirror.modes.frame⟩⟩

/-! ### Symbols and venues -/

theorem step_install (summary : GuardSummary) (book : GuardBook) (family : GuardFamily)
    (name reason : String) :
    summary.step (book.install family name reason).2 =
      .ok (summary.onBook family fun kept =>
        BookMirror.onRecord family kept (book.install family name reason).2) := rfl

theorem step_clear (summary : GuardSummary) (book : GuardBook) (family : GuardFamily)
    (name expectedOwner : String) (unconditional : Bool) (accepts : GuardEntry → Bool) :
    summary.step (book.clear family name expectedOwner unconditional accepts).2 =
      .ok (summary.onBook family fun kept => BookMirror.onRecord family kept
        (book.clear family name expectedOwner unconditional accepts).2) := by
  unfold GuardBook.clear
  simp only
  split
  · rfl
  · cases family <;> rfl

/-- A change of the symbol guards that the summary follows. -/
theorem Synced.symbols {book : GuardBook}
    (hreplay : GuardSummary.replay s.journal = .ok summary) (hmirror : GuardMirror summary s)
    (hstep : summary.step record =
      .ok (summary.onBook .symbol fun kept => BookMirror.onRecord .symbol kept record))
    (hbook : BookMirror .symbol (BookMirror.onRecord .symbol summary.symbols record) book) :
    Synced (({ s with symbols := book } : GuardState).audit record) :=
  Synced.audit _ record hreplay hstep
    ⟨hbook, hmirror.venues, hmirror.strategies, hmirror.reasons, hmirror.pairs,
      hmirror.modes.frame⟩

/-- A change of the venue guards that the summary follows. -/
theorem Synced.venues {book : GuardBook}
    (hreplay : GuardSummary.replay s.journal = .ok summary) (hmirror : GuardMirror summary s)
    (hstep : summary.step record =
      .ok (summary.onBook .venue fun kept => BookMirror.onRecord .venue kept record))
    (hbook : BookMirror .venue (BookMirror.onRecord .venue summary.venues record) book) :
    Synced (({ s with venues := book } : GuardState).audit record) :=
  Synced.audit _ record hreplay hstep
    ⟨hmirror.symbols, hbook, hmirror.strategies, hmirror.reasons, hmirror.pairs,
      hmirror.modes.frame⟩

theorem toUpper_ne_empty (h : text ≠ "") : text.toUpper ≠ "" := by
  intro hempty
  apply h
  rw [← String.toList_eq_nil_iff] at hempty ⊢
  simpa [String.toUpper] using hempty

theorem orElse_ne_empty {fallback : String} (h : fallback ≠ "") (text : String) :
    orElse text fallback ≠ "" := by
  unfold orElse
  split
  · exact h
  · next htext => exact htext

theorem synced_freezeSymbol (h : Synced s) (symbol reason : String) :
    Synced (s.freezeSymbol symbol reason) := by
  obtain ⟨summary, hreplay, hmirror⟩ := h
  unfold freezeSymbol
  split
  · exact ⟨summary, hreplay, hmirror⟩
  next hsymbol =>
    exact Synced.symbols hreplay hmirror (step_install summary _ _ _ _)
      (hmirror.symbols.install (toUpper_ne_empty hsymbol) (Text.toUpper_toUpper symbol)
        (orElse_ne_empty (by decide) reason))

theorem synced_clearSymbolFreeze (h : Synced s) (symbol : String) (expectedEpoch : Option ℤ)
    (expectedReason expectedOwner : String) :
    Synced (s.clearSymbolFreeze symbol expectedEpoch expectedReason expectedOwner) := by
  obtain ⟨summary, hreplay, hmirror⟩ := h
  unfold clearSymbolFreeze
  split
  · exact ⟨summary, hreplay, hmirror⟩
  · exact Synced.symbols hreplay hmirror (step_clear summary _ _ _ _ _ _)
      (hmirror.symbols.clear (Text.toUpper_toUpper symbol) _ _ _)

theorem synced_clearOrderbookFreeze (h : Synced s) (symbol recoveryToken : String) :
    Synced (s.clearOrderbookFreeze symbol recoveryToken) := by
  obtain ⟨summary, hreplay, hmirror⟩ := h
  unfold clearOrderbookFreeze
  simp only
  split
  · exact ⟨summary, hreplay, hmirror⟩
  have hensured : GuardMirror summary
      { s with symbols := (s.symbols.ensureRecords .symbol symbol.toUpper).1 } :=
    ⟨hmirror.symbols.ensureRecords _, hmirror.venues, hmirror.strategies, hmirror.reasons,
      hmirror.pairs, hmirror.modes.frame⟩
  have hsynced : Synced
      { s with symbols := (s.symbols.ensureRecords .symbol symbol.toUpper).1 } :=
    ⟨summary, hreplay, hensured⟩
  split
  · exact synced_clearSymbolFreeze hsynced _ _ _ _
  · exact Synced.audit _ (.staleIgnored .symbol symbol.toUpper) hreplay rfl hensured

theorem synced_freezeVenue (h : Synced s) (hvenue : s.venueName venue ≠ "")
    (reason : String) : Synced (s.freezeVenue venue reason) := by
  obtain ⟨summary, hreplay, hmirror⟩ := h
  exact Synced.venues hreplay hmirror (step_install summary _ _ _ _)
    (hmirror.venues.install hvenue (Text.toUpper_toUpper _) (orElse_ne_empty (by decide) reason))

theorem synced_clearVenueFreeze (h : Synced s) (venue : String) (expectedEpoch : Option ℤ)
    (expectedReason : Option String) (expectedOwner : String) :
    Synced (s.clearVenueFreeze venue expectedEpoch expectedReason expectedOwner) := by
  obtain ⟨summary, hreplay, hmirror⟩ := h
  exact Synced.venues hreplay hmirror (step_clear summary _ _ _ _ _ _)
    (hmirror.venues.clear (Text.toUpper_toUpper _) _ _ _)

/-! ### Strategies -/

theorem upper_eq_empty_iff : text.toUpper = "" ↔ text = "" := by
  constructor
  · intro h
    by_contra hne
    exact toUpper_ne_empty hne h
  · rintro rfl
    decide +kernel

theorem synced_freezeStrategy (h : Synced s) {strategyId : String}
    (hcareful : Text.strip strategyId ≠ "" → reason ≠ "" ∧
      (symbol ≠ "" → '|' ∉ (Text.strip strategyId).toList)) :
    Synced (s.freezeStrategy strategyId reason symbol) := by
  obtain ⟨summary, hreplay, hmirror⟩ := h
  unfold freezeStrategy
  simp only
  by_cases hstrategy : Text.strip strategyId = ""
  · rw [if_pos hstrategy]
    exact ⟨summary, hreplay, hmirror⟩
  rw [if_neg hstrategy]
  obtain ⟨hreason, hbar⟩ := hcareful hstrategy
  by_cases hsymbol : symbol.toUpper = ""
  · rw [if_neg (not_not.mpr hsymbol)]
    refine Synced.audit { summary with
      strategyGuards := summary.strategyGuards.set (Text.strip strategyId) reason }
      _ hreplay ?_ ⟨hmirror.symbols, hmirror.venues, ?_, ?_, hmirror.pairs, hmirror.modes.frame⟩
    · show Except.ok (summary.onStrategyFrozen (Text.strip strategyId) "" reason) = _
      unfold GuardSummary.onStrategyFrozen
      have hupper : "".toUpper = "" := upper_eq_empty_iff.mpr rfl
      simp only [Text.strip_strip, hupper, if_neg (not_or.mpr ⟨hstrategy, hreason⟩), ne_eq,
        not_true_eq_false, if_false]
    · show summary.strategyGuards.set _ _ = s.strategyGuards.set _ _
      rw [hmirror.strategies]
    · intro strategyId' reason' hget
      rw [Dict.get?_set] at hget
      split at hget
      · cases hget
        exact hreason
      · exact hmirror.reasons strategyId' reason' hget
  · rw [if_pos hsymbol]
    have hpairs := hmirror.pairs.set
      (hbar fun hempty => hsymbol (upper_eq_empty_iff.mpr hempty)) symbol.toUpper hreason
    refine Synced.audit { summary with
      strategySymbolGuards := summary.strategySymbolGuards.set
        (GuardSummary.pairKey (Text.strip strategyId) symbol.toUpper) reason }
      _ hreplay ?_ ⟨hmirror.symbols, hmirror.venues, hmirror.strategies, hmirror.reasons, hpairs,
        hmirror.modes.frame⟩
    -- Both kinds of record are read alike.
    split
    · show Except.ok (summary.onStrategySymbolFrozen (Text.strip strategyId) symbol.toUpper
        reason)
        = _
      unfold GuardSummary.onStrategySymbolFrozen
      simp only [Text.strip_strip, Text.toUpper_toUpper, hstrategy, hsymbol, hreason, or_self,
        if_false]
    · show Except.ok (summary.onStrategyFrozen (Text.strip strategyId) symbol.toUpper reason) = _
      unfold GuardSummary.onStrategyFrozen
      simp only [Text.strip_strip, Text.toUpper_toUpper, hstrategy, hsymbol, hreason, or_self,
        if_false, ne_eq, not_false_eq_true, if_true]

theorem synced_clearStrategyFreeze (h : Synced s) (strategyId symbol : String) :
    Synced (s.clearStrategyFreeze strategyId symbol) := by
  obtain ⟨summary, hreplay, hmirror⟩ := h
  unfold clearStrategyFreeze
  simp only
  by_cases hstrategy : Text.strip strategyId = ""
  · rw [if_pos hstrategy]
    exact ⟨summary, hreplay, hmirror⟩
  rw [if_neg hstrategy]
  by_cases hsymbol : symbol.toUpper = ""
  · rw [if_neg (not_not.mpr hsymbol)]
    cases hget : s.strategyGuards.get? (Text.strip strategyId) with
    | none =>
      have hprevious : s.strategyGuards.getD (Text.strip strategyId) "" = "" := by
        rw [Dict.getD, hget]
        rfl
      rw [if_pos hprevious, Dict.erase_of_get?_none hget]
      exact ⟨summary, hreplay, hmirror⟩
    | some reason =>
      have hprevious : s.strategyGuards.getD (Text.strip strategyId) "" ≠ "" := by
        rw [Dict.getD, hget]
        exact hmirror.reasons _ _ hget
      rw [if_neg hprevious]
      refine Synced.audit { summary with
        strategyGuards := summary.strategyGuards.erase (Text.strip strategyId) }
        _ hreplay ?_
        ⟨hmirror.symbols, hmirror.venues, ?_, ?_, hmirror.pairs, hmirror.modes.frame⟩
      · show Except.ok (summary.onStrategyUnfrozen (Text.strip strategyId) "") = _
        unfold GuardSummary.onStrategyUnfrozen
        have hupper : "".toUpper = "" := upper_eq_empty_iff.mpr rfl
        simp only [Text.strip_strip, hupper, ne_eq, not_true_eq_false, and_false, if_false,
          hstrategy, not_false_eq_true, if_true]
      · show summary.strategyGuards.erase _ = s.strategyGuards.erase _
        rw [hmirror.strategies]
      · intro strategyId' reason' hget'
        rw [Dict.get?_erase] at hget'
        split at hget'
        · cases hget'
        · exact hmirror.reasons strategyId' reason' hget'
  · rw [if_pos hsymbol]
    cases hget : s.strategySymbolGuards.get? (Text.strip strategyId, symbol.toUpper) with
    | none =>
      have hprevious :
          s.strategySymbolGuards.getD (Text.strip strategyId, symbol.toUpper) "" = "" := by
        rw [Dict.getD, hget]
        rfl
      rw [if_pos hprevious, Dict.erase_of_get?_none hget]
      exact ⟨summary, hreplay, hmirror⟩
    | some reason =>
      obtain ⟨hbar, hreason⟩ := hmirror.pairs.pairs _ _ hget
      have hprevious :
          s.strategySymbolGuards.getD (Text.strip strategyId, symbol.toUpper) "" ≠ "" := by
        rw [Dict.getD, hget]
        exact hreason
      rw [if_neg hprevious]
      refine Synced.audit { summary with
        strategySymbolGuards := summary.strategySymbolGuards.erase
          (GuardSummary.pairKey (Text.strip strategyId) symbol.toUpper) }
        _ hreplay ?_
        ⟨hmirror.symbols, hmirror.venues, hmirror.strategies, hmirror.reasons,
          hmirror.pairs.erase hbar _, hmirror.modes.frame⟩
      show Except.ok (summary.onStrategyUnfrozen (Text.strip strategyId) symbol.toUpper) = _
      unfold GuardSummary.onStrategyUnfrozen
      simp only [Text.strip_strip, Text.toUpper_toUpper, ne_eq, hstrategy, hsymbol,
        not_false_eq_true, and_self, if_true]

/-! ### Modes -/

theorem synced_setTradingMode (h : Synced s) {mode : OMSCapabilityMode}
    (hcareful : mode ∈ OMSCapabilityMode.overrides → reason ≠ "") :
    Synced (s.setTradingMode mode reason) := by
  obtain ⟨summary, hreplay, hmirror⟩ := h
  unfold setTradingMode
  simp only
  split
  · exact ⟨summary, hreplay, hmirror⟩
  next hmode =>
    split
    · exact ⟨summary, hreplay, hmirror⟩
    obtain ⟨summary', hstep, hsummary, hmodes⟩ :=
      hmirror.modes.set (modeConstraintKey reason) mode (hcareful (not_not.mp hmode)) rfl
    subst hsummary
    rw [refreshSelected_eq] at hmodes ⊢
    exact Synced.audit _ _ hreplay hstep
      ⟨hmirror.symbols, hmirror.venues, hmirror.strategies, hmirror.reasons, hmirror.pairs,
        hmodes⟩

theorem synced_clearTradingMode (h : Synced s) (heads : List String)
    (expectedGenerations : Option (Dict String ℤ)) :
    Synced (s.clearTradingMode heads expectedGenerations) := by
  obtain ⟨summary, hreplay, hmirror⟩ := h
  unfold clearTradingMode
  cases hkeys : s.matchingConstraints heads expectedGenerations with
  | nil => exact ⟨summary, hreplay, hmirror⟩
  | cons first rest =>
    obtain ⟨override, reason, hstep, hmodes⟩ :=
      hmirror.modes.clear (cons_ne_nil first rest) s.modeOverrideReason
    simp only
    rw [refreshSelected_eq] at hmodes ⊢
    exact Synced.audit _ _ hreplay hstep
      ⟨hmirror.symbols, hmirror.venues, hmirror.strategies, hmirror.reasons, hmirror.pairs,
        hmodes⟩

/-! ### Careful operations -/

/-- The operations the replay follows: a venue has a name, the guard of a strategy has a reason
and, on a single symbol, a strategy without the separator, and a mode that is accepted has a
reason. -/
def Careful (s : GuardState) : GuardOp → Prop
  | .freezeVenue venue _ => s.venueName venue ≠ ""
  | .freezeStrategy strategyId reason symbol =>
    Text.strip strategyId ≠ "" →
      reason ≠ "" ∧ (symbol ≠ "" → '|' ∉ (Text.strip strategyId).toList)
  | .setTradingMode mode reason => mode ∈ OMSCapabilityMode.overrides → reason ≠ ""
  | _ => True

/-- **One careful operation** is followed by the replay. -/
theorem synced_apply (h : Synced s) {op : GuardOp} (hcareful : s.Careful op) :
    Synced (s.apply op) := by
  cases op with
  | freezeSymbol symbol reason => exact synced_freezeSymbol h symbol reason
  | clearSymbolFreeze symbol expectedEpoch expectedReason expectedOwner =>
    exact synced_clearSymbolFreeze h symbol expectedEpoch expectedReason expectedOwner
  | clearOrderbookFreeze symbol recoveryToken =>
    exact synced_clearOrderbookFreeze h symbol recoveryToken
  | freezeVenue venue reason => exact synced_freezeVenue h hcareful reason
  | clearVenueFreeze venue expectedEpoch expectedReason expectedOwner =>
    exact synced_clearVenueFreeze h venue expectedEpoch expectedReason expectedOwner
  | freezeStrategy strategyId reason symbol => exact synced_freezeStrategy h hcareful
  | clearStrategyFreeze strategyId symbol => exact synced_clearStrategyFreeze h strategyId symbol
  | setTradingMode mode reason => exact synced_setTradingMode h hcareful
  | clearTradingMode heads expectedGenerations =>
    exact synced_clearTradingMode h heads expectedGenerations

/-- A restored pair never has the separator in its strategy. -/
theorem not_mem_of_restorePairs {kept : Dict String String} {pair : String × String}
    (h : (GuardSummary.restorePairs kept).get? pair = some reason) :
    '|' ∉ pair.1.toList := by
  have hkeys : pair ∈ (GuardSummary.restorePairs kept).keys := Dict.mem_keys_iff.mpr ⟨reason, h⟩
  unfold GuardSummary.restorePairs at hkeys
  rw [Dict.mem_keys_ofList] at hkeys
  obtain ⟨item, hitem, hfst⟩ := mem_map.mp hkeys
  obtain ⟨p, -, hsome⟩ := mem_filterMap.mp hitem
  obtain ⟨split, hsplit, heq⟩ := Option.map_eq_some_iff.mp hsome
  cases heq
  rw [← hfst]
  exact Text.not_mem_of_partition hsplit

/-- Only the summary's own pairs are restored. -/
theorem applyTo_strategySymbolGuards (summary : GuardSummary) (start : GuardState) :
    (summary.applyTo start).strategySymbolGuards =
      GuardSummary.restorePairs summary.strategySymbolGuards := by
  have hone : ∀ (moving : GuardState) (item : String × ModeEntry),
      (GuardSummary.restoreConstraint moving item).strategySymbolGuards =
        moving.strategySymbolGuards := by
    intro moving item
    unfold GuardSummary.restoreConstraint
    split
    · rfl
    · split
      · rfl
      · rfl
  have hall : ∀ (items : List (String × ModeEntry)) (moving : GuardState),
      (items.foldl GuardSummary.restoreConstraint moving).strategySymbolGuards =
        moving.strategySymbolGuards := by
    intro items
    induction items with
    | nil => exact fun _ => rfl
    | cons item rest ih =>
      intro moving
      rw [foldl_cons, ih, hone]
  have hoverride : ∀ moving : GuardState,
      (summary.restoreOverride moving).strategySymbolGuards = moving.strategySymbolGuards := by
    intro moving
    unfold GuardSummary.restoreOverride
    split
    · split
      · rfl
      · rfl
    · rfl
  unfold GuardSummary.applyTo
  rw [refreshSelected_eq]
  exact (hoverride _).trans (hall _ _)

/-- A record that the summary passes over leaves it the mirror of the state before. -/
theorem same_of_ignored {t : GuardState} {summary' : GuardSummary} (hrebuilds : Rebuilds t)
    (hreplay : GuardSummary.replay s.journal = .ok summary)
    (hjournal : t.journal = (s.audit record).journal)
    (hstep : summary.step record = .ok summary')
    (hmirror : GuardMirror summary' s) :
    ∃ restored, SameGuards restored s ∧ SameGuards restored t := by
  obtain ⟨final, hfinal, hsame⟩ := hrebuilds
  rw [hjournal, replay_audit s record hreplay, hstep] at hfinal
  cases hfinal
  exact ⟨_, hmirror.applyTo _, hsame⟩

/-- A venue without a name is frozen in memory only. -/
theorem not_rebuilds_freezeVenue (h : Synced s) (hvenue : s.venueName venue = "")
    (reason : String) : ¬Rebuilds (s.freezeVenue venue reason) := by
  obtain ⟨summary, hreplay, hmirror⟩ := h
  intro hrebuilds
  have hstep : summary.step
      (s.venues.install .venue (s.venueName venue) (orElse reason "venue_guarded")).2 =
        .ok summary := by
    rw [step_install]
    have hignored : BookMirror.onRecord .venue summary.venues
        (s.venues.install .venue (s.venueName venue) (orElse reason "venue_guarded")).2 =
          summary.venues := by
      show summary.venues.onFrozen .venue (s.venueName venue) _ _ _ = _
      unfold ReplayBook.onFrozen
      have hupper : (s.venueName venue).toUpper = "" := by
        rw [hvenue]
        exact upper_eq_empty_iff.mpr rfl
      rw [if_pos (Or.inl hupper)]
    unfold GuardSummary.onBook
    simp only [hignored]
  obtain ⟨restored, hbefore, hafter⟩ := same_of_ignored hrebuilds hreplay rfl hstep hmirror
  have hnone : s.venues.ownersOf (s.venueName venue) = ∅ := by
    rw [← hmirror.venues.owners, Dict.getD]
    cases hget : summary.venues.records.get? (s.venueName venue) with
    | none => rfl
    | some owners => exact absurd hvenue (hmirror.venues.names _ owners hget).2.1
  have hsame := (hafter.venues.owners (s.venueName venue)).symm.trans
    (hbefore.venues.owners (s.venueName venue))
  rw [hnone] at hsame
  have hput : (s.freezeVenue venue reason).venues.ownersOf (s.venueName venue) ≠ ∅ := by
    show (GuardBook.putOwners _ (s.venueName venue) _).ownersOf (s.venueName venue) ≠ ∅
    rw [GuardBook.ownersOf_putOwners, if_pos rfl]
    intro hempty
    have hget := congrArg (fun owners => Dict.get? owners
      (guardOwner .venue (orElse reason "venue_guarded"))) hempty
    simp at hget
  exact hput hsame

/-- A strategy frozen without a reason is frozen in memory only. -/
theorem not_rebuilds_freezeStrategy_reason (h : Synced s) {strategyId : String}
    (hstrategy : Text.strip strategyId ≠ "") (symbol : String) :
    ¬Rebuilds (s.freezeStrategy strategyId "" symbol) := by
  obtain ⟨summary, hreplay, hmirror⟩ := h
  intro hrebuilds
  by_cases hsymbol : symbol.toUpper = ""
  · have hafterState : s.freezeStrategy strategyId "" symbol =
        ({ s with strategyGuards := s.strategyGuards.set (Text.strip strategyId) "" }).audit
          (.strategyFrozen (decide (s.strategyGuards.getD (Text.strip strategyId) "" = ""))
            (Text.strip strategyId) "" "") := by
      unfold freezeStrategy
      simp only [if_neg hstrategy, if_neg (not_not.mpr hsymbol)]
    have hstep : ∀ reasserted, summary.step
        (.strategyFrozen reasserted (Text.strip strategyId) "" "") = .ok summary := by
      intro reasserted
      show Except.ok (summary.onStrategyFrozen _ _ _) = _
      unfold GuardSummary.onStrategyFrozen
      simp only [or_true, if_true]
    rw [hafterState] at hrebuilds
    obtain ⟨restored, hbefore, hafter⟩ := same_of_ignored hrebuilds hreplay rfl (hstep _) hmirror
    have hsame := hbefore.strategyGuards.symm.trans hafter.strategyGuards
    have hget : s.strategyGuards.get? (Text.strip strategyId) = some "" :=
      (congrArg (fun guards => Dict.get? guards (Text.strip strategyId)) hsame).trans
        (Dict.get?_set_self _ _ _)
    exact hmirror.reasons _ _ hget rfl
  · have hafterState : ∃ record,
        s.freezeStrategy strategyId "" symbol =
          ({ s with strategySymbolGuards :=
              s.strategySymbolGuards.set (Text.strip strategyId, symbol.toUpper) "" }).audit
            record ∧ summary.step record = .ok summary := by
      unfold freezeStrategy
      simp only [if_neg hstrategy, if_pos hsymbol]
      refine ⟨_, rfl, ?_⟩
      split
      · show Except.ok (summary.onStrategySymbolFrozen _ _ _) = _
        unfold GuardSummary.onStrategySymbolFrozen
        simp only [or_true, if_true]
      · show Except.ok (summary.onStrategyFrozen _ _ _) = _
        unfold GuardSummary.onStrategyFrozen
        simp only [or_true, if_true]
    obtain ⟨record, hstate, hstep⟩ := hafterState
    rw [hstate] at hrebuilds
    obtain ⟨restored, hbefore, hafter⟩ := same_of_ignored hrebuilds hreplay rfl hstep hmirror
    have hsame := (hbefore.strategySymbolGuards (Text.strip strategyId,
      symbol.toUpper)).symm.trans
      (hafter.strategySymbolGuards (Text.strip strategyId, symbol.toUpper))
    have hget : s.strategySymbolGuards.get? (Text.strip strategyId, symbol.toUpper) = some "" :=
      hsame.trans (Dict.get?_set_self _ _ _)
    exact (hmirror.pairs.pairs _ _ hget).2 rfl

/-- A strategy with the separator in its name loses its guard on a symbol. -/
theorem not_rebuilds_freezeStrategy_bar {strategyId : String}
    (hstrategy : Text.strip strategyId ≠ "") (hsymbol : symbol ≠ "")
    (hbar : '|' ∈ (Text.strip strategyId).toList) (s : GuardState) (reason : String) :
    ¬Rebuilds (s.freezeStrategy strategyId reason symbol) := by
  rintro ⟨summary, -, hsame⟩
  have hget : (s.freezeStrategy strategyId reason symbol).strategySymbolGuards.get?
      (Text.strip strategyId, symbol.toUpper) = some reason := by
    unfold freezeStrategy
    simp only [if_neg hstrategy, if_pos (toUpper_ne_empty hsymbol)]
    exact Dict.get?_set_self _ _ _
  rw [← hsame.strategySymbolGuards] at hget
  rw [applyTo_strategySymbolGuards] at hget
  exact not_mem_of_restorePairs hget hbar

/-- A mode set without a reason is set in memory only. -/
theorem not_rebuilds_setTradingMode (h : Synced s) {mode : OMSCapabilityMode}
    (hmode : mode ∈ OMSCapabilityMode.overrides) : ¬Rebuilds (s.setTradingMode mode "") := by
  obtain ⟨summary, hreplay, hmirror⟩ := h
  intro hrebuilds
  have hnew : s.modeConstraints.get? (modeConstraintKey "") ≠ some (mode, "") := fun hget =>
    (hmirror.modes.entries _ mode "" hget).1 rfl
  have hafterState : ∃ record, s.setTradingMode mode "" =
      (({ s with
        modeConstraintGeneration := s.modeConstraintGeneration + 1
        modeConstraints := s.modeConstraints.set (modeConstraintKey "") (mode, "")
        modeConstraintGenerations := s.modeConstraintGenerations.set (modeConstraintKey "")
          (s.modeConstraintGeneration + 1) } : GuardState).refreshSelected).audit record ∧
      summary.step record =
        .ok { summary with modeOverride := mode.value, modeOverrideReason := "" } := by
    refine ⟨.modeSet mode.value "" (modeConstraintKey "")
      (some (s.modeConstraintGeneration + 1)),
      ?_, ?_⟩
    · unfold setTradingMode
      simp only [if_neg (not_not.mpr hmode), if_neg fun hboth => hnew (And.right hboth)]
    · show summary.onModeSet _ _ _ _ = _
      unfold GuardSummary.onModeSet
      simp only [or_true, if_true]
  obtain ⟨record, hstate, hstep⟩ := hafterState
  have hpassed : GuardMirror { summary with modeOverride := mode.value,
                                            modeOverrideReason := "" }
      s :=
    ⟨hmirror.symbols, hmirror.venues, hmirror.strategies, hmirror.reasons, hmirror.pairs,
      ⟨hmirror.modes.keys, hmirror.modes.entries, hmirror.modes.generations,
        hmirror.modes.counter, hmirror.modes.nonneg, fun _ => Or.inr rfl,
        hmirror.modes.selected⟩⟩
  rw [hstate, refreshSelected_eq] at hrebuilds
  obtain ⟨restored, hbefore, hafter⟩ := same_of_ignored hrebuilds hreplay rfl hstep hpassed
  have hsame := hbefore.modeConstraints.symm.trans hafter.modeConstraints
  exact hnew ((congrArg (fun constraints =>
    Dict.get? constraints (modeConstraintKey "")) hsame).trans
    (Dict.get?_set_self _ _ _))

/-- **An operation is followed exactly when it is careful.** -/
theorem rebuilds_apply_iff (h : Synced s) (op : GuardOp) : Rebuilds (s.apply op) ↔
    s.Careful op := by
  refine ⟨fun hrebuilds => ?_, fun hcareful => (synced_apply h hcareful).rebuilds⟩
  by_contra hcareless
  cases op with
  | freezeVenue venue reason =>
    exact not_rebuilds_freezeVenue h (not_not.mp hcareless) reason hrebuilds
  | freezeStrategy strategyId reason symbol =>
    unfold Careful at hcareless
    push Not at hcareless
    obtain ⟨hstrategy, hbad⟩ := hcareless
    by_cases hreason : reason = ""
    · subst hreason
      exact not_rebuilds_freezeStrategy_reason h hstrategy symbol hrebuilds
    · obtain ⟨hsymbol, hbar⟩ := hbad hreason
      exact not_rebuilds_freezeStrategy_bar hstrategy hsymbol hbar s reason hrebuilds
  | setTradingMode mode reason =>
    unfold Careful at hcareless
    push Not at hcareless
    obtain ⟨hmode, rfl⟩ := hcareless
    exact not_rebuilds_setTradingMode h hmode hrebuilds
  | freezeSymbol symbol reason => exact hcareless trivial
  | clearSymbolFreeze symbol expectedEpoch expectedReason expectedOwner =>
    exact hcareless trivial
  | clearOrderbookFreeze symbol recoveryToken => exact hcareless trivial
  | clearVenueFreeze venue expectedEpoch expectedReason expectedOwner => exact hcareless trivial
  | clearStrategyFreeze strategyId symbol => exact hcareless trivial
  | clearTradingMode heads expectedGenerations => exact hcareless trivial

/-! ### Runs -/

/-- A new process without a journal. -/
def fresh (gatewayName : String) : GuardState := { gatewayName := gatewayName }

theorem synced_fresh (gatewayName : String) : Synced (fresh gatewayName) := by
  have hpairs : PairsMirror ∅ ∅ := ⟨fun _ _ h => (by cases h), fun _ _ h => (by cases h),
    fun _ _ _ => rfl⟩
  have hmodes : ModesMirror {} (fresh gatewayName) :=
    ⟨rfl, fun _ _ _ h => (by cases h), fun _ _ h => (by cases h), rfl, le_refl 0,
      fun _ => Or.inl rfl, rfl⟩
  exact ⟨{}, rfl, BookMirror.empty .symbol, BookMirror.empty .venue, rfl,
    fun _ _ h => (by cases h), hpairs, hmodes⟩

/-- An operation as a step that can always be taken. -/
def afterOp (s : GuardState) (op : GuardOp) : Option GuardState := some (s.apply op)

/-- **The journal and the guards.**  For every sequence of operations: after each of them the
journal written so far leads back to the guards and mode constraints in memory, exactly when
each of them is careful. -/
theorem rebuilds_along_iff (gatewayName : String) (ops : List GuardOp) :
    Run.Along afterOp (fun s op => Rebuilds (s.apply op)) (fresh gatewayName) ops ↔
      Run.Along afterOp Careful (fresh gatewayName) ops := by
  refine Run.along_iff (I := Synced) (fun s op h => rebuilds_apply_iff h op) ?_
    (synced_fresh gatewayName)
  intro s op t h hrebuilds hstep
  cases hstep
  exact synced_apply h ((rebuilds_apply_iff h op).mp hrebuilds)

/-- The guard of a strategy with the separator in its name is gone after a restart. -/
theorem barred_strategy_loses_guard :
    ¬Run.Along afterOp (fun s op => Rebuilds (s.apply op)) (fresh "BINANCE")
      [.freezeStrategy "mm|v2" "drawdown" "BTCUSDT"] := by
  intro halong
  refine not_rebuilds_freezeStrategy_bar ?_ (by decide) ?_ (fresh "BINANCE") "drawdown" halong.1
  · decide +kernel
  · decide +kernel

end GuardState

end ChronosHFT.Oms
