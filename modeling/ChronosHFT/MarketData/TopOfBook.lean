import ChronosHFT.MarketData.Synchronization
import ChronosHFT.Lib.TopEntries

/-!
# The top of the book

Each side of the local order book keeps its best level and the levels it publishes next to all of
its levels.  An update corrects the best level with every level it changes, and marks the side
*dirty* when it touches what is published; only a dirty side is published anew.

**What is kept is what a recomputation gives** (`top_of_book_recomputed`), after any successful
calls. What carries the proof over an update is that the published levels are those from before
it until its last level is applied: a level that leaves the side clean is behind a full list. -/

namespace ChronosHFT.MarketData

open List

namespace BookKind

variable {cfg : BookSettings} {kind : BookKind}

/-! ## The order of a side -/

/-- Is the first price strictly further to the front than the second? -/
def before : BookKind → ℚ → ℚ → Prop
  | .bid, price, other => other < price
  | .ask, price, other => price < other

instance : Std.Irrefl kind.before where
  irrefl price := by
    cases kind with
    | bid => exact lt_irrefl price
    | ask => exact lt_irrefl price

instance : Std.Asymm kind.before where
  asymm price other h := by
    cases kind with
    | bid => exact lt_asymm h
    | ask => exact lt_asymm h

variable {a b c price : ℚ} {levels : Levels} {update : ℚ × ℚ} {side : BookSide}

theorem before_trans (hab : kind.before a b) (hbc : kind.before b c) : kind.before a c := by
  cases kind with
  | bid => exact lt_trans hbc hab
  | ask => exact lt_trans hab hbc

theorem not_ahead {other : ℚ} : kind.ahead price other = false ↔ kind.before other price := by
  cases kind with
  | bid => simp [ahead, before]
  | ask => simp [ahead, before]

theorem ahead_refl (price : ℚ) : kind.ahead price price = true := by
  cases kind with
  | bid => exact decide_eq_true le_rfl
  | ask => exact decide_eq_true le_rfl

theorem ahead_total (price other : ℚ) :
    (kind.ahead price other || kind.ahead other price) = true := by
  cases kind with
  | bid => simpa [ahead] using le_total other price
  | ask => simpa [ahead] using le_total price other

theorem ahead_trans (hab : kind.ahead a b = true) (hbc : kind.ahead b c = true) :
    kind.ahead a c = true := by
  cases kind with
  | bid => exact decide_eq_true ((of_decide_eq_true hbc).trans (of_decide_eq_true hab))
  | ask => exact decide_eq_true ((of_decide_eq_true hab).trans (of_decide_eq_true hbc))

theorem ahead_antisymm (hab : kind.ahead a b = true) (hba : kind.ahead b a = true) : a = b := by
  cases kind with
  | bid => exact le_antisymm (of_decide_eq_true hba) (of_decide_eq_true hab)
  | ask => exact le_antisymm (of_decide_eq_true hab) (of_decide_eq_true hba)

theorem before_of_ahead (hab : kind.ahead a b = true) (hne : a ≠ b) : kind.before a b :=
  not_ahead.mp ((Bool.eq_false_iff).mpr fun hba => hne (ahead_antisymm hab hba))

/-! ## The best level -/

/-- The best level of some levels; price and quantity are 0 where there is none. -/
structure IsBest (kind : BookKind) (levels : Levels) (price volume : ℚ) : Prop where
  missing : levels = ∅ → price = 0 ∧ volume = 0
  held : levels ≠ ∅ → levels.get? price = some volume
  front : ∀ other ∈ levels.keys, kind.ahead price other = true

theorem IsBest.unique {volume price' volume' : ℚ}
    (h : kind.IsBest levels price volume) (h' : kind.IsBest levels price' volume') :
    price = price' ∧ volume = volume' := by
  by_cases hempty : levels = ∅
  · obtain ⟨hprice, hvolume⟩ := h.missing hempty
    obtain ⟨hprice', hvolume'⟩ := h'.missing hempty
    exact ⟨hprice.trans hprice'.symm, hvolume.trans hvolume'.symm⟩
  · have hheld := h.held hempty
    have hheld' := h'.held hempty
    have heq : price = price' := ahead_antisymm
      (h.front price' (Dict.mem_keys_iff.mpr ⟨_, hheld'⟩))
      (h'.front price (Dict.mem_keys_iff.mpr ⟨_, hheld⟩))
    rw [heq, hheld'] at hheld
    exact ⟨heq, (Option.some.inj hheld).symm⟩

theorem best?_spec {prices : List ℚ} (h : kind.best? prices = some price) :
    price ∈ prices ∧ ∀ other ∈ prices, kind.ahead price other = true := by
  have hfold : ∀ (rest : List ℚ) (found : ℚ),
      let best := rest.foldl (fun found next => if kind.ahead found next then found
        else next) found
      best ∈ found :: rest ∧ ∀ other ∈ found :: rest, kind.ahead best other = true := by
    intro rest
    induction rest with
    | nil => exact fun found => ⟨mem_cons_self, fun other h => by
        rw [mem_singleton.mp h]
        exact ahead_refl found⟩
    | cons next rest ih =>
      intro found
      obtain ⟨hmem, hall⟩ := ih (if kind.ahead found next then found else next)
      rw [foldl_cons]
      cases hahead : kind.ahead found next with
      | true =>
        rw [hahead, if_pos rfl] at hmem hall
        rw [if_pos rfl]
        refine ⟨?_, fun other hother => ?_⟩
        · rcases mem_cons.mp hmem with heq | hmem
          · rw [heq]
            exact mem_cons_self
          · exact mem_cons_of_mem _ (mem_cons_of_mem _ hmem)
        · rcases mem_cons.mp hother with rfl | hother
          · exact hall _ mem_cons_self
          rcases mem_cons.mp hother with rfl | hother
          · exact ahead_trans (hall _ mem_cons_self) hahead
          · exact hall _ (mem_cons_of_mem _ hother)
      | false =>
        rw [hahead, if_neg Bool.false_ne_true] at hmem hall
        rw [if_neg Bool.false_ne_true]
        refine ⟨mem_cons_of_mem _ hmem, fun other hother => ?_⟩
        rcases mem_cons.mp hother with rfl | hother
        · have hbehind : kind.ahead next other = true := by
            have := kind.ahead_total other next
            rwa [hahead, Bool.false_or] at this
          exact ahead_trans (hall _ mem_cons_self) hbehind
        · exact hall _ hother
  cases prices with
  | nil => cases h
  | cons first rest =>
    cases h
    exact hfold rest first

/-- **A recomputed best level** is the best one. -/
theorem recomputeBest_isBest (side : BookSide) :
    kind.IsBest (kind.recomputeBest side).levels (kind.recomputeBest side).bestPrice
      (kind.recomputeBest side).bestVolume := by
  rw [recomputeBest_levels]
  unfold recomputeBest
  cases hbest : kind.best? side.levels.keys with
  | none =>
    have hempty : side.levels = ∅ := by
      apply Dict.ext_items
      cases hitems : side.levels.items with
      | nil => rfl
      | cons entry rest =>
        unfold Dict.keys at hbest
        rw [hitems] at hbest
        cases hbest
    exact ⟨fun _ => ⟨rfl, rfl⟩, fun hne => absurd hempty hne, fun other h => by
      rw [hempty] at h
      cases h⟩
  | some price =>
    obtain ⟨hmem, hfront⟩ := best?_spec hbest
    obtain ⟨volume, hget⟩ := Dict.mem_keys_iff.mp hmem
    refine ⟨fun hempty => ?_, fun _ => ?_, hfront⟩
    · rw [hempty] at hmem
      cases hmem
    · show side.levels.get? price = some (side.levels.getD price 0)
      rw [Dict.getD, hget]
      rfl

/-- Prices are positive. -/
def Positive (levels : Levels) : Prop := ∀ price ∈ levels.keys, 0 < price

theorem positive_storeLevel (h : Positive levels)
    (hprice : 0 < update.1) : Positive (storeLevel levels update) := by
  intro price hmem
  obtain ⟨quantity, hget⟩ := Dict.mem_keys_iff.mp hmem
  rw [get?_storeLevel] at hget
  split at hget
  · next heq => exact heq ▸ hprice
  · exact h price (Dict.mem_keys_iff.mpr ⟨_, hget⟩)

theorem front_of_storeLevel (hfront : ∀ other ∈ levels.keys, kind.ahead price other = true)
    (hnew : update.2 ≠ 0 → kind.ahead price update.1 = true) :
    ∀ other ∈ (storeLevel levels update).keys, kind.ahead price other = true := by
  intro other hmem
  obtain ⟨quantity, hget⟩ := Dict.mem_keys_iff.mp hmem
  rw [get?_storeLevel] at hget
  split at hget
  · next heq =>
    unfold levelOf at hget
    split at hget
    · cases hget
    · next hne => exact heq ▸ hnew hne
  · exact hfront other (Dict.mem_keys_iff.mpr ⟨_, hget⟩)

/-- **The best level after one update** of a price. -/
theorem isBest_applyUpdate (hpositive : Positive side.levels)
    (hbest : kind.IsBest side.levels side.bestPrice side.bestVolume) (dirty : Bool)
    (hprice : 0 < update.1) :
    let next := (kind.applyUpdate cfg (side, dirty) update).1
    kind.IsBest next.levels next.bestPrice next.bestVolume := by
  intro next
  obtain ⟨price, quantity⟩ := update
  -- a price of 0 stands for a side without levels only
  have hzero : side.bestPrice = 0 → side.levels = ∅ := by
    intro h
    by_contra hne
    have hpos := hpositive _ (Dict.mem_keys_iff.mpr ⟨_, hbest.held hne⟩)
    exact absurd h hpos.ne'
  have hlevels : next.levels = storeLevel side.levels (price, quantity) :=
    applyUpdate_levels (side, dirty) (price, quantity)
  by_cases hremove : quantity = 0
  · cases hthere : side.levels.contains price with
    | false =>
      have hsame : next = side := by
        simp only [next, applyUpdate, if_pos hremove, hthere, if_neg Bool.false_ne_true]
      rw [hsame]
      exact hbest
    | true =>
      have hne : side.levels ≠ ∅ := by
        intro h
        rw [h] at hthere
        cases hthere
      cases hlead : kind.wasLead price side.bestPrice with
      | true =>
        have hnext : next = kind.recomputeBest { side with
            levels := side.levels.erase price } := by
          simp only [next, applyUpdate, if_pos hremove, hthere, hlead, if_true]
        rw [hnext]
        exact recomputeBest_isBest _
      | false =>
        have hnext : next = { side with levels := side.levels.erase price } := by
          simp only [next, applyUpdate, if_pos hremove, hthere, hlead, if_true,
            if_neg Bool.false_ne_true]
        have hother : side.bestPrice ≠ price := by
          intro h
          cases kind with
          | bid => exact absurd (decide_eq_true h.symm) (Bool.eq_false_iff.mp hlead)
          | ask => exact absurd (decide_eq_true (.inr h.symm)) (Bool.eq_false_iff.mp hlead)
        have hheld : (side.levels.erase price).get? side.bestPrice = some side.bestVolume := by
          rw [Dict.get?_erase_of_ne _ hother]
          exact hbest.held hne
        have hfront := @front_of_storeLevel kind side.bestPrice side.levels (price, quantity)
          hbest.front (fun h => absurd hremove h)
        rw [← hlevels, hnext] at hfront
        rw [hnext]
        refine ⟨fun hempty => ?_, fun _ => hheld, hfront⟩
        have hnone : (side.levels.erase price).get? side.bestPrice = none :=
          congrArg (fun d : Levels => d.get? side.bestPrice) hempty
        rw [hheld] at hnone
        cases hnone
  · cases htakes : kind.takesLead price side.bestPrice with
    | true =>
      have hnext : next = { side with
          levels := side.levels.set price quantity, bestPrice := price,
          bestVolume := quantity } := by
        simp only [next, applyUpdate, if_neg hremove, htakes, if_true]
      have hahead : ∀ other ∈ side.levels.keys, kind.ahead price other = true := by
        intro other hmem
        have hfront := hbest.front other hmem
        have hpos := hpositive other hmem
        cases kind with
        | bid => exact @ahead_trans .bid _ _ _ htakes hfront
        | ask =>
          rcases of_decide_eq_true htakes with hnone | hle
          · rw [hzero hnone] at hmem
            cases hmem
          · exact @ahead_trans .ask _ _ _ (decide_eq_true hle) hfront
      have hfront := @front_of_storeLevel kind price side.levels (price, quantity) hahead
        (fun _ => ahead_refl price)
      rw [← hlevels, hnext] at hfront
      rw [hnext]
      refine ⟨fun hempty => ?_, fun _ => Dict.get?_set_self _ _ _, hfront⟩
      have hnone := congrArg (fun d : Levels => d.get? price) hempty
      rw [Dict.get?_set_self] at hnone
      cases hnone
    | false =>
      have hnext : next = { side with levels := side.levels.set price quantity } := by
        simp only [next, applyUpdate, if_neg hremove, htakes, if_neg Bool.false_ne_true]
      -- the new level is behind the best one, which there is
      have hbehind : kind.before side.bestPrice price := by
        cases kind with
        | bid => exact not_le.mp (of_decide_eq_false htakes)
        | ask => exact not_le.mp fun h => of_decide_eq_false htakes (.inr h)
      have hne : side.levels ≠ ∅ := by
        intro h
        have hmissing := (hbest.missing h).1
        cases kind with
        | bid =>
          rw [hmissing] at hbehind
          exact absurd hprice (not_lt.mpr (le_of_lt hbehind))
        | ask => exact of_decide_eq_false htakes (.inl hmissing)
      have hother : side.bestPrice ≠ price := fun h => irrefl_of kind.before price (h ▸ hbehind)
      have hheld : (side.levels.set price quantity).get? side.bestPrice =
          some side.bestVolume := by
        rw [Dict.get?_set_of_ne _ _ hother]
        exact hbest.held hne
      have hfront := @front_of_storeLevel kind side.bestPrice side.levels (price, quantity)
        hbest.front (fun _ => by
          by_contra h
          exact asymm_of kind.before hbehind (not_ahead.mp (Bool.eq_false_iff.mpr h)))
      rw [← hlevels, hnext] at hfront
      rw [hnext]
      refine ⟨fun hempty => ?_, fun _ => hheld, hfront⟩
      have hnone : (side.levels.set price quantity).get? side.bestPrice = none :=
        congrArg (fun d : Levels => d.get? side.bestPrice) hempty
      rw [hheld] at hnone
      cases hnone

/-! ## The published levels -/

/-- **Recomputed published levels** are the first ones. -/
theorem publish_isTop (side : BookSide) :
    IsTop kind.before cfg.publishDepthLevels side.levels (kind.publish cfg side).top :=
  isTop_take (fun a b => ahead_total a.1 b.1) (fun _ _ _ => ahead_trans)
    (fun _ _ hab hne => before_of_ahead hab hne)

theorem applyUpdate_top (found : BookSide × Bool) (update : ℚ × ℚ) :
    (kind.applyUpdate cfg found update).1.top = found.1.top := by
  obtain ⟨side, dirty⟩ := found
  obtain ⟨price, quantity⟩ := update
  have hrecompute : ∀ s : BookSide, (kind.recomputeBest s).top = s.top := by
    intro s
    unfold recomputeBest
    split
    · rfl
    · rfl
  unfold applyUpdate
  simp only
  split
  · split
    · split
      · exact hrecompute _
      · rfl
    · rfl
  · split
    · rfl
    · rfl

theorem applyUpdate_dirty (found : BookSide × Bool) (update : ℚ × ℚ) :
    (kind.applyUpdate cfg found update).2 =
      (found.2 || kind.frontierImpacted cfg update.1 found.1.top) := by
  obtain ⟨side, dirty⟩ := found
  obtain ⟨price, quantity⟩ := update
  unfold applyUpdate
  simp only
  split
  · split
    · rfl
    · rfl
  · rfl

/-- A price that leaves a side clean is behind a full list. -/
theorem behind_of_not_impacted {top : List (ℚ × ℚ)}
    (htop : IsTop kind.before cfg.publishDepthLevels levels top)
    (h : kind.frontierImpacted cfg price top = false) :
    (cfg.publishDepthLevels : ℕ) ≤ top.length ∧ ∀ level ∈ top, kind.before level.1 price := by
  unfold frontierImpacted at h
  cases hlast : top.getLast? with
  | none =>
    rw [hlast, Bool.or_true] at h
    cases h
  | some frontier =>
    rw [hlast] at h
    simp only [Bool.or_eq_false_iff, decide_eq_false_iff_not, not_or, not_lt, Bool.not_eq_true]
      at h
    obtain ⟨-, -, hfull, hbehind⟩ := h
    refine ⟨hfull, fun level hlevel => ?_⟩
    have hfrontier : kind.before frontier.1 price := not_ahead.mp hbehind
    obtain ⟨front, rfl⟩ := List.getLast?_eq_some_iff.mp hlast
    rcases mem_append.mp hlevel with hfront | heq
    · have hordered := (pairwise_append.mp htop.ordered).2.2 level hfront frontier
        mem_cons_self
      exact before_trans hordered hfrontier
    · exact mem_singleton.mp heq ▸ hfrontier

/-- One level behind a full list. -/
theorem isTop_storeLevel {top : List (ℚ × ℚ)}
    (htop : IsTop kind.before cfg.publishDepthLevels levels top)
    (hclean : kind.frontierImpacted cfg update.1 top = false) :
    IsTop kind.before cfg.publishDepthLevels (storeLevel levels update) top := by
  obtain ⟨hfull, hbehind⟩ := behind_of_not_impacted htop hclean
  unfold storeLevel
  split
  · exact htop.erase_behind hfull hbehind
  · exact htop.set_behind hfull _ hbehind

/-! ## One update of a side -/

/-- What is kept next to the levels is what they make it. -/
structure Exact (cfg : BookSettings) (kind : BookKind) (side : BookSide) : Prop where
  positive : Positive side.levels
  best : kind.IsBest side.levels side.bestPrice side.bestVolume
  top : IsTop kind.before cfg.publishDepthLevels side.levels side.top

/-- The updates of a message, one after the other: the best level is kept at every one of them,
the published levels as long as the side is clean. -/
theorem applyUpdates_exact {updates : List (ℚ × ℚ)} (hprices : ∀ u ∈ updates, 0 < u.1)
    {found : BookSide × Bool} (hpositive : Positive found.1.levels)
    (hbest : kind.IsBest found.1.levels found.1.bestPrice found.1.bestVolume)
    (htop : found.2 = false →
      IsTop kind.before cfg.publishDepthLevels found.1.levels found.1.top) :
    let next := updates.foldl (kind.applyUpdate cfg) found
    Positive next.1.levels ∧ kind.IsBest next.1.levels next.1.bestPrice next.1.bestVolume ∧
      (next.2 = false → IsTop kind.before cfg.publishDepthLevels next.1.levels next.1.top) := by
  induction updates generalizing found with
  | nil => exact ⟨hpositive, hbest, htop⟩
  | cons update rest ih =>
    have hprice := hprices update mem_cons_self
    have hlevels : (kind.applyUpdate cfg found update).1.levels =
        storeLevel found.1.levels update :=
      applyUpdate_levels found update
    refine ih (fun u hu => hprices u (mem_cons_of_mem _ hu)) ?_ ?_ ?_
    · rw [hlevels]
      exact positive_storeLevel hpositive hprice
    · exact isBest_applyUpdate hpositive hbest found.2 hprice
    intro hclean
    rw [applyUpdate_dirty, Bool.or_eq_false_iff] at hclean
    rw [hlevels, applyUpdate_top]
    exact isTop_storeLevel (htop hclean.1) hclean.2

/-- **A side after the updates of a message**, published anew when it is dirty. -/
theorem exact_publishDirty (h : Exact cfg kind side) {updates : Levels}
    (hprices : Positive updates) : Exact cfg kind
      (if (kind.applyUpdates cfg side updates).2 then
        kind.publish cfg (kind.applyUpdates cfg side updates).1
      else (kind.applyUpdates cfg side updates).1) := by
  obtain ⟨hpositive, hbest, htop⟩ := @applyUpdates_exact cfg kind updates.items
    (fun u hu => hprices u.1 (mem_map_of_mem hu)) (side, false) h.positive h.best
    (fun _ => h.top)
  unfold applyUpdates
  cases hdirty : (updates.items.foldl (kind.applyUpdate cfg) (side, false)).2 with
  | true => exact ⟨hpositive, hbest, publish_isTop _⟩
  | false => exact ⟨hpositive, hbest, htop hdirty⟩

/-- A side that is recomputed from its levels. -/
def recomputed (cfg : BookSettings) (kind : BookKind) (levels : Levels) : BookSide :=
  kind.publish cfg (kind.recomputeBest { levels := levels })

theorem exact_recompute (hpositive : Positive side.levels) :
    Exact cfg kind (kind.publish cfg (kind.recomputeBest side)) := by
  have hlevels : (kind.publish cfg (kind.recomputeBest side)).levels = side.levels :=
    recomputeBest_levels side
  refine ⟨?_, recomputeBest_isBest side, publish_isTop _⟩
  rw [hlevels]
  exact hpositive

theorem side_ext {a b : BookSide} (hlevels : a.levels = b.levels)
    (hprice : a.bestPrice = b.bestPrice)
    (hvolume : a.bestVolume = b.bestVolume) (htop : a.top = b.top) : a = b := by
  obtain ⟨levels, price, volume, top⟩ := a
  cases hlevels
  cases hprice
  cases hvolume
  cases htop
  rfl

/-- **There is one exact side** for some levels: the recomputed one. -/
theorem Exact.eq_recomputed (h : Exact cfg kind side) :
    side = kind.recomputed cfg side.levels := by
  have hnew : Exact cfg kind (kind.recomputed cfg side.levels) :=
    @exact_recompute cfg kind { levels := side.levels } h.positive
  have hlevels : (kind.recomputed cfg side.levels).levels = side.levels :=
    recomputeBest_levels _
  have hbest := hnew.best
  have htop := hnew.top
  rw [hlevels] at hbest htop
  obtain ⟨hprice, hvolume⟩ := h.best.unique hbest
  exact side_ext hlevels.symm hprice hvolume (h.top.unique htop)

end BookKind

/-! ## Messages -/

/-- A level that is read has a positive price. -/
theorem parseLevel_eq_ok {keepZero : Bool} {found next : Levels} {entry : RawLevel}
    (h : parseLevel keepZero found entry = .ok next) :
    next = found ∨ ∃ price quantity, 0 < price ∧ next = found.set price quantity := by
  cases entry with
  | short => cases h
  | level price quantity =>
    cases price with
    | none => cases h
    | some price =>
      cases quantity with
      | none => cases h
      | some quantity =>
        by_cases hbad : price ≤ 0 ∨ quantity < 0
        · simp only [parseLevel, if_pos hbad] at h
          cases h
        simp only [parseLevel, if_neg hbad] at h
        by_cases hkept : 0 < quantity ∨ keepZero = true
        · rw [if_pos hkept] at h
          cases h
          exact .inr ⟨price, quantity, not_le.mp fun hle => hbad (.inl hle), rfl⟩
        · rw [if_neg hkept] at h
          cases h
          exact .inl rfl

/-- The levels that are read have positive prices. -/
theorem parseLevels_positive {keepZero : Bool} {entries : List RawLevel} {levels : Levels}
    (h : parseLevels keepZero entries = .ok levels) : BookKind.Positive levels := by
  have hfold : ∀ (entries : List RawLevel) (found : Levels), BookKind.Positive found →
      entries.foldlM (parseLevel keepZero) found = .ok levels → BookKind.Positive levels := by
    intro entries
    induction entries with
    | nil =>
      intro found hfound h
      cases h
      exact hfound
    | cons entry rest ih =>
      intro found hfound h
      rw [foldlM_cons] at h
      obtain ⟨next, hnext, hrest⟩ := Run.except_bind_eq_ok.mp h
      refine ih next ?_ hrest
      rcases parseLevel_eq_ok hnext with rfl | ⟨price, quantity, hprice, rfl⟩
      · exact hfound
      intro other hother
      rcases Dict.mem_keys_set.mp hother with rfl | hold
      · exact hprice
      · exact hfound other hold
  exact hfold entries ∅ (fun _ h => by cases h) h

namespace LocalOrderBook

variable {cfg : BookSettings}

/-- One side of a book. -/
def side (book : LocalOrderBook) : BookKind → BookSide
  | .bid => book.bids
  | .ask => book.asks

/-- Both sides of the book are exact. -/
def Exact (cfg : BookSettings) (book : LocalOrderBook) : Prop :=
  ∀ kind : BookKind, kind.Exact cfg (book.side kind)

/-- A new book. -/
theorem exact_new : Exact cfg {} := by
  intro kind
  have hside : ({} : LocalOrderBook).side kind = {} := by
    cases kind with
    | bid => rfl
    | ask => rfl
  rw [hside]
  exact
    { positive := nofun
      best := ⟨fun _ => ⟨rfl, rfl⟩, fun h => absurd rfl h, nofun⟩
      top := ⟨List.Pairwise.nil, nofun, (Nat.min_zero _).symm, nofun⟩ }

variable {book next : LocalOrderBook}

/-- **A snapshot that is taken** makes the book exact, whatever it was before. -/
theorem exact_initSnapshot {snapshot : DepthSnapshot}
    (h : (book.initSnapshot cfg snapshot).2 = .ok ()) :
    (book.initSnapshot cfg snapshot).1.Exact cfg := by
  unfold initSnapshot at h ⊢
  cases hread : readSnapshot cfg snapshot with
  | error fault =>
    rw [hread] at h
    cases h
  | ok found =>
    obtain ⟨bids, asks, id⟩ := found
    obtain ⟨⟨rawBids, rawAsks⟩, -, hrest⟩ := Run.except_bind_eq_ok.mp hread
    obtain ⟨parsedBids, hbids, hrest⟩ := Run.except_bind_eq_ok.mp hrest
    obtain ⟨parsedAsks, hasks, hrest⟩ := Run.except_bind_eq_ok.mp hrest
    have hsame : parsedBids = bids ∧ parsedAsks = asks := by
      cases hid : snapshot.lastUpdateId with
      | none =>
        rw [hid] at hrest
        cases hrest
      | some id' =>
        rw [hid] at hrest
        cases id' with
        | negSucc n => cases hrest
        | ofNat n =>
          obtain ⟨-, -, hpure⟩ := Run.except_bind_eq_ok.mp hrest
          cases hpure
          exact ⟨rfl, rfl⟩
    obtain ⟨rfl, rfl⟩ := hsame
    intro kind
    cases kind with
    | bid => exact BookKind.exact_recompute (parseLevels_positive hbids)
    | ask => exact BookKind.exact_recompute (parseLevels_positive hasks)

/-- What a message is read as has positive prices. -/
theorem readDelta_positive {delta : DepthDelta} {parsed : ParsedDelta}
    (h : readDelta cfg delta = .ok parsed) :
    BookKind.Positive parsed.bids ∧ BookKind.Positive parsed.asks := by
  obtain ⟨⟨rawBids, rawAsks⟩, -, hrest⟩ := Run.except_bind_eq_ok.mp h
  simp only at hrest
  split at hrest
  · split at hrest
    · cases hrest
    obtain ⟨bids, hbids, hrest⟩ := Run.except_bind_eq_ok.mp hrest
    obtain ⟨asks, hasks, hrest⟩ := Run.except_bind_eq_ok.mp hrest
    cases hrest
    exact ⟨parseLevels_positive hbids, parseLevels_positive hasks⟩
  · cases hrest

/-- **An update that is not refused** keeps the book exact. -/
theorem exact_processDelta (hexact : book.Exact cfg) {delta : DepthDelta}
    {receipt : Receipt} (h : (book.processDelta cfg delta receipt).2 = .ok ()) :
    (book.processDelta cfg delta receipt).1.Exact cfg := by
  unfold processDelta at h ⊢
  cases hread : readDelta cfg delta with
  | error fault =>
    rw [hread] at h
    cases h
  | ok parsed =>
    rw [hread] at h
    simp only at h ⊢
    by_cases hoff : book.initialized = false
    · rw [if_pos hoff]
      exact hexact
    rw [if_neg hoff] at h ⊢
    by_cases hold : parsed.finalId < book.lastUpdateId
    · rw [if_pos hold]
      exact hexact
    rw [if_neg hold] at h ⊢
    cases hvalid : book.sequenceValid parsed with
    | false =>
      rw [hvalid, if_pos rfl] at h
      cases h
    | true =>
      rw [hvalid, if_neg (by decide)] at h
      rw [if_neg (by decide)]
      split at h
      · cases h
      next hfits =>
        rw [if_neg hfits]
        split at h
        · cases h
        next =>
          obtain ⟨hbids, hasks⟩ := readDelta_positive hread
          intro kind
          cases kind with
          | bid => exact BookKind.exact_publishDirty (hexact .bid) hbids
          | ask => exact BookKind.exact_publishDirty (hexact .ask) hasks

/-! ## Sequences of calls -/

/-- A call of the feed. -/
inductive Call
  | initSnapshot (snapshot : DepthSnapshot)
  | processDelta (delta : DepthDelta) (receipt : Receipt)

/-- One call, and whether it raises. -/
def call (cfg : BookSettings) (book : LocalOrderBook) : Call →
    LocalOrderBook × Except BookFault Unit
  | .initSnapshot snapshot => book.initSnapshot cfg snapshot
  | .processDelta delta receipt => book.processDelta cfg delta receipt

/-- A call that is successful. -/
def succeed (cfg : BookSettings) (book : LocalOrderBook) (c : Call) : Option LocalOrderBook :=
  match book.call cfg c with
  | (next, .ok ()) => some next
  | (_, .error _) => none

theorem succeed_eq_some {c : Call} (h : book.succeed cfg c = some next) :
    next = (book.call cfg c).1 ∧ (book.call cfg c).2 = .ok () := by
  unfold succeed at h
  split at h
  · next hcall =>
    cases h
    rw [hcall]
    exact ⟨rfl, rfl⟩
  · cases h

/-- One successful call. -/
theorem exact_succeed {c : Call} (hexact : book.Exact cfg)
    (h : book.succeed cfg c = some next) : next.Exact cfg := by
  obtain ⟨rfl, hok⟩ := succeed_eq_some h
  cases c with
  | initSnapshot snapshot => exact exact_initSnapshot hok
  | processDelta delta receipt => exact exact_processDelta hexact hok

/-- **The top of the book is what a recomputation gives.**  After any successful calls on a new
book, for every depth and both ways to publish, each side is the one that is recomputed from its
levels: its best price is in front of all others and has the quantity that is stored, and its
published levels are the first ones in the order of their prices.  A published event says the
same. -/
theorem top_of_book_recomputed {cfg : BookSettings} {calls : List Call} {book : LocalOrderBook}
    (h : Run.exec (succeed cfg) {} calls = some book) :
    (∀ kind, book.side kind = BookKind.recomputed cfg kind (book.levels kind) ∧
      kind.IsBest (book.levels kind) (book.side kind).bestPrice (book.side kind).bestVolume ∧
      IsTop kind.before cfg.publishDepthLevels (book.levels kind) (book.side kind).top) ∧
    ∀ clock event, book.generateEventData cfg clock = some event →
      event.topBids = (BookKind.recomputed cfg .bid (book.levels .bid)).top ∧
      event.topAsks = (BookKind.recomputed cfg .ask (book.levels .ask)).top ∧
      event.bestBid = ((BookKind.recomputed cfg .bid (book.levels .bid)).bestPrice,
        (BookKind.recomputed cfg .bid (book.levels .bid)).bestVolume) ∧
      event.bestAsk = ((BookKind.recomputed cfg .ask (book.levels .ask)).bestPrice,
        (BookKind.recomputed cfg .ask (book.levels .ask)).bestVolume) := by
  have hexact : book.Exact cfg := Run.exec_preserves (fun _ _ _ => exact_succeed) exact_new h
  have hlevels : ∀ kind, book.levels kind = (book.side kind).levels := by
    intro kind
    cases kind with
    | bid => rfl
    | ask => rfl
  have hside : ∀ kind, book.side kind = BookKind.recomputed cfg kind (book.levels kind) := by
    intro kind
    rw [hlevels]
    exact (hexact kind).eq_recomputed
  refine ⟨fun kind => ⟨hside kind, ?_, ?_⟩, fun clock event hevent => ?_⟩
  · rw [hlevels]
    exact (hexact kind).best
  · rw [hlevels]
    exact (hexact kind).top
  rw [← hside .bid, ← hside .ask]
  unfold generateEventData at hevent
  split at hevent
  · cases hevent
  · cases hevent
    exact ⟨rfl, rfl, rfl, rfl⟩

/-- A second bid, and then the first one is taken away. -/
def changedLead : List Call :=
  [.initSnapshot oneBidSnapshot.message,
    .processDelta secondBid.delta atNoonReceipt,
    .processDelta { secondBid.delta with
      firstId := some 7, finalId := some 7, previousFinalId := some 6
      bids := some [.level (some 10) (some 0)] } atNoonReceipt]

/-- The best bid is taken away: the one behind it is published. -/
theorem top_of_book_recomputed_changedLead :
    ∃ book, Run.exec (succeed { publishDepthLevels := 1 }) {} changedLead = some book ∧
      book.bids.top = [(9, 1)] ∧
      book.side .bid = BookKind.recomputed { publishDepthLevels := 1 } .bid
      (book.levels .bid) := by
  have htop : (Run.exec (succeed { publishDepthLevels := 1 }) {} changedLead).map
      (fun book => book.bids.top) = some [(9, 1)] := by
    decide +kernel
  obtain ⟨book, hbook, hlevels⟩ := Option.map_eq_some_iff.mp htop
  exact ⟨book, hbook, hlevels, ((top_of_book_recomputed hbook).1 .bid).1⟩

end LocalOrderBook

end ChronosHFT.MarketData
