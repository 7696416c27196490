import ChronosHFT.MarketData.OrderBook
import ChronosHFT.Lib.Run

/-!
# The book of the venue and its copy

The venue has a book after each of its ids.  A depth update covers some ids: what it lists has
the listed quantity after the last of them, and what it does not list has not changed since the
update before it.  A full snapshot has the book after some id, which need not be the last of an
update.

**An initialized copy is exact** (`processDelta_synchronized`).  Whatever updates of the venue
are fed to a book after a snapshot, with drops, repeats and in any order, each either is refused
and leaves the book uninitialized, or leaves it equal to the book of the venue after its last id.

**An uninitialized book is not touched**, nor compared: after a refusal it may hold half an
update while the next one goes by in silence (`refused_then_silent`). -/

namespace ChronosHFT.MarketData

open List

/-! ## The venue -/

/-- A level of a message, as it is sent. -/
def rawLevels (levels : Levels) : List RawLevel :=
  levels.items.map fun p => .level (some p.1) (some p.2)

/-- Prices are positive, and quantities are not negative. -/
def WellFormedLevels (levels : Levels) : Prop := ∀ p ∈ levels.items, 0 < p.1 ∧ 0 ≤ p.2

/-- A depth update: the ids it covers, and the quantities after them. -/
structure DepthUpdate where
  firstId : ℕ
  finalId : ℕ
  previousFinalId : ℕ
  levels : BookKind → Levels
  eventMs : ℚ := 0
  ordered : previousFinalId < firstId ∧ firstId ≤ finalId
  wellFormed : ∀ kind, WellFormedLevels (levels kind)

/-- The message of an update. -/
def DepthUpdate.delta (update : DepthUpdate) : DepthDelta where
  firstId := some update.firstId
  finalId := some update.finalId
  previousFinalId := some update.previousFinalId
  bids := some (rawLevels (update.levels .bid))
  asks := some (rawLevels (update.levels .ask))
  eventMs := update.eventMs

/-- The book of the venue after each id, and the updates that tell of it. -/
structure DepthHistory where
  quantity : ℕ → BookKind → ℚ → ℚ
  updates : List DepthUpdate
  chained : updates.IsChain fun earlier later => later.previousFinalId = earlier.finalId
  listed : ∀ update ∈ updates, ∀ kind price quantity',
    (update.levels kind).get? price = some quantity' →
    quantity update.finalId kind price = quantity'
  unlisted : ∀ update ∈ updates, ∀ kind price, (update.levels kind).get? price = none →
    ∀ id, update.previousFinalId ≤ id → id ≤ update.finalId →
      quantity id kind price = quantity update.previousFinalId kind price

/-- A full snapshot of the venue after some id. -/
structure FullSnapshot (history : DepthHistory) where
  id : ℕ
  levels : BookKind → Levels
  full : ∀ kind price, (levels kind).getD price 0 = history.quantity id kind price
  wellFormed : ∀ kind, WellFormedLevels (levels kind)

/-- The message of a snapshot. -/
def FullSnapshot.message {history : DepthHistory} (snapshot : FullSnapshot history) :
    DepthSnapshot where
  bids := some (rawLevels (snapshot.levels .bid))
  asks := some (rawLevels (snapshot.levels .ask))
  lastUpdateId := some snapshot.id

/-- A quantity as a level: 0 is none. -/
def levelOf (quantity : ℚ) : Option ℚ := if quantity = 0 then none else some quantity

/-- The levels of one side. -/
def LocalOrderBook.levels (book : LocalOrderBook) : BookKind → Levels
  | .bid => book.bids.levels
  | .ask => book.asks.levels

/-- **The book is that of the venue** after the id it names. -/
def LocalOrderBook.Mirrors (book : LocalOrderBook) (history : DepthHistory) : Prop :=
  ∀ kind price, (book.levels kind).get? price =
    levelOf (history.quantity book.lastUpdateId kind price)

/-! ## Reading levels -/

theorem parseLevel_of_sound {keepZero : Bool} {found : Levels} {price quantity : ℚ}
    (hprice : 0 < price) (hquantity : 0 ≤ quantity) :
    parseLevel keepZero found (.level (some price) (some quantity)) =
      .ok (if 0 < quantity ∨ keepZero then found.set price quantity else found) := by
  unfold parseLevel
  have hsound : ¬(price ≤ 0 ∨ quantity < 0) := by
    rintro (hle | hlt)
    · exact absurd hprice (not_lt.mpr hle)
    · exact absurd hquantity (not_le.mpr hlt)
  simp only [if_neg hsound]
  split
  · rfl
  · rfl

/-- The levels of a message that are well formed are read as they are. -/
theorem parseLevels_rawLevels {levels : Levels} (h : WellFormedLevels levels) (keepZero : Bool) :
    parseLevels keepZero (rawLevels levels) =
      .ok (Dict.ofList (levels.items.filter fun p => 0 < p.2 ∨ keepZero)) := by
  have hfold : ∀ (items : List (ℚ × ℚ)) (found : Levels), (∀ p ∈ items, 0 < p.1 ∧ 0 ≤ p.2) →
      (items.map fun p => RawLevel.level (some p.1) (some p.2)).foldlM (parseLevel keepZero)
      found =
        .ok (found.setAll (items.filter fun p => 0 < p.2 ∨ keepZero)) := by
    intro items
    induction items with
    | nil => exact fun _ _ => rfl
    | cons first rest ih =>
      intro found hitems
      obtain ⟨hprice, hquantity⟩ := hitems first mem_cons_self
      have hrest := fun p hp => hitems p (mem_cons_of_mem _ hp)
      rw [map_cons, foldlM_cons, parseLevel_of_sound hprice hquantity, filter_cons]
      by_cases hkept : 0 < first.2 ∨ keepZero = true
      · rw [if_pos hkept, if_pos (decide_eq_true hkept)]
        exact ih _ hrest
      · rw [if_neg hkept, if_neg (by simpa using hkept)]
        exact ih _ hrest
  exact hfold levels.items ∅ h

/-- A quantity that is kept with zeros. -/
theorem parseLevels_keepZero {levels : Levels} (h : WellFormedLevels levels) :
    parseLevels true (rawLevels levels) = .ok levels := by
  have hall : (levels.items.filter fun p => 0 < p.2 ∨ true = true) = levels.items := by
    simp
  rw [parseLevels_rawLevels h, hall, Dict.ofList_items]

/-- The levels of a snapshot, without zeros. -/
theorem parseLevels_dropZero {levels : Levels} (h : WellFormedLevels levels) :
    ∃ parsed, parseLevels false (rawLevels levels) = .ok parsed ∧
      ∀ price, parsed.get? price = levelOf (levels.getD price 0) := by
  refine ⟨_, parseLevels_rawLevels h false, fun price => ?_⟩
  have hnodup : ((levels.items.filter fun p => 0 < p.2 ∨ false = true).map Prod.fst).Nodup :=
    levels.nodup.sublist (filter_sublist.map Prod.fst)
  apply Option.ext
  intro quantity
  rw [Dict.get?_ofList_eq_some_iff hnodup, mem_filter, ← Dict.get?_eq_some_iff]
  unfold levelOf Dict.getD
  cases hstored : levels.get? price with
  | none => simp
  | some stored =>
    have hsign := (h (price, stored) (Dict.get?_eq_some_iff.mp hstored)).2
    simp only [Option.some.injEq, Option.getD_some, Bool.false_eq_true, or_false,
      decide_eq_true_eq]
    constructor
    · rintro ⟨rfl, hpositive⟩
      rw [if_neg (ne_of_gt hpositive)]
    intro hlevel
    split at hlevel
    · cases hlevel
    · next hne =>
      cases hlevel
      exact ⟨rfl, lt_of_le_of_ne hsign (Ne.symm hne)⟩

/-! ## Applying levels -/

/-- One level is stored, or removed where its quantity is 0. -/
def storeLevel (levels : Levels) (update : ℚ × ℚ) : Levels :=
  if update.2 = 0 then levels.erase update.1 else levels.set update.1 update.2

namespace BookKind

variable {cfg : BookSettings} {kind : BookKind}

@[simp] theorem publish_levels (side : BookSide) :
    (kind.publish cfg side).levels = side.levels :=
  rfl

@[simp] theorem recomputeBest_levels (side : BookSide) :
    (kind.recomputeBest side).levels = side.levels := by
  unfold recomputeBest
  split
  · rfl
  · rfl

/-- The levels of one update. -/
theorem applyUpdate_levels (found : BookSide × Bool) (update : ℚ × ℚ) :
    (kind.applyUpdate cfg found update).1.levels = storeLevel found.1.levels update := by
  obtain ⟨side, dirty⟩ := found
  obtain ⟨price, quantity⟩ := update
  unfold applyUpdate storeLevel
  by_cases hzero : quantity = 0
  · simp only [if_pos hzero]
    cases hthere : side.levels.contains price with
    | true =>
      rw [if_pos rfl]
      simp only
      split
      · exact recomputeBest_levels _
      · rfl
    | false =>
      -- there is nothing to remove
      have hnone : side.levels.get? price = none := by
        simpa [Dict.contains] using hthere
      rw [if_neg Bool.false_ne_true, Dict.erase_of_get?_none hnone]
  · simp only [if_neg hzero]
    split
    · rfl
    · rfl

/-- The levels of a list of updates. -/
theorem foldl_applyUpdate_levels (updates : List (ℚ × ℚ)) (found : BookSide × Bool) :
    (updates.foldl (kind.applyUpdate cfg) found).1.levels =
      updates.foldl storeLevel found.1.levels := by
  induction updates generalizing found with
  | nil => rfl
  | cons update rest ih =>
    rw [foldl_cons, foldl_cons, ih, applyUpdate_levels]

end BookKind

theorem get?_storeLevel (levels : Levels) (update : ℚ × ℚ) (price : ℚ) :
    (storeLevel levels update).get? price =
      if update.1 = price then levelOf update.2 else levels.get? price := by
  unfold storeLevel levelOf
  by_cases hprice : update.1 = price
  · subst hprice
    split
    · rw [if_pos rfl, Dict.get?_erase_self]
    · rw [if_pos rfl, Dict.get?_set_self]
  · rw [if_neg hprice]
    split
    · exact Dict.get?_erase_of_ne levels (Ne.symm hprice)
    · exact Dict.get?_set_of_ne levels update.2 (Ne.symm hprice)

/-- After some updates, a price has the listed quantity, or its old one. -/
theorem get?_foldl_storeLevel {updates : List (ℚ × ℚ)} (hnodup : (updates.map Prod.fst).Nodup)
    (levels : Levels) (price : ℚ) :
    (updates.foldl storeLevel levels).get? price =
      match Dict.lookupIn price updates with
      | some quantity => levelOf quantity
      | none => levels.get? price := by
  induction updates generalizing levels with
  | nil => rfl
  | cons update rest ih =>
    rw [map_cons, nodup_cons] at hnodup
    rw [foldl_cons, ih hnodup.2, get?_storeLevel, Dict.lookupIn]
    by_cases hprice : update.1 = price
    · have habsent : Dict.lookupIn price rest = none := by
        cases hfound : Dict.lookupIn price rest with
        | none => rfl
        | some quantity =>
          have hmem := (Dict.lookupIn_eq_some_iff hnodup.2).mp hfound
          exact absurd (mem_map.mpr ⟨_, hmem, hprice.symm⟩) hnodup.1
      simp only [if_pos hprice, habsent]
    · simp only [if_neg hprice]

/-- **The levels of a side** after an update. -/
theorem get?_applyUpdates (cfg : BookSettings) (kind : BookKind) (side : BookSide)
    (updates : Levels)
    (price : ℚ) :
    (kind.applyUpdates cfg side updates).1.levels.get? price =
      match updates.get? price with
      | some quantity => levelOf quantity
      | none => side.levels.get? price := by
  unfold BookKind.applyUpdates
  rw [BookKind.foldl_applyUpdate_levels]
  exact get?_foldl_storeLevel updates.nodup side.levels price

/-! ## One update -/

namespace LocalOrderBook

variable {cfg : BookSettings} {history : DepthHistory}

/-- An update as it is read. -/
def parsedUpdate (update : DepthUpdate) : ParsedDelta where
  firstId := update.firstId
  finalId := update.finalId
  previousFinalId := update.previousFinalId
  bids := update.levels .bid
  asks := update.levels .ask

/-- The levels an update lists. -/
def ParsedDelta.levels (delta : ParsedDelta) : BookKind → Levels
  | .bid => delta.bids
  | .ask => delta.asks

/-- An update of the venue is read as it is, or it is too long. -/
theorem readDelta_delta {update : DepthUpdate} {parsed : ParsedDelta}
    (h : readDelta cfg update.delta = .ok parsed) : parsed = parsedUpdate update := by
  obtain ⟨⟨rawBids, rawAsks⟩, hshape, hrest⟩ := Run.except_bind_eq_ok.mp h
  have hraw : rawBids = rawLevels (update.levels .bid) ∧
      rawAsks = rawLevels (update.levels .ask) := by
    obtain ⟨bids, hbids, hmap⟩ := Run.except_bind_eq_ok.mp hshape
    unfold checkShape DepthUpdate.delta at hbids hmap
    simp only at hbids hmap
    split at hbids
    · cases hbids
    split at hmap
    · cases hmap
    · cases hbids
      cases hmap
      exact ⟨rfl, rfl⟩
  obtain ⟨rfl, rfl⟩ := hraw
  have hordered : ¬((update.finalId : ℤ) < (update.firstId : ℕ)) := by
    have := update.ordered.2
    omega
  unfold DepthUpdate.delta at hrest
  simp only at hrest
  rw [if_neg hordered, parseLevels_keepZero (update.wellFormed .bid),
    parseLevels_keepZero (update.wellFormed .ask)] at hrest
  cases hrest
  rfl

/-- **One message**: it is refused, it is passed over, or it is applied. -/
theorem processDelta_cases (book : LocalOrderBook) (delta : DepthDelta) (receipt : Receipt) :
    ((book.processDelta cfg delta receipt).1.initialized = false ∧
        ∃ fault, (book.processDelta cfg delta receipt).2 = .error fault) ∨
      ((∃ parsed, readDelta cfg delta = .ok parsed ∧
          (book.initialized = false ∨ parsed.finalId < book.lastUpdateId)) ∧
        book.processDelta cfg delta receipt = (book, .ok ())) ∨
      ∃ parsed, readDelta cfg delta = .ok parsed ∧ book.lastUpdateId ≤ parsed.finalId ∧
        book.sequenceValid parsed = true ∧ (book.processDelta cfg delta receipt).2 = .ok () ∧
        (book.processDelta cfg delta receipt).1.initialized = true ∧
        (book.processDelta cfg delta receipt).1.lastUpdateId = parsed.finalId ∧
        ∀ kind price, ((book.processDelta cfg delta receipt).1.levels kind).get? price =
          match (parsed.levels kind).get? price with
          | some quantity => levelOf quantity
          | none => (book.levels kind).get? price := by
  unfold processDelta
  cases hread : readDelta cfg delta with
  | error fault => exact .inl ⟨rfl, fault, rfl⟩
  | ok parsed =>
    simp only
    by_cases hoff : book.initialized = false
    · rw [if_pos hoff]
      exact .inr (.inl ⟨⟨parsed, rfl, .inl hoff⟩, rfl⟩)
    rw [if_neg hoff]
    by_cases hold : parsed.finalId < book.lastUpdateId
    · rw [if_pos hold]
      exact .inr (.inl ⟨⟨parsed, rfl, .inr hold⟩, rfl⟩)
    rw [if_neg hold]
    cases hvalid : book.sequenceValid parsed with
    | false =>
      rw [if_pos rfl]
      exact .inl ⟨rfl, _, rfl⟩
    | true =>
      rw [if_neg (by decide)]
      split
      · exact .inl ⟨rfl, _, rfl⟩
      split
      · exact .inl ⟨rfl, _, rfl⟩
      refine .inr (.inr ⟨parsed, rfl, not_lt.mp hold, hvalid, rfl, ?_, rfl, ?_⟩)
      · exact (Bool.not_eq_false _).mp hoff
      intro kind price
      cases kind with
      | bid =>
        refine Eq.trans ?_ (get?_applyUpdates cfg .bid book.bids parsed.bids price)
        unfold levels applyLevels
        simp only
        split
        · rfl
        · rfl
      | ask =>
        refine Eq.trans ?_ (get?_applyUpdates cfg .ask book.asks parsed.asks price)
        unfold levels applyLevels
        simp only
        split
        · rfl
        · rfl

/-- An uninitialized book is not touched. -/
theorem processDelta_uninitialized {book : LocalOrderBook} (h : book.initialized = false)
    (delta : DepthDelta) (receipt : Receipt) :
    (book.processDelta cfg delta receipt).1 = book := by
  unfold processDelta
  cases hread : readDelta cfg delta with
  | error fault =>
    show { book with initialized := false } = book
    rw [← h]
  | ok parsed =>
    simp only [if_pos h]

/-- **A snapshot** is the book of the venue. -/
theorem initSnapshot_mirrors {before start : LocalOrderBook} {snapshot : FullSnapshot history}
    (h : before.initSnapshot cfg snapshot.message = (start, .ok ())) :
    start.Mirrors history := by
  unfold initSnapshot at h
  cases hread : readSnapshot cfg snapshot.message with
  | error fault =>
    rw [hread] at h
    cases h
  | ok found =>
    obtain ⟨bids, asks, id⟩ := found
    rw [hread] at h
    cases h
    obtain ⟨⟨rawBids, rawAsks⟩, hshape, hrest⟩ := Run.except_bind_eq_ok.mp hread
    have hraw : rawBids = rawLevels (snapshot.levels .bid) ∧
        rawAsks = rawLevels (snapshot.levels .ask) := by
      obtain ⟨bids, hbids, hmap⟩ := Run.except_bind_eq_ok.mp hshape
      unfold checkShape FullSnapshot.message at hbids hmap
      simp only at hbids hmap
      split at hbids
      · cases hbids
      split at hmap
      · cases hmap
      · cases hbids
        cases hmap
        exact ⟨rfl, rfl⟩
    obtain ⟨rfl, rfl⟩ := hraw
    obtain ⟨parsedBids, hbids, hbidLevels⟩ := parseLevels_dropZero (snapshot.wellFormed .bid)
    obtain ⟨parsedAsks, hasks, haskLevels⟩ := parseLevels_dropZero (snapshot.wellFormed .ask)
    simp only at hrest
    rw [hbids, hasks] at hrest
    have hvalidated : (validateBook parsedBids parsedAsks >>= fun _ =>
        Except.ok (parsedBids, parsedAsks, snapshot.id)) = .ok (bids, asks, id) := hrest
    obtain ⟨-, -, hlast⟩ := Run.except_bind_eq_ok.mp hvalidated
    cases hlast
    intro kind price
    rw [← snapshot.full kind price]
    cases kind with
    | bid =>
      show (BookKind.bid.recomputeBest { before.bids with levels := bids }).levels.get? price = _
      rw [BookKind.recomputeBest_levels]
      exact hbidLevels price
    | ask =>
      show (BookKind.ask.recomputeBest { before.asks with levels := asks }).levels.get? price = _
      rw [BookKind.recomputeBest_levels]
      exact haskLevels price

/-- **An update of the venue** on a book that is that of the venue. -/
theorem processDelta_mirrors {book : LocalOrderBook} (hmirrors : book.Mirrors history)
    (hinitialized : book.initialized = true) {update : DepthUpdate}
    (hupdate : update ∈ history.updates) (receipt : Receipt) :
    ((book.processDelta cfg update.delta receipt).1.initialized = false ∧
        ∃ fault, (book.processDelta cfg update.delta receipt).2 = .error fault) ∨
      ((book.processDelta cfg update.delta receipt).1.initialized = true ∧
        (book.processDelta cfg update.delta receipt).2 = .ok () ∧
        (book.processDelta cfg update.delta receipt).1.Mirrors history) := by
  rcases @processDelta_cases cfg book update.delta receipt with hrefused | ⟨-, hsame⟩ |
    ⟨parsed, hread, hlast, hvalid, hok, hon, hid, hlevels⟩
  · exact .inl hrefused
  · rw [hsame]
    exact .inr ⟨hinitialized, rfl, hmirrors⟩
  refine .inr ⟨hon, hok, fun kind price => ?_⟩
  cases readDelta_delta hread
  -- the update reaches from at most the id of the book to at least it
  have hreaches : update.previousFinalId ≤ book.lastUpdateId := by
    have hordered := update.ordered.1
    unfold sequenceValid parsedUpdate at hvalid
    simp only at hvalid
    split at hvalid
    · rcases of_decide_eq_true hvalid with heq | ⟨hfirst, -⟩
      · exact heq.le
      · omega
    · exact (of_decide_eq_true hvalid).le
  have hfinal : book.lastUpdateId ≤ update.finalId := hlast
  have hwhole : update.previousFinalId ≤ update.finalId := hreaches.trans hfinal
  rw [hlevels, hid]
  show (match (ParsedDelta.levels (parsedUpdate update) kind).get? price with
    | some quantity => levelOf quantity
    | none => (book.levels kind).get? price) =
      levelOf (history.quantity update.finalId kind price)
  have hsame : ParsedDelta.levels (parsedUpdate update) kind = update.levels kind := by
    cases kind with
    | bid => rfl
    | ask => rfl
  rw [hsame]
  cases hlisted : (update.levels kind).get? price with
  | some quantity =>
    simp only
    rw [history.listed update hupdate kind price quantity hlisted]
  | none =>
    simp only
    have hquiet := history.unlisted update hupdate kind price hlisted
    rw [hmirrors kind price, hquiet book.lastUpdateId hreaches hfinal,
      hquiet update.finalId hwhole (le_refl _)]

end LocalOrderBook

/-! ## Feeding a book -/

/-- The book after some messages. -/
def feed (cfg : BookSettings) (book : LocalOrderBook) (messages : List (DepthUpdate × Receipt)) :
    LocalOrderBook :=
  messages.foldl (fun book message => (book.processDelta cfg message.1.delta message.2).1) book

/-- A book that is fed is uninitialized or that of the venue. -/
theorem feed_mirrors {cfg : BookSettings} {history : DepthHistory} {book : LocalOrderBook}
    (hbook : book.initialized = true → book.Mirrors history)
    {messages : List (DepthUpdate × Receipt)}
    (hmessages : ∀ m ∈ messages, m.1 ∈ history.updates) :
    (feed cfg book messages).initialized = true → (feed cfg book messages).Mirrors history := by
  induction messages generalizing book with
  | nil => exact hbook
  | cons message rest ih =>
    have hrest := fun m hm => hmessages m (mem_cons_of_mem _ hm)
    refine ih ?_ hrest
    beta_reduce
    intro hon
    cases hinitialized : book.initialized with
    | false =>
      rw [LocalOrderBook.processDelta_uninitialized hinitialized, hinitialized] at hon
      cases hon
    | true =>
      rcases @LocalOrderBook.processDelta_mirrors cfg history book (hbook hinitialized)
        hinitialized message.1 (hmessages message mem_cons_self) message.2 with
        ⟨hoff, -⟩ | ⟨-, -, hmirrors⟩
      · rw [hoff] at hon
        cases hon
      · exact hmirrors

/-- **An initialized copy is exact.**  After a snapshot and any updates of the venue, the next
one on an initialized book is refused and leaves it uninitialized, or leaves it equal to that of
the venue after its last id; where the update before it was left out, it is refused.  An
uninitialized book is not touched. -/
theorem processDelta_synchronized {cfg : BookSettings} {history : DepthHistory}
    {before start : LocalOrderBook} {snapshot : FullSnapshot history}
    {messages : List (DepthUpdate × Receipt)} {update : DepthUpdate} {receipt : Receipt}
    (hsnapshot : before.initSnapshot cfg snapshot.message = (start, .ok ()))
    (hmessages : ∀ m ∈ messages, m.1 ∈ history.updates) (hupdate : update ∈ history.updates) :
    let book := feed cfg start messages
    let result := book.processDelta cfg update.delta receipt
    (book.initialized = true →
        (result.1.initialized = false ∧ ∃ fault, result.2 = .error fault) ∨
          (result.1.initialized = true ∧ result.2 = .ok () ∧ result.1.Mirrors history)) ∧
      (book.initialized = true → book.awaitingFirstDelta = false →
        book.lastUpdateId ≤ update.finalId → update.previousFinalId ≠ book.lastUpdateId →
          result.1.initialized = false ∧ ∃ fault, result.2 = .error fault) ∧
      (book.initialized = false → result.1 = book) := by
  intro book result
  have hstart : start.initialized = true → start.Mirrors history := fun _ =>
    LocalOrderBook.initSnapshot_mirrors hsnapshot
  have hbook : book.initialized = true → book.Mirrors history := feed_mirrors hstart hmessages
  refine ⟨fun hon => ?_, fun hon hawaiting hlast hgap => ?_, fun hoff => ?_⟩
  · exact LocalOrderBook.processDelta_mirrors (hbook hon) hon hupdate receipt
  · rcases @LocalOrderBook.processDelta_cases cfg book update.delta receipt with hrefused |
      ⟨⟨parsed, hread, hoff | hold⟩, -⟩ | ⟨parsed, hread, -, hvalid, -⟩
    · exact hrefused
    · rw [hon] at hoff
      cases hoff
    · cases LocalOrderBook.readDelta_delta hread
      exact absurd hold (not_lt.mpr hlast)
    cases LocalOrderBook.readDelta_delta hread
    unfold LocalOrderBook.sequenceValid at hvalid
    rw [hawaiting, if_neg Bool.false_ne_true] at hvalid
    exact absurd (of_decide_eq_true hvalid) hgap
  · exact LocalOrderBook.processDelta_uninitialized hoff update.delta receipt

/-! ## A book that is full -/

/-- One level on each side, and from the sixth id on a second bid. -/
def secondBid : DepthUpdate where
  firstId := 6
  finalId := 6
  previousFinalId := 5
  levels
    | .bid => Dict.ofList [(9, 1)]
    | .ask => ∅
  ordered := by decide
  wellFormed := by
    intro kind
    cases kind with
    | bid =>
      intro p hp
      cases mem_singleton.mp hp
      constructor
      · norm_num
      · norm_num
    | ask => exact fun _ hp => by cases hp

/-- The book of the venue. -/
def twoBids (id : ℕ) : BookKind → ℚ → ℚ
  | .bid, price => if price = 10 ∨ (6 ≤ id ∧ price = 9) then 1 else 0
  | .ask, price => if price = 11 then 1 else 0

def twoBidsHistory : DepthHistory where
  quantity := twoBids
  updates := [secondBid]
  chained := isChain_singleton _
  listed := by
    intro update hupdate kind price quantity hlisted
    cases mem_singleton.mp hupdate
    cases kind with
    | bid =>
      have hentry := Dict.get?_eq_some_iff.mp hlisted
      cases mem_singleton.mp hentry
      simp [twoBids, secondBid]
    | ask => cases hlisted
  unlisted := by
    intro update hupdate kind price hlisted id hfrom hto
    cases mem_singleton.mp hupdate
    cases kind with
    | bid =>
      have hother : price ≠ 9 := by
        rintro rfl
        revert hlisted
        decide
      simp [twoBids, hother]
    | ask => rfl

/-- The snapshot before the update. -/
def oneBidSnapshot : FullSnapshot twoBidsHistory where
  id := 5
  levels
    | .bid => Dict.ofList [(10, 1)]
    | .ask => Dict.ofList [(11, 1)]
  full := by
    intro kind price
    cases kind with
    | bid =>
      show ((∅ : Levels).set 10 1).getD price 0 = twoBids 5 .bid price
      rw [Dict.getD_set]
      simp [twoBids]
    | ask =>
      show ((∅ : Levels).set 11 1).getD price 0 = twoBids 5 .ask price
      rw [Dict.getD_set]
      simp [twoBids]
  wellFormed := by
    intro kind p hp
    cases kind with
    | bid =>
      cases mem_singleton.mp hp
      constructor
      · norm_num
      · norm_num
    | ask =>
      cases mem_singleton.mp hp
      constructor
      · norm_num
      · norm_num

/-- A message at noon. -/
def atNoonReceipt : Receipt where
  timestamp := 43200
  monotonic := 10

/-- The snapshot is taken. -/
theorem oneBidSnapshot_taken {cfg : BookSettings}
    (h : ((({} : LocalOrderBook).initSnapshot cfg oneBidSnapshot.message).2.toOption).isSome =
      true) :
    ∃ start, ({} : LocalOrderBook).initSnapshot cfg oneBidSnapshot.message =
      (start, .ok ()) := by
  cases htaken : ({} : LocalOrderBook).initSnapshot cfg oneBidSnapshot.message with
  | mk start result =>
    rw [htaken] at h
    cases result with
    | error fault => cases h
    | ok _ => exact ⟨start, rfl⟩

/-- The update is taken, and the book mirrors the venue; when it comes again after that, it is
refused. -/
theorem processDelta_synchronized_secondBid :
    ∃ start, ({} : LocalOrderBook).initSnapshot {} oneBidSnapshot.message = (start, .ok ()) ∧
      (let result := (feed {} start []).processDelta {} secondBid.delta atNoonReceipt
       result.1.initialized = true ∧ result.2 = .ok () ∧ result.1.Mirrors twoBidsHistory) ∧
      let result := (feed {} start [(secondBid, atNoonReceipt)]).processDelta {} secondBid.delta
        atNoonReceipt
      result.1.initialized = false ∧ ∃ fault, result.2 = .error fault := by
  obtain ⟨start, htaken⟩ := @oneBidSnapshot_taken {} (by decide +kernel)
  have hstart : start = (({} : LocalOrderBook).initSnapshot {} oneBidSnapshot.message).1 := by
    rw [htaken]
  have hsecond : ∀ m ∈ [(secondBid, atNoonReceipt)], m.1 ∈ twoBidsHistory.updates := by
    intro m hm
    cases mem_singleton.mp hm
    exact mem_cons_self
  have hfirst := @processDelta_synchronized {} _ _ start oneBidSnapshot [] _ atNoonReceipt htaken
    (forall_mem_nil _) mem_cons_self
  have hagain := @processDelta_synchronized {} _ _ start oneBidSnapshot _ _ atNoonReceipt htaken
    hsecond
    mem_cons_self
  subst hstart
  refine ⟨_, htaken, (hfirst.1 ?_).resolve_left fun hrefused => ?_, hagain.2.1 ?_ ?_ ?_ ?_⟩
  · decide +kernel
  · exact absurd hrefused.1 (by decide +kernel)
  all_goals decide +kernel

/-- A book of one level a side. -/
def oneLevel : BookSettings where
  publishDepthLevels := ⟨1, Nat.one_pos⟩
  maxLevelsPerSide := ⟨1, Nat.one_pos⟩

/-- **A refused update, and a silent one**: the second bid does not fit, but it stays in the
book, and when the update comes again nothing is raised. -/
theorem refused_then_silent :
    ¬∀ (cfg : BookSettings) (history : DepthHistory) (before start : LocalOrderBook)
      (snapshot : FullSnapshot history) (messages : List (DepthUpdate × Receipt))
      (update : DepthUpdate) (receipt : Receipt),
      before.initSnapshot cfg snapshot.message = (start, .ok ()) →
      (∀ m ∈ messages, m.1 ∈ history.updates) → update ∈ history.updates →
      (((feed cfg start messages).processDelta cfg update.delta receipt).1.initialized = false ∧
          ∃ fault, ((feed cfg start messages).processDelta cfg update.delta receipt).2 =
            .error fault) ∨
        ((feed cfg start messages).processDelta cfg update.delta receipt).1.Mirrors history := by
  intro hall
  obtain ⟨start, htaken⟩ := @oneBidSnapshot_taken oneLevel (by decide +kernel)
  have hstart : start = (({} : LocalOrderBook).initSnapshot oneLevel
      oneBidSnapshot.message).1 := by
    rw [htaken]
  have hclaimed := hall oneLevel twoBidsHistory {} start oneBidSnapshot
    [(secondBid, atNoonReceipt)] secondBid atNoonReceipt htaken
    (fun m hm => by
      cases mem_singleton.mp hm
      exact mem_cons_self) mem_cons_self
  subst hstart
  rcases hclaimed with ⟨-, fault, hfault⟩ | hmirrors
  · have hsilent : ((((feed oneLevel
        (({} : LocalOrderBook).initSnapshot oneLevel oneBidSnapshot.message).1
        [(secondBid, atNoonReceipt)]).processDelta oneLevel secondBid.delta
          atNoonReceipt).2).toOption).isSome = true := by
      decide +kernel
    rw [hfault] at hsilent
    cases hsilent
  · have hheld := hmirrors .bid 9
    revert hheld
    decide +kernel

end ChronosHFT.MarketData
