import ChronosHFT.MarketData.BookRecovery

/-!
# The order of the published books

Three things are promised of the books of a symbol: they do not go back, none of them is of a
generation or a recovery that is over, and a symbol is cleared only by the recovery that began
last. They are said of what happened, the newest first (`Trace`).

**The last two hold of every run** (`publications_ordered`), of both controllers: the generation,
the object of a book and the token of its recovery are looked at with the lock that the book is
published under.

**The first** needs more.  The paper synchronizer computes a book and takes the lock again to
publish it; an update that is published in between makes it go back (`overtaken`).  And a resync
by the transport is not asked for a token: it may give a snapshot to a recovery that goes on with
another one (`synchronizedTwice`). -/

namespace ChronosHFT.MarketData

open List LocalOrderBook

/-! ## What is promised -/

namespace Trace

/-- Every published book is of the current generation, and was computed in the recovery that
began last, if there was one; and a symbol is cleared by that recovery alone, after its resync.
-/
def Fenced : Trace → Prop
  | [] => True
  | .published symbol generation era _ _ :: past =>
    Fenced past ∧ generation = Trace.generation past ∧ era = Trace.era symbol past
  | .cleared symbol token :: past =>
    Fenced past ∧ Trace.era symbol past = some token ∧ .resynced symbol token ∈ past
  | _ :: past => Fenced past

/-- Every published book is at least as new as those of its symbol before, back to the last
recovery and within one generation. -/
def Nondecreasing : Trace → Prop
  | [] => True
  | .published symbol _ _ lastUpdateId _ :: past =>
    Nondecreasing past ∧ ∀ earlier ∈ recent symbol past, earlier ≤ lastUpdateId
  | _ :: past => Nondecreasing past

instance decidableNondecreasing : ∀ trace : Trace, Decidable trace.Nondecreasing
  | [] => isTrue trivial
  | .published .. :: past =>
    have := decidableNondecreasing past
    inferInstanceAs (Decidable (_ ∧ _))
  | .advanced _ :: past | .began .. :: past | .resynced .. :: past | .froze .. :: past
  | .cleared .. :: past => decidableNondecreasing past

end Trace

/-- Does a symbol wait for a snapshot? -/
def Books.buffering (books : Books) (symbol : String) : Bool :=
  match books.buffers.get? symbol with
  | some (some _) => true
  | _ => false

/-- If a computed book is still accepted, nothing of its symbol was published since. -/
def BookSystem.Unseparated (w : BookSystem) (publication : Publication) : Prop :=
  w.accepts publication = true →
    Trace.publications publication.symbol w.trace = publication.mark

instance (w : BookSystem) (publication : Publication) : Decidable (w.Unseparated publication) :=
  inferInstanceAs (Decidable (_ → _))

/-- A step that keeps the order.  A resync by the transport finds its symbol waiting, and no
recovery that owns it; and nothing is published of a symbol between the two sections of a book.
-/
def BookStep.Spared (controller : Controller) (w : BookSystem) : BookStep → Prop
  | .sync symbol expected (some _) _ =>
    w.books.generationMatches expected = true →
      (controller = .paper → w.books.buffering symbol = true) ∧
        (w.books.buffering symbol = true → ∀ entry ∈ w.recoveries.items,
          entry.2.symbol = symbol →
          w.books.ownsRecovery entry.2.symbol entry.2.generation entry.1 = false)
  | .publish index .accepted => ∀ publication ∈ w.publications[index]?, w.Unseparated publication
  | .advance token input =>
    match w.recoveries.get? token, input.queue with
    | some { stage := .publishing publication, .. }, .accepted => w.Unseparated publication
    | _, _ => True
  | _ => True

instance BookStep.decidableSpared (controller : Controller) (w : BookSystem) :
    ∀ s : BookStep, Decidable (s.Spared controller w)
  | .sync _ _ (some _) _ => inferInstanceAs (Decidable (_ → _ ∧ _))
  | .sync _ _ none _ => isTrue trivial
  | .publish index .accepted =>
    inferInstanceAs
      (Decidable (∀ publication ∈ w.publications[index]?, w.Unseparated publication))
  | .publish _ .stopped | .publish _ (.full _) => isTrue trivial
  | .advance token input => by
      unfold BookStep.Spared
      dsimp only
      split
      · infer_instance
      · infer_instance
  | .delta .. | .schedule .. | .launch .. | .abandon _ | .reset _ | .invalidate => isTrue trivial

/-! ## The book of a symbol -/

/-- An update does not take a book back. -/
theorem le_processDelta (cfg : BookSettings) (book : LocalOrderBook) (delta : DepthDelta)
    (receipt : Receipt) :
    book.lastUpdateId ≤ (book.processDelta cfg delta receipt).1.lastUpdateId := by
  unfold processDelta
  split
  · exact le_rfl
  dsimp only
  split
  · exact le_rfl
  split
  · exact le_rfl
  next hold =>
    split
    · exact le_rfl
    split
    · exact le_rfl
    · split
      · exact le_rfl
      · exact not_lt.mp hold

/-! ## The invariant

`P` is whether the run is spared so far: what does not depend on it holds of every run. -/

section Invariant

variable (P : Prop)

/-- The books and what happened to them. -/
structure BooksSound (books : Books) (trace : Trace) : Prop where
  generation : Trace.generation trace = books.generation
  objects : ∀ symbol installed, books.orderbooks.get? symbol = some installed →
    installed.object < books.objects
  /-- The owner of a symbol is its last recovery. -/
  owner : ∀ symbol token, books.recoveryTokens.get? symbol = some token →
    Trace.era symbol trace = some token
  /-- Nothing was published of a book that still waits for its snapshot. -/
  waiting : P → ∀ symbol, books.buffering symbol = true → Trace.recent symbol trace = []
  /-- What was published of another is not ahead of it. -/
  behind : P → ∀ symbol installed, books.orderbooks.get? symbol = some installed →
    books.buffering symbol = false →
    ∀ earlier ∈ Trace.recent symbol trace, earlier ≤ installed.book.lastUpdateId
  fenced : Trace.Fenced trace
  nondecreasing : P → Trace.Nondecreasing trace

/-- A computed book.  As long as its object is installed it belongs to the recovery that began
last, and it is not older than what was published before it was computed. -/
structure PublicationSound (books : Books) (trace : Trace) (publication : Publication) :
    Prop where
  generation : publication.generation ≤ books.generation
  object : publication.object < books.objects
  mark : publication.mark ≤ Trace.publications publication.symbol trace
  recent : P → Trace.publications publication.symbol trace = publication.mark →
    ∀ earlier ∈ Trace.recent publication.symbol trace, earlier ≤ publication.lastUpdateId
  installed : books.generation = publication.generation → ∀ installed,
    books.orderbooks.get? publication.symbol = some installed →
    installed.object = publication.object →
    publication.era = Trace.era publication.symbol trace ∧
      books.buffering publication.symbol = false ∧
      (P → publication.lastUpdateId ≤ installed.book.lastUpdateId)

/-- What a recovery relies on: until its resync succeeds its symbol waits, as long as it owns it.
The paper recovery has one attempt. -/
def RecoverySound (controller : Controller) (books : Books) (trace : Trace) (token : ℕ)
    (recovery : BookRecovery) : Prop :=
  let waits := books.ownsRecovery recovery.symbol recovery.generation token = true →
    books.buffering recovery.symbol = true
  match recovery.stage with
  | .begun | .attempting _ => P → waits
  | .reporting _ | .failed _ => controller = .live → P → waits
  | .publishing publication =>
    controller = .paper ∧ PublicationSound P books trace publication
  | .synced => .resynced recovery.symbol token ∈ trace
  | .releasing => True

/-- The invariant, but for one recovery that is in the middle of a step. -/
structure BooksOrdered (controller : Controller) (acting : Option ℕ) (w : BookSystem) :
    Prop where
  books : BooksSound P w.books w.trace
  recoveries : ∀ token recovery, w.recoveries.get? token = some recovery → some token ≠ acting →
    RecoverySound P controller w.books w.trace token recovery
  publications : ∀ publication ∈ w.publications, PublicationSound P w.books w.trace publication

/-- What a step leaves to the books that were computed before it. -/
structure Follows (books : Books) (trace : Trace) (books' : Books) (trace' : Trace) : Prop where
  generation : books.generation ≤ books'.generation
  objects : books.objects ≤ books'.objects
  kept : ∀ occurrence ∈ trace, occurrence ∈ trace'
  publications : ∀ symbol, Trace.publications symbol trace ≤ Trace.publications symbol trace'
  recent : ∀ symbol, Trace.publications symbol trace' = Trace.publications symbol trace →
    ∀ earlier ∈ Trace.recent symbol trace', earlier ∈ Trace.recent symbol trace
  installed : books'.generation = books.generation → ∀ symbol installed',
    books'.orderbooks.get? symbol = some installed' → installed'.object < books.objects →
    ∃ installed, books.orderbooks.get? symbol = some installed ∧
      installed.object = installed'.object ∧ Trace.era symbol trace' = Trace.era symbol trace ∧
      (books.buffering symbol = false → books'.buffering symbol = false ∧
        (P → installed.book.lastUpdateId ≤ installed'.book.lastUpdateId))

end Invariant

section Sound

variable {P : Prop} {controller : Controller} {books books' : Books} {trace trace' : Trace}

theorem PublicationSound.follows {publication : Publication}
    (hfollows : Follows P books trace books' trace')
    (h : PublicationSound P books trace publication) :
    PublicationSound P books' trace' publication where
  generation := h.generation.trans hfollows.generation
  object := h.object.trans_le hfollows.objects
  mark := h.mark.trans (hfollows.publications _)
  recent := by
    intro hP hmark earlier hearlier
    have hsame : Trace.publications publication.symbol trace' =
        Trace.publications publication.symbol trace :=
      le_antisymm (hmark.trans_le h.mark) (hfollows.publications _)
    exact h.recent hP (hsame.symm.trans hmark) earlier (hfollows.recent _ hsame earlier hearlier)
  installed := by
    intro hgeneration installed' hinstalled' hobject
    have hsame : books'.generation = books.generation :=
      le_antisymm (hgeneration.trans_le h.generation) hfollows.generation
    obtain ⟨installed, hinstalled, hobjects, hera, hkeeps⟩ :=
      hfollows.installed hsame _ _ hinstalled' (hobject ▸ h.object)
    obtain ⟨hbelongs, hlive, hnewer⟩ :=
      h.installed (hsame.symm.trans hgeneration) installed hinstalled (hobjects.trans hobject)
    obtain ⟨hlive', hnewer'⟩ := hkeeps hlive
    exact ⟨hbelongs.trans hera.symm, hlive', fun hP => (hnewer hP).trans (hnewer' hP)⟩

variable {generation generation' lastUpdateId objects token token' : ℕ}
  {freezeReason other symbol symbol' : String} {orderbooks : Dict String InstalledBook}
  {buffers : Dict String (Option (List BookMessage))} {era expected : Option ℕ}
  {buffer : Option (List BookMessage)} {completed : Bool}

/-- A recovery that is not in the step relies on the same things after it. -/
theorem RecoverySound.follows {recovery : BookRecovery}
    (hfollows : Follows P books trace books' trace')
    (howns : books'.ownsRecovery recovery.symbol recovery.generation token = true →
      books.ownsRecovery recovery.symbol recovery.generation token = true ∧
        (P → books.buffering recovery.symbol = true → books'.buffering recovery.symbol = true))
    (h : RecoverySound P controller books trace token recovery) :
    RecoverySound P controller books' trace' token recovery := by
  have hwaits : P → (books.ownsRecovery recovery.symbol recovery.generation token = true →
      books.buffering recovery.symbol = true) →
      books'.ownsRecovery recovery.symbol recovery.generation token = true →
      books'.buffering recovery.symbol = true := by
    intro hP hwaits howns'
    obtain ⟨howned, hkeeps⟩ := howns howns'
    exact hkeeps hP (hwaits howned)
  unfold RecoverySound at h ⊢
  cases hstage : recovery.stage with
  | begun | attempting => exact fun hP => hwaits hP ((hstage ▸ h) hP)
  | reporting | failed =>
    rw [hstage] at h
    exact fun hlive hP => hwaits hP (h hlive hP)
  | publishing publication =>
    rw [hstage] at h
    exact ⟨h.1, h.2.follows hfollows⟩
  | synced =>
    rw [hstage] at h
    exact hfollows.kept _ h
  | releasing => trivial

theorem Follows.refl : Follows P books trace books trace where
  generation := le_rfl
  objects := le_rfl
  kept := fun _ h => h
  publications := fun _ => le_rfl
  recent := fun _ _ _ h => h
  installed := fun _ _ installed' h _ => ⟨installed', h, rfl, rfl, fun h => ⟨h, fun _ => le_rfl⟩⟩

/-! ## Another generation, and a new recovery -/

theorem buffering_renew :
    (books.renew symbol).buffering other =
      (decide (other = symbol) || books.buffering other) := by
  unfold Books.buffering Books.renew
  dsimp only
  rw [Dict.get?_set]
  by_cases hsame : other = symbol
  · simp [hsame]
  · simp [hsame]

theorem ownsRecovery_iff : books.ownsRecovery symbol generation token = true ↔
      books.generation = generation ∧ symbol ∈ books.resyncing ∧
        books.recoveryGenerations.get? symbol = some generation ∧
        books.recoveryTokens.get? symbol = some token := by
  simp [Books.ownsRecovery]

/-- The last recovery is the owner. -/
theorem BooksSound.era_eq (h : BooksSound P books trace)
    (howns : books.ownsRecovery symbol generation token = true) :
    Trace.era symbol trace = some token :=
  h.owner _ _ (ownsRecovery_iff.mp howns).2.2.2

theorem not_ownsRecovery_invalidate :
    books.invalidate.ownsRecovery symbol generation token = false := by
  rw [Bool.eq_false_iff]
  intro howns
  have := (ownsRecovery_iff.mp howns).2.1
  simp [Books.invalidate] at this

/-- Another generation, whatever its books are. -/
theorem BooksSound.advanced (h : BooksSound P books trace)
    (hobjects : ∀ symbol installed, orderbooks.get? symbol = some installed →
      installed.object < objects) :
    BooksSound P { books.invalidate with orderbooks, buffers, objects }
      (.advanced (books.generation + 1) :: trace) where
  generation := rfl
  objects := hobjects
  owner := by
    intro symbol token howner
    simp [Books.invalidate] at howner
  waiting := fun _ _ _ => rfl
  behind := fun _ _ _ _ _ _ hearlier => nomatch hearlier
  fenced := h.fenced
  nondecreasing := h.nondecreasing

theorem follows_advanced (hobjects : books.objects ≤ objects) :
    Follows P books trace { books.invalidate with orderbooks, buffers, objects }
      (.advanced (books.generation + 1) :: trace) where
  generation := Nat.le_succ _
  objects := hobjects
  kept := fun _ h => mem_cons_of_mem _ h
  publications := fun _ => le_rfl
  recent := fun _ _ _ hearlier => nomatch hearlier
  installed := fun hsame => absurd hsame (Nat.succ_ne_self _)

/-- New books are new objects. -/
theorem foldl_renew (symbols : List String) (books : Books)
    (hobjects : ∀ symbol installed, books.orderbooks.get? symbol = some installed →
      installed.object < books.objects) :
    ∃ orderbooks buffers objects,
      symbols.foldl Books.renew books = { books with orderbooks, buffers, objects } ∧
      books.objects ≤ objects ∧
      ∀ symbol installed, orderbooks.get? symbol = some installed →
      installed.object < objects := by
  induction symbols generalizing books with
  | nil => exact ⟨_, _, _, rfl, le_rfl, hobjects⟩
  | cons symbol rest ih =>
    have hrenewed : ∀ symbol' installed,
        (books.renew symbol).orderbooks.get? symbol' = some installed →
        installed.object < (books.renew symbol).objects := by
      intro symbol' installed hinstalled
      simp only [Books.renew, Dict.get?_set] at hinstalled
      split at hinstalled
      · cases hinstalled
        exact Nat.lt_succ_self _
      · exact (hobjects _ _ hinstalled).trans (Nat.lt_succ_self _)
    obtain ⟨orderbooks, buffers, objects, heq, hle, hlt⟩ := ih _ hrenewed
    exact ⟨orderbooks, buffers, objects, heq, (Nat.le_succ _).trans hle, hlt⟩

theorem reset_eq (symbols : List String)
    (hobjects : ∀ symbol installed, books.orderbooks.get? symbol = some installed →
      installed.object < books.objects) :
    ∃ orderbooks buffers objects,
      books.reset controller symbols = { books.invalidate with orderbooks, buffers, objects } ∧
      books.objects ≤ objects ∧
      ∀ symbol installed, orderbooks.get? symbol = some installed →
      installed.object < objects := by
  cases controller with
  | live => exact foldl_renew symbols _ hobjects
  | paper =>
    have hnone : ∀ symbol installed,
        (∅ : Dict String InstalledBook).get? symbol = some installed →
        installed.object < books.objects := by
      intro symbol installed hinstalled
      simp at hinstalled
    obtain ⟨orderbooks, buffers, objects, heq, hle, hlt⟩ := foldl_renew symbols
      { books.invalidate with orderbooks := ∅, buffers := ∅ } hnone
    exact ⟨orderbooks, buffers, objects, heq, hle, hlt⟩

/-- What `begin_recovery_locked` does when it answers a token. -/
theorem beginRecovery_eq_some
    (h : books.beginRecovery symbol freezeReason expected = (books', some token)) :
    token = books.recoveryToken + 1 ∧ books' =
      { books with
        recoveryToken := token
        resyncing := insert symbol books.resyncing
        recoveryGenerations := books.recoveryGenerations.set symbol books.generation
        recoveryTokens := books.recoveryTokens.set symbol token
        orderbooks := books.orderbooks.set symbol { object := books.objects }
        buffers := books.buffers.set symbol (some [])
        objects := books.objects + 1 } := by
  unfold Books.beginRecovery at h
  split at h
  · cases h
  split at h
  · cases h
  · cases h
    exact ⟨rfl, rfl⟩

theorem BooksSound.began
    (hbegins : books.beginRecovery symbol freezeReason expected = (books', some token))
    (h : BooksSound P books trace) : BooksSound P books' (.began symbol token :: trace) := by
  obtain ⟨-, rfl⟩ := beginRecovery_eq_some hbegins
  refine ⟨h.generation, ?_, ?_, ?_, ?_, h.fenced, h.nondecreasing⟩
  · intro symbol' installed hinstalled
    rw [Dict.get?_set] at hinstalled
    split at hinstalled
    · cases hinstalled
      exact Nat.lt_succ_self _
    · exact (h.objects _ _ hinstalled).trans (Nat.lt_succ_self _)
  · intro symbol' token' howner
    dsimp only at howner
    rw [Dict.get?_set] at howner
    by_cases hsame : symbol' = symbol
    · rw [if_pos hsame] at howner
      cases howner
      exact if_pos hsame.symm
    · rw [if_neg hsame] at howner
      exact (if_neg (Ne.symm hsame)).trans (h.owner _ _ howner)
  · intro hP symbol' hwaiting
    by_cases hsame : symbol' = symbol
    · exact if_pos hsame.symm
    have hbefore : books.buffering symbol' = true := by
      rw [← hwaiting]
      simp only [Books.buffering, Dict.get?_set_of_ne _ _ hsame]
    exact (if_neg (Ne.symm hsame)).trans (h.waiting hP _ hbefore)
  · intro hP symbol' installed hinstalled hlive earlier hearlier
    by_cases hsame : symbol' = symbol
    · subst hsame
      have hnone : Trace.recent symbol' (.began symbol' token :: trace) = [] := if_pos rfl
      rw [hnone] at hearlier
      cases hearlier
    · rw [show Trace.recent symbol' (.began symbol token :: trace) = Trace.recent symbol' trace
        from
        if_neg (Ne.symm hsame)] at hearlier
      dsimp only at hinstalled
      rw [Dict.get?_set_of_ne _ _ hsame] at hinstalled
      have hbefore : books.buffering symbol' = false := by
        rw [← hlive]
        simp only [Books.buffering, Dict.get?_set_of_ne _ _ hsame]
      exact h.behind hP _ _ hinstalled hbefore _ hearlier

theorem follows_began
    (hbegins : books.beginRecovery symbol freezeReason expected = (books', some token)) :
    Follows P books trace books' (.began symbol token :: trace) := by
  obtain ⟨-, rfl⟩ := beginRecovery_eq_some hbegins
  refine ⟨le_rfl, Nat.le_succ _, fun _ => mem_cons_of_mem _, fun _ => le_rfl, ?_, ?_⟩
  · intro symbol' _ earlier hearlier
    unfold Trace.recent at hearlier
    split at hearlier
    · cases hearlier
    · exact hearlier
  · intro _ symbol' installed' hinstalled' hobject
    have hne : symbol' ≠ symbol := by
      rintro rfl
      dsimp only at hinstalled'
      rw [Dict.get?_set_self] at hinstalled'
      cases hinstalled'
      exact absurd hobject (lt_irrefl _)
    dsimp only at hinstalled'
    rw [Dict.get?_set_of_ne _ _ hne] at hinstalled'
    refine ⟨installed', hinstalled', rfl, if_neg hne.symm, fun hlive => ⟨?_, fun _ => le_rfl⟩⟩
    rw [← hlive]
    simp only [Books.buffering, Dict.get?_set_of_ne _ _ hne]

/-- A recovery that began owns its symbol alone, which waits for its snapshot. -/
theorem owns_of_began
    (hbegins : books.beginRecovery symbol freezeReason expected = (books', some token))
    (hne : token' ≠ token)
    (howns : books'.ownsRecovery symbol' generation' token' = true) :
    books.ownsRecovery symbol' generation' token' = true ∧
      (books.buffering symbol' = true → books'.buffering symbol' = true) := by
  obtain ⟨-, rfl⟩ := beginRecovery_eq_some hbegins
  obtain ⟨hgeneration, hresyncing, hgenerations, htokens⟩ := ownsRecovery_iff.mp howns
  dsimp only at hresyncing hgenerations htokens
  have hsymbol : symbol' ≠ symbol := by
    rintro rfl
    rw [Dict.get?_set_self] at htokens
    cases htokens
    exact hne rfl
  rw [Dict.get?_set_of_ne _ _ hsymbol] at hgenerations htokens
  refine ⟨ownsRecovery_iff.mpr ⟨hgeneration, ?_, hgenerations, htokens⟩, fun hwaits => ?_⟩
  · exact (Finset.mem_insert.mp hresyncing).resolve_left hsymbol
  · rw [← hwaits]
    simp only [Books.buffering, Dict.get?_set_of_ne _ _ hsymbol]

/-! ## What a section does to a book -/

/-- Only the book of a symbol changes, which does not go back unless it waits. -/
theorem BooksSound.stored {installed : InstalledBook} {book : LocalOrderBook}
    (hinstalled : books.orderbooks.get? symbol = some installed)
    (hle : P → books.buffering symbol = false → installed.book.lastUpdateId ≤ book.lastUpdateId)
    (h : BooksSound P books trace) : BooksSound P (books.store symbol installed book) trace := by
  refine ⟨h.generation, ?_, h.owner, h.waiting, ?_, h.fenced, h.nondecreasing⟩
  · intro symbol' installed' hinstalled'
    simp only [Books.store, Dict.get?_set] at hinstalled'
    split at hinstalled'
    · cases hinstalled'
      exact h.objects symbol installed hinstalled
    · exact h.objects _ _ hinstalled'
  · intro hP symbol' installed' hinstalled' hlive earlier hearlier
    simp only [Books.store, Dict.get?_set] at hinstalled'
    split at hinstalled'
    next hsame =>
      cases hinstalled'
      subst hsame
      exact (h.behind hP _ _ hinstalled hlive _ hearlier).trans (hle hP hlive)
    next => exact h.behind hP _ _ hinstalled' hlive _ hearlier

theorem follows_stored {installed : InstalledBook} {book : LocalOrderBook}
    (hinstalled : books.orderbooks.get? symbol = some installed)
    (hle : P → books.buffering symbol = false →
      installed.book.lastUpdateId ≤ book.lastUpdateId) :
    Follows P books trace (books.store symbol installed book) trace := by
  refine ⟨le_rfl, le_rfl, fun _ h => h, fun _ => le_rfl, fun _ _ _ h => h, ?_⟩
  intro _ symbol' installed' hinstalled' _
  simp only [Books.store, Dict.get?_set] at hinstalled'
  split at hinstalled'
  next hsame =>
    cases hinstalled'
    subst hsame
    exact ⟨installed, hinstalled, rfl, rfl, fun hlive => ⟨hlive, fun hP => hle hP hlive⟩⟩
  next => exact ⟨installed', hinstalled', rfl, rfl, fun hlive => ⟨hlive, fun _ => le_rfl⟩⟩

/-- The buffer of one symbol changes. -/
def Books.rebuffer (books : Books) (symbol : String) (buffer : Option (List BookMessage)) :
    Books :=
  { books with buffers := books.buffers.set symbol buffer }

theorem buffering_rebuffer : (books.rebuffer symbol buffer).buffering other =
      if other = symbol then buffer.isSome else books.buffering other := by
  unfold Books.buffering Books.rebuffer
  dsimp only
  rw [Dict.get?_set]
  by_cases hsame : other = symbol
  · rw [if_pos hsame, if_pos hsame]
    cases buffer with
    | none => rfl
    | some _ => rfl
  · rw [if_neg hsame, if_neg hsame]

/-- A symbol that waits waits on, or has got its snapshot. -/
theorem BooksSound.rebuffered
    (hwaits : P → books.buffering symbol = true) (h : BooksSound P books trace) :
    BooksSound P (books.rebuffer symbol buffer) trace := by
  refine ⟨h.generation, h.objects, h.owner, ?_, ?_, h.fenced, h.nondecreasing⟩
  · intro hP symbol' hwaits'
    rw [buffering_rebuffer] at hwaits'
    split at hwaits'
    next hsame => exact h.waiting hP _ (hsame ▸ hwaits hP)
    next => exact h.waiting hP _ hwaits'
  · intro hP symbol' installed hinstalled hlive earlier hearlier
    rw [buffering_rebuffer] at hlive
    split at hlive
    next hsame =>
      rw [h.waiting hP _ (hsame ▸ hwaits hP)] at hearlier
      cases hearlier
    next => exact h.behind hP _ _ hinstalled hlive _ hearlier

theorem follows_rebuffered (hlive : books.buffering symbol = false → buffer = none) :
    Follows P books trace (books.rebuffer symbol buffer) trace := by
  refine ⟨le_rfl, le_rfl, fun _ h => h, fun _ => le_rfl, fun _ _ _ h => h, ?_⟩
  intro _ symbol' installed' hinstalled' _
  refine ⟨installed', hinstalled', rfl, rfl, fun hlive' => ⟨?_, fun _ => le_rfl⟩⟩
  rw [buffering_rebuffer]
  split
  next hsame =>
    rw [hlive (hsame ▸ hlive')]
    rfl
  next => exact hlive'

/-- The recovery of a symbol that still waits starts again with a new book. -/
theorem BooksSound.renewed (hwaits : P → books.buffering symbol = true)
    (h : BooksSound P books trace) : BooksSound P (books.renew symbol) trace := by
  refine ⟨h.generation, ?_, h.owner, ?_, ?_, h.fenced, h.nondecreasing⟩
  · intro symbol' installed hinstalled
    simp only [Books.renew, Dict.get?_set] at hinstalled
    split at hinstalled
    · cases hinstalled
      exact Nat.lt_succ_self _
    · exact (h.objects _ _ hinstalled).trans (Nat.lt_succ_self _)
  · intro hP symbol' hwaits'
    rw [buffering_renew, Bool.or_eq_true, decide_eq_true_eq] at hwaits'
    rcases hwaits' with rfl | hwaits'
    · exact h.waiting hP _ (hwaits hP)
    · exact h.waiting hP _ hwaits'
  · intro hP symbol' installed hinstalled hlive earlier hearlier
    rw [buffering_renew, Bool.or_eq_false_iff, decide_eq_false_iff_not] at hlive
    simp only [Books.renew, Dict.get?_set_of_ne _ _ hlive.1] at hinstalled
    exact h.behind hP _ _ hinstalled hlive.2 _ hearlier

theorem follows_renewed : Follows P books trace (books.renew symbol) trace := by
  refine ⟨le_rfl, Nat.le_succ _, fun _ h => h, fun _ => le_rfl, fun _ _ _ h => h, ?_⟩
  intro _ symbol' installed' hinstalled' hobject
  simp only [Books.renew, Dict.get?_set] at hinstalled'
  split at hinstalled'
  · cases hinstalled'
    exact absurd hobject (lt_irrefl _)
  next hne =>
    refine ⟨installed', hinstalled', rfl, rfl, fun hlive => ⟨?_, fun _ => le_rfl⟩⟩
    rw [buffering_renew, hlive, Bool.or_false, decide_eq_false_iff_not]
    exact hne

/-- The owner gives its symbol back. -/
theorem BooksSound.released
    (hreleases : books.releaseRecovery symbol generation token = (books', completed))
    (h : BooksSound P books trace) : BooksSound P books' trace := by
  unfold Books.releaseRecovery at hreleases
  split at hreleases
  · cases hreleases
    exact h
  cases hreleases
  refine ⟨h.generation, h.objects, ?_, h.waiting, h.behind, h.fenced, h.nondecreasing⟩
  intro symbol' token' howner
  dsimp only at howner
  rw [Dict.get?_erase] at howner
  split at howner
  · cases howner
  · exact h.owner _ _ howner

theorem follows_released
    (hreleases : books.releaseRecovery symbol generation token = (books', completed)) :
    Follows P books trace books' trace := by
  unfold Books.releaseRecovery at hreleases
  split at hreleases
  · cases hreleases
    exact .refl
  · cases hreleases
    exact ⟨le_rfl, le_rfl, fun _ h => h, fun _ => le_rfl, fun _ _ _ h => h,
      fun _ _ installed' h _ => ⟨installed', h, rfl, rfl, fun h => ⟨h, fun _ => le_rfl⟩⟩⟩

theorem owns_of_released
    (hreleases : books.releaseRecovery symbol generation token = (books', completed))
    (howns : books'.ownsRecovery symbol' generation' token' = true) :
    books.ownsRecovery symbol' generation' token' = true ∧
      (books.buffering symbol' = true → books'.buffering symbol' = true) := by
  unfold Books.releaseRecovery at hreleases
  split at hreleases
  · cases hreleases
    exact ⟨howns, id⟩
  cases hreleases
  obtain ⟨hgeneration, hresyncing, hgenerations, htokens⟩ := ownsRecovery_iff.mp howns
  dsimp only at hresyncing hgenerations htokens
  have hne : symbol' ≠ symbol := (Finset.mem_erase.mp hresyncing).1
  rw [Dict.get?_erase_of_ne _ hne] at hgenerations htokens
  exact ⟨ownsRecovery_iff.mpr
    ⟨hgeneration, Finset.mem_of_mem_erase hresyncing, hgenerations, htokens⟩, id⟩

/-- An occurrence that changes nothing about what is published of which recovery. -/
structure Silent (occurrence : Occurrence) (trace : Trace) : Prop where
  generation : Trace.generation (occurrence :: trace) = Trace.generation trace
  era : ∀ symbol, Trace.era symbol (occurrence :: trace) = Trace.era symbol trace
  recent : ∀ symbol, Trace.recent symbol (occurrence :: trace) = Trace.recent symbol trace
  publications : ∀ symbol,
    Trace.publications symbol (occurrence :: trace) = Trace.publications symbol trace
  fenced : Trace.Fenced trace → Trace.Fenced (occurrence :: trace)
  nondecreasing : Trace.Nondecreasing trace → Trace.Nondecreasing (occurrence :: trace)

theorem silent_froze {reason : String} : Silent (.froze symbol reason token) trace :=
  ⟨rfl, fun _ => rfl, fun _ => rfl, fun _ => rfl, id, id⟩

theorem silent_resynced : Silent (.resynced symbol token) trace :=
  ⟨rfl, fun _ => rfl, fun _ => rfl, fun _ => rfl, id, id⟩

theorem silent_cleared (hera : Trace.era symbol trace = some token)
    (hresynced : .resynced symbol token ∈ trace) : Silent (.cleared symbol token) trace :=
  ⟨rfl, fun _ => rfl, fun _ => rfl, fun _ => rfl, fun h => ⟨h, hera, hresynced⟩, id⟩

theorem BooksSound.silent {occurrence : Occurrence} (hsilent : Silent occurrence trace)
    (h : BooksSound P books trace) : BooksSound P books (occurrence :: trace) where
  generation := hsilent.generation.trans h.generation
  objects := h.objects
  owner := fun symbol token howner => (hsilent.era symbol).trans (h.owner symbol token howner)
  waiting := fun hP symbol hwaits => (hsilent.recent symbol).trans (h.waiting hP symbol hwaits)
  behind := by
    intro hP symbol installed hinstalled hlive
    rw [hsilent.recent]
    exact h.behind hP symbol installed hinstalled hlive
  fenced := hsilent.fenced h.fenced
  nondecreasing := fun hP => hsilent.nondecreasing (h.nondecreasing hP)

theorem follows_silent {occurrence : Occurrence} (hsilent : Silent occurrence trace) :
    Follows P books trace books (occurrence :: trace) where
  generation := le_rfl
  objects := le_rfl
  kept := fun _ => mem_cons_of_mem _
  publications := fun symbol => (hsilent.publications symbol).ge
  recent := by
    intro symbol _
    rw [hsilent.recent]
    exact fun _ h => h
  installed := fun _ symbol installed' h _ =>
    ⟨installed', h, rfl, hsilent.era symbol, fun h => ⟨h, fun _ => le_rfl⟩⟩

/-- A book is published that is not older than those before it. -/
theorem BooksSound.published {event : OrderBookEvent} (hera : era = Trace.era symbol trace)
    (hlive : books.buffering symbol = false)
    (hnewer : P → ∀ earlier ∈ Trace.recent symbol trace, earlier ≤ lastUpdateId)
    (hbehind : P → ∀ installed, books.orderbooks.get? symbol = some installed →
      lastUpdateId ≤ installed.book.lastUpdateId) (h : BooksSound P books trace) :
    BooksSound P books (.published symbol books.generation era lastUpdateId event :: trace) where
  generation := h.generation
  objects := h.objects
  owner := h.owner
  waiting := by
    intro hP symbol' hwaits
    have hne : symbol ≠ symbol' := by
      rintro rfl
      rw [hlive] at hwaits
      cases hwaits
    exact (if_neg hne).trans (h.waiting hP symbol' hwaits)
  behind := by
    intro hP symbol' installed hinstalled hlive' earlier hearlier
    unfold Trace.recent at hearlier
    split at hearlier
    next hsame =>
      subst hsame
      rcases mem_cons.mp hearlier with rfl | hearlier
      · exact hbehind hP installed hinstalled
      · exact h.behind hP _ _ hinstalled hlive' _ hearlier
    next => exact h.behind hP _ _ hinstalled hlive' _ hearlier
  fenced := ⟨h.fenced, h.generation.symm, hera⟩
  nondecreasing := fun hP => ⟨h.nondecreasing hP, hnewer hP⟩

theorem follows_published {event : OrderBookEvent} :
    Follows P books trace books
    (.published symbol generation era lastUpdateId event :: trace) where
  generation := le_rfl
  objects := le_rfl
  kept := fun _ => mem_cons_of_mem _
  publications := by
    intro symbol'
    show _ ≤ if symbol = symbol' then _ else _
    split
    · exact Nat.le_succ _
    · exact le_rfl
  recent := by
    intro symbol' hsame earlier hearlier
    rw [Trace.publications] at hsame
    rw [Trace.recent] at hearlier
    by_cases hsymbol : symbol = symbol'
    · rw [if_pos hsymbol] at hsame
      omega
    · rw [if_neg hsymbol] at hearlier
      exact hearlier
  installed := fun _ _ installed' h _ => ⟨installed', h, rfl, rfl, fun h => ⟨h, fun _ => le_rfl⟩⟩

end Sound

/-! ## Steps -/

section Steps

variable {P : Prop} {controller : Controller} {cfg : RecoverySettings} {acting : Option ℕ}
  {w w' : BookSystem}

/-- A step keeps the invariant when it keeps the books sound and the rest relies on what it left.
-/
theorem BooksOrdered.follows (h : BooksOrdered P controller acting w)
    (hbooks : BooksSound P w'.books w'.trace)
    (hfollows : Follows P w.books w.trace w'.books w'.trace)
    (howns : ∀ token recovery, w.recoveries.get? token = some recovery → some token ≠ acting →
      w'.books.ownsRecovery recovery.symbol recovery.generation token = true →
      w.books.ownsRecovery recovery.symbol recovery.generation token = true ∧
        (P → w.books.buffering recovery.symbol = true →
          w'.books.buffering recovery.symbol = true))
    (hrecoveries : ∀ token recovery, w'.recoveries.get? token = some recovery →
      some token ≠ acting → w.recoveries.get? token = some recovery ∨
        RecoverySound P controller w'.books w'.trace token recovery)
    (hpublications : ∀ publication ∈ w'.publications, publication ∈ w.publications ∨
      PublicationSound P w'.books w'.trace publication) :
    BooksOrdered P controller acting w' := by
  refine ⟨hbooks, fun token recovery hget hne => ?_, fun publication hmem => ?_⟩
  · rcases hrecoveries token recovery hget hne with hbefore | hsound
    · exact (h.recoveries _ _ hbefore hne).follows hfollows (howns _ _ hbefore hne)
    · exact hsound
  · rcases hpublications publication hmem with hbefore | hsound
    · exact (h.publications _ hbefore).follows hfollows
    · exact hsound

variable {books : Books} {token : ℕ} {recovery : BookRecovery} {symbol : String}
  {installed : InstalledBook} {book : LocalOrderBook} {buffered : List BookMessage}
  {snapshot : Option DepthSnapshot} {input : BookSystem.WorkerInput}

/-- The same for a step that touches only the books and what happened. -/
theorem BooksOrdered.of_books (h : BooksOrdered P controller acting w)
    {trace : Trace} (hbooks : BooksSound P books trace)
    (hfollows : Follows P w.books w.trace books trace)
    (howns : ∀ token recovery, w.recoveries.get? token = some recovery → some token ≠ acting →
      books.ownsRecovery recovery.symbol recovery.generation token = true →
      w.books.ownsRecovery recovery.symbol recovery.generation token = true ∧
        (P → w.books.buffering recovery.symbol = true →
          books.buffering recovery.symbol = true)) :
    BooksOrdered P controller acting { w with books, trace } :=
  h.follows hbooks hfollows howns (fun _ _ hget _ => .inl hget) fun _ hmem => .inl hmem

theorem BooksOrdered.but (h : BooksOrdered P controller none w) (token : ℕ) :
    BooksOrdered P controller (some token) w :=
  ⟨h.books, fun _ _ hget _ => h.recoveries _ _ hget nofun, h.publications⟩

theorem BooksOrdered.setStage {stage : RecoveryStage}
    (h : BooksOrdered P controller (some token) w)
    (hsound : RecoverySound P controller w.books w.trace token { recovery with stage }) :
    BooksOrdered P controller none (w.setStage token recovery stage) := by
  refine ⟨h.books, fun token' recovery' hget _ => ?_, h.publications⟩
  simp only [BookSystem.setStage, Dict.get?_set] at hget
  split at hget
  next hsame =>
    cases hget
    rw [hsame]
    exact hsound
  next hne => exact h.recoveries _ _ hget fun heq => hne (Option.some.inj heq)

theorem BooksOrdered.invalidated (h : BooksOrdered P controller acting w) :
    BooksOrdered P controller acting w.invalidate := by
  refine h.of_books (h.books.advanced h.books.objects) (follows_advanced le_rfl) ?_
  intro token recovery _ _ howns
  rw [show w.books.invalidate.ownsRecovery _ _ _ = false from not_ownsRecovery_invalidate]
    at howns
  cases howns

theorem BooksOrdered.reset (h : BooksOrdered P controller acting w) (symbols : List String) :
    BooksOrdered P controller acting { w with
      books := w.books.reset controller symbols
      trace := .advanced (w.books.generation + 1) :: w.trace } := by
  obtain ⟨orderbooks, buffers, objects, heq, hle, hlt⟩ :=
    @reset_eq controller _ symbols h.books.objects
  rw [heq]
  refine h.of_books (h.books.advanced hlt) (follows_advanced hle) ?_
  intro token recovery _ _ howns
  have hnot : ({ w.books.invalidate with orderbooks, buffers, objects } : Books).ownsRecovery
      recovery.symbol recovery.generation token = false := not_ownsRecovery_invalidate
  rw [hnot] at howns
  cases howns

/-- The token of a new recovery is its own. -/
theorem BooksOrdered.began (h : BooksOrdered P controller none w) (symbol freezeReason : String)
    (expected : Option ℕ) :
    BooksOrdered P controller none (w.beginRecovery symbol freezeReason expected) := by
  unfold BookSystem.beginRecovery
  rcases hbegins : w.books.beginRecovery symbol freezeReason expected with ⟨books, _ | token⟩
  · exact h
  have hsound : ∀ token' recovery, w.recoveries.get? token' = some recovery → token' ≠ token →
      RecoverySound P controller books (.began symbol token :: w.trace) token' recovery := by
    intro token' recovery hget hne
    refine (h.recoveries _ _ hget nofun).follows (follows_began hbegins) fun howns => ?_
    obtain ⟨howned, hwaits⟩ := owns_of_began hbegins hne howns
    exact ⟨howned, fun _ => hwaits⟩
  refine ⟨h.books.began hbegins, fun token' recovery hget _ => ?_, fun publication hmem =>
    (h.publications _ hmem).follows (follows_began hbegins)⟩
  dsimp only at hget
  rw [Dict.get?_set] at hget
  split at hget
  next hsame =>
    cases hget
    intro _ _
    obtain ⟨-, rfl⟩ := beginRecovery_eq_some hbegins
    simp [Books.buffering]
  next hne => exact hsound _ _ hget hne

/-- A book is published of the recovery that began last. -/
theorem BooksOrdered.published {era : Option ℕ} {lastUpdateId : ℕ}
    {event : Option OrderBookEvent} (h : BooksOrdered P controller acting w)
    (hera : era = Trace.era symbol w.trace) (hlive : w.books.buffering symbol = false)
    (hnewer : P → ∀ earlier ∈ Trace.recent symbol w.trace, earlier ≤ lastUpdateId)
    (hbehind : P → ∀ installed, w.books.orderbooks.get? symbol = some installed →
      lastUpdateId ≤ installed.book.lastUpdateId) :
    BooksOrdered P controller acting (w.publishBook symbol era lastUpdateId event) := by
  unfold BookSystem.publishBook
  split
  · exact h
  · exact h.of_books (h.books.published hera hlive hnewer hbehind) follows_published
      fun _ _ _ _ howns => ⟨howns, fun _ => id⟩

theorem BooksOrdered.silent {occurrence : Occurrence} (h : BooksOrdered P controller acting w)
    (hsilent : Silent occurrence w.trace) :
    BooksOrdered P controller acting { w with trace := occurrence :: w.trace } :=
  h.of_books (h.books.silent hsilent) (follows_silent hsilent) fun _ _ _ _ howns =>
    ⟨howns, fun _ => id⟩

/-- A book is changed by an update. -/
theorem BooksOrdered.stored (h : BooksOrdered P controller acting w)
    (hinstalled : w.books.orderbooks.get? symbol = some installed)
    (hle : P → w.books.buffering symbol = false →
      installed.book.lastUpdateId ≤ book.lastUpdateId) :
    BooksOrdered P controller acting { w with books := w.books.store symbol installed book } :=
  h.of_books (h.books.stored hinstalled hle) (follows_stored hinstalled hle) fun _ _ _ _ howns =>
    ⟨howns, fun _ => id⟩

/-- An update waits for the snapshot. -/
theorem BooksOrdered.waits
    (h : BooksOrdered P controller acting w) (hwaits : w.books.buffering symbol = true) :
    BooksOrdered P controller acting
      { w with books := w.books.rebuffer symbol (some buffered) } := by
  refine h.of_books (h.books.rebuffered fun _ => hwaits) (follows_rebuffered fun hlive => ?_) ?_
  · rw [hwaits] at hlive
    cases hlive
  refine fun _ recovery _ _ howns => ⟨howns, fun _ hbuffering => ?_⟩
  rw [buffering_rebuffer]
  split
  · rfl
  · exact hbuffering

/-! ### Updates -/

theorem buffering_of_none
    (hbuffer : books.buffers.get? symbol = some none) : books.buffering symbol = false := by
  unfold Books.buffering
  rw [hbuffer]

theorem buffering_of_some (hbuffer : books.buffers.get? symbol = some (some buffered)) :
    books.buffering symbol = true := by
  unfold Books.buffering
  rw [hbuffer]

theorem get?_store :
    (books.store symbol installed book).orderbooks.get? symbol = some { installed with book } :=
  Dict.get?_set_self _ _ _

/-- A book that was computed just now. -/
theorem publicationSound_computed {token : Option ℕ} {event : OrderBookEvent}
    (hbooks : BooksSound P books w.trace) (hgeneration : books.generation = w.books.generation)
    (hstored : books.orderbooks.get? symbol = some { installed with book })
    (hlive : books.buffering symbol = false)
    (hera : token.or (w.trace.era symbol) = w.trace.era symbol)
    (hnewer : P → ∀ earlier ∈ Trace.recent symbol w.trace, earlier ≤ book.lastUpdateId) :
    PublicationSound P books w.trace (w.publication symbol installed book token event) where
  generation := hgeneration.ge
  object := hbooks.objects symbol { installed with book } hstored
  mark := le_rfl
  recent := fun hP _ => hnewer hP
  installed := by
    intro _ installed' hinstalled' _
    rw [show (w.publication symbol installed book token event).symbol = symbol from rfl,
      hstored] at hinstalled'
    cases hinstalled'
    exact ⟨hera, hlive, fun _ => le_rfl⟩

theorem BooksOrdered.deltaLive (h : BooksOrdered P controller none w) (symbol : String)
    (message : BookMessage) (expected : Option ℕ) (clock : ClockReading) :
    BooksOrdered P controller none
      (w.processDeltaLive cfg symbol message expected clock) := by
  unfold BookSystem.processDeltaLive
  dsimp only
  split
  · exact h
  split
  next buffered _ hbuffer _ =>
    split
    · exact h.began _ _ _
    · split
      · exact h.began _ _ _
      · exact h.waits (buffering_of_some hbuffer)
  next installed hbuffer hinstalled =>
    have hle := le_processDelta cfg.book installed.book message.delta message.receipt
    have hlive := buffering_of_none hbuffer
    split
    next book fault hprocess =>
      rw [hprocess] at hle
      exact (h.stored hinstalled fun _ _ => hle).began _ _ _
    next book hprocess =>
      rw [hprocess] at hle
      refine (h.stored hinstalled fun _ _ => hle).published rfl hlive ?_ ?_
      · exact fun hP earlier hearlier =>
          (h.books.behind hP _ _ hinstalled hlive _ hearlier).trans hle
      intro _ installed' hinstalled'
      rw [get?_store] at hinstalled'
      cases hinstalled'
      exact le_rfl
  · exact h.began _ _ _

theorem BooksOrdered.deltaPaper (h : BooksOrdered P controller none w) (symbol : String)
    (message : BookMessage) (expected : Option ℕ) (clock : ClockReading) :
    BooksOrdered P controller none
      (w.processDeltaPaper cfg symbol message expected clock) := by
  unfold BookSystem.processDeltaPaper
  split
  · exact h
  split
  · exact h
  next buffered _ hbuffer _ =>
    split
    · exact h
    · split
      · exact h
      · exact h.waits (buffering_of_some hbuffer)
  next buffer installed hinstalled hnotBuffering =>
    have hle := le_processDelta cfg.book installed.book message.delta message.receipt
    have hlive : w.books.buffering symbol = false := by
      unfold Books.buffering
      split
      next buffered hbuffer => exact (hnotBuffering buffered hbuffer).elim
      next => rfl
    split
    next book fault hprocess =>
      rw [hprocess] at hle
      exact (h.stored hinstalled fun _ _ => hle).began _ _ _
    next book hprocess =>
      rw [hprocess] at hle
      have hstored := h.stored hinstalled fun _ _ => hle
      refine ⟨hstored.books, hstored.recoveries, fun publication hmem => ?_⟩
      rcases mem_append.mp hmem with hmem | hmem
      · exact hstored.publications _ hmem
      obtain ⟨event, -, rfl⟩ := Option.map_eq_some_iff.mp (Option.mem_toList.mp hmem)
      refine publicationSound_computed hstored.books rfl get?_store hlive rfl ?_
      exact fun hP earlier hearlier =>
        (h.books.behind hP _ _ hinstalled hlive _ hearlier).trans hle

/-! ### The resync -/

/-- No other recovery owns the symbol. -/
def Alone (w : BookSystem) (acting : Option ℕ) (symbol : String) : Prop :=
  ∀ token recovery, w.recoveries.get? token = some recovery → some token ≠ acting →
    recovery.symbol = symbol →
    w.books.ownsRecovery recovery.symbol recovery.generation token = false

/-- The snapshot has come. -/
theorem BooksOrdered.synced (h : BooksOrdered P controller acting w)
    (hwaits : P → w.books.buffering symbol = true) (halone : P → Alone w acting symbol) :
    BooksOrdered P controller acting { w with books := w.books.rebuffer symbol none } := by
  refine h.of_books (h.books.rebuffered hwaits) (follows_rebuffered fun _ => rfl) ?_
  intro token recovery hget hne howns
  refine ⟨howns, fun hP hbuffering => ?_⟩
  rw [buffering_rebuffer]
  split
  next hsame =>
    have hnot := halone hP token recovery hget hne hsame
    rw [show w.books.ownsRecovery recovery.symbol recovery.generation token = true from howns]
      at hnot
    cases hnot
  next => exact hbuffering

/-- What is left of a resync besides the books. -/
def ResyncResult.Sound (P : Prop) (controller : Controller) (w w' : BookSystem) :
    ResyncResult → Prop
  | .refused | .failed => ∀ symbol,
      (∀ generation token, w'.books.ownsRecovery symbol generation token =
        w.books.ownsRecovery symbol generation token) ∧
      w'.books.buffering symbol = w.books.buffering symbol
  | .done => True
  | .computed publication =>
    controller = .paper ∧ PublicationSound P w'.books w'.trace publication

theorem buffered_eq_error {result : ResyncResult}
    (h : w.buffered controller symbol = .error result) :
    result = .refused ∨ result = .failed := by
  unfold BookSystem.buffered at h
  split at h
  · cases h
  · cases h
  · cases h
    exact .inl rfl
  · cases h
    exact .inr rfl

/-- The live controller replays only what waits. -/
theorem buffering_of_buffered
    (h : w.buffered .live symbol = .ok buffered) : w.books.buffering symbol = true := by
  rcases hbuffer : w.books.buffers.get? symbol with _ | _ | waiting
  · simp only [BookSystem.buffered, hbuffer] at h
    cases h
  · simp only [BookSystem.buffered, hbuffer] at h
    cases h
  · exact buffering_of_some hbuffer

theorem resyncBook_sound {expected token : Option ℕ} {clock : ClockReading}
    {result : ResyncResult}
    (h : BooksOrdered P controller acting w)
    (hwaits : P → controller = .paper → snapshot.isSome = true →
      w.books.generationMatches expected = true →
      token.all (w.books.ownsRecovery symbol w.books.generation ·) = true →
      w.books.buffering symbol = true)
    (halone : P → snapshot.isSome = true → w.books.generationMatches expected = true →
      token.all (w.books.ownsRecovery symbol w.books.generation ·) = true →
      w.books.buffering symbol = true → Alone w acting symbol)
    (hresync : w.resyncBook controller cfg symbol expected token snapshot clock = (w', result)) :
    BooksOrdered P controller acting w' ∧ w'.recoveries = w.recoveries ∧
      result.Sound P controller w w' := by
  have hsame : BooksOrdered P controller acting w ∧ w.recoveries = w.recoveries ∧
      ResyncResult.Sound P controller w w .refused :=
    ⟨h, rfl, fun _ => ⟨fun _ _ => rfl, rfl⟩⟩
  unfold BookSystem.resyncBook at hresync
  split at hresync
  · cases hresync
    exact hsame
  next snapshot =>
    split at hresync
    · cases hresync
      exact hsame
    next hmatches =>
      split at hresync
      · cases hresync
        exact hsame
      next howns =>
        have hmatches : w.books.generationMatches expected = true := by simpa using hmatches
        have howns : token.all (w.books.ownsRecovery symbol w.books.generation ·) = true := by
          simpa using howns
        split at hresync
        · cases hresync
          exact hsame
        next installed error _ herror =>
          cases hresync
          rcases buffered_eq_error herror with rfl | rfl
          · exact hsame
          · exact hsame
        next installed buffered hinstalled hbuffered =>
          have hwaiting : P → w.books.buffering symbol = true := by
            intro hP
            cases controller with
            | live => exact buffering_of_buffered hbuffered
            | paper => exact hwaits hP rfl rfl hmatches howns
          have hstored : ∀ book, BooksOrdered P controller acting
              { w with books := w.books.store symbol installed book } := by
            refine fun book => h.stored hinstalled fun hP hlive => ?_
            rw [hwaiting hP] at hlive
            cases hlive
          split at hresync
          next book fault hsync =>
            cases hresync
            exact ⟨hstored book, rfl, fun _ => ⟨fun _ _ => rfl, rfl⟩⟩
          next book hsync =>
            have hsynced := (hstored book).synced hwaiting fun hP =>
              halone hP rfl hmatches howns (hwaiting hP)
            have hlive : ((w.books.store symbol installed book).rebuffer symbol none).buffering
                symbol = false := by
              rw [buffering_rebuffer, if_pos rfl]
              rfl
            have hera : token.or (w.trace.era symbol) = w.trace.era symbol := by
              cases token with
              | none => rfl
              | some token =>
                rw [Option.all_some] at howns
                exact (h.books.era_eq howns).symm
            have hnewer : P → ∀ earlier ∈ Trace.recent symbol w.trace,
                earlier ≤ book.lastUpdateId := by
              intro hP earlier hearlier
              rw [h.books.waiting hP _ (hwaiting hP)] at hearlier
              cases hearlier
            dsimp only at hresync
            split at hresync
            · cases hresync
              refine ⟨hsynced.published hera hlive hnewer ?_, ?_, trivial⟩
              · intro _ installed' hinstalled'
                rw [show ((w.books.store symbol installed book).rebuffer symbol
                  none).orderbooks.get? symbol = some { installed with book } from get?_store]
                  at hinstalled'
                cases hinstalled'
                exact le_rfl
              · unfold BookSystem.publishBook
                split
                · rfl
                · rfl
            · cases hresync
              exact ⟨hsynced, rfl, trivial⟩
            next event hevent =>
              cases hresync
              exact ⟨hsynced, rfl, rfl,
                publicationSound_computed hsynced.books rfl get?_store hlive hera hnewer⟩

/-- The resync by the transport. -/
theorem BooksOrdered.sync (h : BooksOrdered P controller none w)
    {expected : Option ℕ} {clock : ClockReading}
    (hspared : P → BookStep.Spared controller w (.sync symbol expected snapshot clock)) :
    BooksOrdered P controller none (w.sync controller cfg symbol expected snapshot clock) := by
  unfold BookSystem.sync
  rcases hresync : w.resyncBook controller cfg symbol expected none snapshot clock with
    ⟨w', result⟩
  obtain ⟨hordered, -, hsound⟩ := resyncBook_sound h
    (fun hP hpaper hsome hmatches _ => by
      obtain ⟨snapshot, rfl⟩ := Option.isSome_iff_exists.mp hsome
      exact (hspared hP hmatches).1 hpaper)
    (fun hP hsome hmatches _ hwaits => by
      obtain ⟨snapshot, rfl⟩ := Option.isSome_iff_exists.mp hsome
      intro token recovery hget _ hsame
      exact (hspared hP hmatches).2 hwaits (token, recovery) (Dict.get?_eq_some_iff.mp hget)
        hsame)
    hresync
  cases result with
  | computed publication =>
    refine ⟨hordered.books, hordered.recoveries, fun publication' hmem => ?_⟩
    rcases mem_append.mp hmem with hmem | hmem
    · exact hordered.publications _ hmem
    · rw [mem_singleton.mp hmem]
      exact hsound.2
  | refused | failed | done => exact hordered

/-! ### The second section -/

theorem publishUpdate_sound {publication : Publication} {queue : QueueReply} {published : Bool}
    (h : BooksOrdered P controller acting w)
    (hsound : PublicationSound P w.books w.trace publication)
    (hspared : P → queue = .accepted → w.accepts publication = true →
      Trace.publications publication.symbol w.trace = publication.mark)
    (hpublishes : w.publishUpdate publication queue = (w', published)) :
    BooksOrdered P controller acting w' := by
  unfold BookSystem.publishUpdate at hpublishes
  split at hpublishes
  · cases hpublishes
    exact h
  next haccepts =>
    have haccepts : w.accepts publication = true := by simpa using haccepts
    split at hpublishes
    · cases hpublishes
      have hchecked := haccepts
      simp only [BookSystem.accepts, decide_eq_true_eq, Option.map_eq_some_iff] at hchecked
      obtain ⟨hgeneration, ⟨installed, hinstalled, hobject⟩, -⟩ := hchecked
      obtain ⟨hera, hlive, hnewer⟩ := hsound.installed hgeneration installed hinstalled hobject
      refine h.published hera hlive (fun hP => hsound.recent hP (hspared hP rfl haccepts)) ?_
      intro hP installed' hinstalled'
      rw [hinstalled] at hinstalled'
      cases hinstalled'
      exact hnewer hP
    · cases hpublishes
      exact h
    next closing =>
      cases hpublishes
      cases closing with
      | true => exact h
      | false => exact h.invalidated

/-! ### A recovery -/

theorem BooksOrdered.released {generation : ℕ}
    {completed : Bool} (h : BooksOrdered P controller acting w)
    (hreleases : w.books.releaseRecovery symbol generation token = (books, completed)) :
    BooksOrdered P controller acting { w with books } :=
  h.of_books (h.books.released hreleases) (follows_released hreleases) fun _ _ _ _ howns =>
    ⟨(owns_of_released hreleases howns).1, fun _ => (owns_of_released hreleases howns).2⟩

theorem BooksOrdered.erased (h : BooksOrdered P controller (some token) w) :
    BooksOrdered P controller none { w with recoveries := w.recoveries.erase token } := by
  refine ⟨h.books, fun token' recovery hget _ => ?_, h.publications⟩
  dsimp only at hget
  rw [Dict.get?_erase] at hget
  split at hget
  · cases hget
  next hne => exact h.recoveries _ _ hget fun heq => hne (Option.some.inj heq)

theorem BooksOrdered.launched {starts : Bool}
    (h : BooksOrdered P controller none w) (hget : w.recoveries.get? token = some recovery)
    (hbegun : recovery.stage = .begun) :
    BooksOrdered P controller none (w.launch token recovery starts) := by
  have hfrozen : ∀ w' : BookSystem, BooksOrdered P controller none w' →
      BooksOrdered P controller none
        (if recovery.freezeReason.isEmpty then w'
          else w'.freeze recovery.symbol recovery.freezeReason token) := by
    intro w' hordered
    split
    · exact hordered
    · exact hordered.silent silent_froze
  have hended := (h.but token).erased
  unfold BookSystem.launch
  dsimp only
  split
  · exact hended
  split
  · refine hfrozen _ ((h.but token).setStage ?_)
    have hsound := h.recoveries _ _ hget nofun
    unfold RecoverySound at hsound
    rw [hbegun] at hsound
    exact hsound
  · exact hfrozen _ hended

/-- An attempt of a recovery. -/
theorem BooksOrdered.attempted {attempt : ℕ} (h : BooksOrdered P controller none w)
    (hget : w.recoveries.get? token = some recovery)
    (hstage : recovery.stage = .attempting attempt) :
    BooksOrdered P controller none (w.advance controller cfg token recovery input) := by
  have hwaits : P → w.books.ownsRecovery recovery.symbol recovery.generation token = true →
      w.books.buffering recovery.symbol = true := by
    have hsound := h.recoveries _ _ hget nofun
    unfold RecoverySound at hsound
    rw [hstage] at hsound
    exact hsound
  unfold BookSystem.advance
  rw [hstage]
  dsimp only
  split
  · exact (h.but token).setStage trivial
  rcases hresync : w.resyncBook controller cfg recovery.symbol (some recovery.generation)
    (some token) input.snapshot input.clock with ⟨w', result⟩
  have hsame : w.books.generationMatches (some recovery.generation) = true →
      w.books.generation = recovery.generation := by simp [Books.generationMatches]
  obtain ⟨hordered, hrecoveries, hsound⟩ := resyncBook_sound (h.but token)
    (fun hP _ _ hmatches howns => by
      rw [Option.all_some, hsame hmatches] at howns
      exact hwaits hP howns)
    (fun _ _ _ howns _ => by
      intro token' recovery' _ hne hsymbol
      rw [Bool.eq_false_iff]
      intro howns'
      -- the owner of a symbol has one token
      have howner := (ownsRecovery_iff.mp (Option.all_some.symm.trans howns)).2.2.2
      have hother := (ownsRecovery_iff.mp howns').2.2.2
      rw [hsymbol, howner] at hother
      exact hne hother.symm)
    hresync
  have hkept : ∀ result, ResyncResult.Sound P controller w w' result →
      (result = .refused ∨ result = .failed) → P →
      w'.books.ownsRecovery recovery.symbol recovery.generation token = true →
      w'.books.buffering recovery.symbol = true := by
    rintro _ hsound (rfl | rfl) hP howns
    · rw [(hsound _).1] at howns
      rw [(hsound _).2]
      exact hwaits hP howns
    · rw [(hsound _).1] at howns
      rw [(hsound _).2]
      exact hwaits hP howns
  cases result with
  | refused => exact hordered.setStage fun _ => hkept .refused hsound (.inl rfl)
  | failed =>
    refine hordered.setStage ?_
    cases controller with
    | live => exact fun _ => hkept .failed hsound (.inr rfl)
    | paper => exact nofun
  | done => exact (hordered.silent silent_resynced).setStage mem_cons_self
  | computed publication => exact hordered.setStage hsound

/-- **A recovery keeps the order.** -/
theorem BooksOrdered.advanced (h : BooksOrdered P controller none w)
    (hget : w.recoveries.get? token = some recovery)
    (hspared : P → BookStep.Spared controller w (.advance token input)) :
    BooksOrdered P controller none (w.advance controller cfg token recovery input) := by
  have hsound := h.recoveries _ _ hget nofun
  unfold RecoverySound at hsound
  cases hstage : recovery.stage with
  | begun =>
    unfold BookSystem.advance
    rw [hstage]
    exact h
  | attempting attempt => exact h.attempted hget hstage
  | reporting attempt =>
    rw [hstage] at hsound
    unfold BookSystem.advance
    rw [hstage]
    dsimp only
    have hfailed : BooksOrdered P controller none
        (w.setStage token recovery (.failed attempt)) := (h.but token).setStage hsound
    split
    · exact hfailed.silent silent_froze
    · exact hfailed
  | publishing publication =>
    rw [hstage] at hsound
    unfold BookSystem.advance
    rw [hstage]
    dsimp only
    rcases hpublishes : w.publishUpdate publication input.queue with ⟨w', published⟩
    have hordered := publishUpdate_sound (h.but token) hsound.2
      (fun hP hqueue => by
        have := hspared hP
        unfold BookStep.Spared at this
        dsimp only at this
        rw [hget, hqueue] at this
        obtain ⟨symbol, generation, freezeReason, stage⟩ := recovery
        cases hstage
        exact this) hpublishes
    cases published with
    | true => exact (hordered.silent silent_resynced).setStage mem_cons_self
    | false =>
      refine hordered.setStage fun hlive => ?_
      rw [hsound.1] at hlive
      cases hlive
  | failed attempt =>
    rw [hstage] at hsound
    unfold BookSystem.advance
    rw [hstage]
    dsimp only
    split
    · exact (h.but token).setStage trivial
    next howns =>
      have howns : w.books.ownsRecovery recovery.symbol recovery.generation token = true := by
        simpa using howns
      cases controller with
      | live =>
        dsimp only
        split
        · exact (h.but token).setStage trivial
        have hwaits : P → w.books.buffering recovery.symbol = true :=
          fun hP => hsound rfl hP howns
        have hrenewed := (h.but token).of_books (h.books.renewed hwaits) follows_renewed
          fun token' recovery' _ _ howns' => ⟨howns', fun _ hbuffering => by
            rw [buffering_renew, hbuffering, Bool.or_true]⟩
        refine hrenewed.setStage fun _ _ => ?_
        rw [buffering_renew, decide_eq_true rfl, Bool.true_or]
      | paper =>
        dsimp only
        split
        · exact (h.but token).setStage trivial
        · exact (h.but token).invalidated.setStage trivial
  | synced =>
    rw [hstage] at hsound
    unfold BookSystem.advance
    rw [hstage]
    dsimp only
    rcases hreleases : w.books.releaseRecovery recovery.symbol recovery.generation token with
      ⟨books, _ | _⟩
    · exact (h.but token).setStage trivial
    have howns : w.books.ownsRecovery recovery.symbol recovery.generation token = true := by
      unfold Books.releaseRecovery at hreleases
      split at hreleases
      · cases hreleases
      next howns => simpa using howns
    exact (((h.but token).released hreleases).silent
      (silent_cleared (h.books.era_eq howns) hsound)).setStage trivial
  | releasing =>
    unfold BookSystem.advance
    rw [hstage]
    exact ((h.but token).released rfl).erased

/-- **The step lemma.** -/
theorem BooksOrdered.step {s : BookStep} (h : BooksOrdered P controller none w)
    (hspared : P → s.Spared controller w) (hstep : bookStep controller cfg w s = some w') :
    BooksOrdered P controller none w' := by
  cases s with
  | delta symbol message expected clock =>
    cases hstep
    cases controller with
    | live => exact h.deltaLive symbol message expected clock
    | paper => exact h.deltaPaper symbol message expected clock
  | sync symbol expected snapshot clock =>
    cases hstep
    exact h.sync hspared
  | schedule symbol freezeReason expected =>
    cases hstep
    exact h.began symbol freezeReason expected
  | launch token starts =>
    simp only [bookStep] at hstep
    split at hstep
    next recovery hget =>
      split at hstep
      next hbegun =>
        cases hstep
        exact h.launched hget hbegun
      next => cases hstep
    next => cases hstep
  | advance token input =>
    simp only [bookStep, Option.map_eq_some_iff] at hstep
    obtain ⟨recovery, hget, rfl⟩ := hstep
    exact h.advanced hget hspared
  | abandon token =>
    simp only [bookStep, Option.map_eq_some_iff] at hstep
    obtain ⟨recovery, -, rfl⟩ := hstep
    exact (h.but token).setStage trivial
  | publish index queue =>
    simp only [bookStep, Option.map_eq_some_iff] at hstep
    obtain ⟨publication, hget, rfl⟩ := hstep
    have hrest : BooksOrdered P controller none
        { w with publications := w.publications.eraseIdx index } :=
      ⟨h.books, h.recoveries, fun _ hmem => h.publications _ (mem_of_mem_eraseIdx hmem)⟩
    refine publishUpdate_sound hrest (h.publications _ (mem_of_getElem? hget)) ?_ rfl
    rintro hP rfl haccepts
    exact hspared hP publication hget haccepts
  | reset symbols =>
    cases hstep
    exact h.reset symbols
  | invalidate =>
    cases hstep
    exact h.invalidated

end Steps

/-! ## Runs -/

/-- A snapshot of one level a side. -/
def thinSnapshot (id : ℕ) : DepthSnapshot where
  bids := some [.level (some 10) (some 1)]
  asks := some [.level (some 11) (some 1)]
  lastUpdateId := some id

/-- An update of the bid that follows on one id and ends at another. -/
def bidUpdate (previous final : ℕ) : BookMessage where
  delta :=
    { firstId := some (previous + 1 : ℕ)
      finalId := some final
      previousFinalId := some previous
      bids := some [.level (some 10) (some 2)]
      asks := some [] }
  receipt := { timestamp := 43200, monotonic := 10 }

def atNoon : ClockReading where
  timestamp := 43200
  monotonic := 10

/-- The snapshot of the paper synchronizer waits for the lock while an update is published. -/
def overtaken : List BookStep :=
  [.reset ["BTCUSDT"], .sync "BTCUSDT" (some 1) (some (thinSnapshot 5)) atNoon,
    .delta "BTCUSDT" (bidUpdate 5 6) (some 1) atNoon, .publish 1 .accepted,
    .publish 0 .accepted]

end ChronosHFT.MarketData
