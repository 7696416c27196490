import ChronosHFT.Lib.Run
import ChronosHFT.Oms.GuardReplay

/-!
# The replayed guards are the live ones

A simulation between the guard state and the summary that replaying its journal gives.
For each part of the state one relation says how the summary mirrors it: the guards by
owner are equal, the pairs of strategy and symbol are kept under texts that can be split
again, a mode constraint carries its generation.  Every operation keeps the relations, and
a summary that mirrors a state is turned into that state by `_apply_rebuild_summary`.

Three operations can break the mirror, and only these (`GuardState.Careful`): freezing a
strategy or setting a mode with an empty reason, which the replay passes over while the
live state takes it, and freezing a strategy whose name holds the separator of the pairs.
Freezing a symbol or a venue replaces an empty reason by a default.
-/

namespace ChronosHFT.Oms

open List

/-! ## Guards of one name -/

theorem foldl_newerOf_isSome (entries : List GuardEntry) (entry : GuardEntry) :
    (entries.foldl newerOf (some entry)).isSome = true := by
  induction entries generalizing entry with
  | nil => rfl
  | cons next rest ih =>
    rw [foldl_cons, newerOf]
    split
    · exact ih next
    · exact ih entry

/-- A name is guarded as soon as it has an owner. -/
theorem newest_eq_none_iff {owners : GuardOwners} : newest owners = none ↔ owners = ∅ := by
  constructor
  · intro h
    rw [← Dict.isEmpty_iff]
    unfold newest Dict.values at h
    unfold Dict.isEmpty
    cases hitems : owners.items with
    | nil => rfl
    | cons p rest =>
      rw [hitems, map_cons, foldl_cons] at h
      have hsome := foldl_newerOf_isSome (rest.map Prod.snd) p.2
      rw [show some p.2 = newerOf none p.2 from rfl, h] at hsome
      cases hsome
  · rintro rfl
    rfl

/-- What holds of the guards of a name: the owner is the one the reason leads to, reasons are
not empty, epochs are positive and all different. -/
structure OwnersOk (family : GuardFamily) (owners : GuardOwners) : Prop where
  owner : ∀ owner entry, owners.get? owner = some entry → owner = guardOwner family entry.reason
  reason : ∀ owner entry, owners.get? owner = some entry → entry.reason ≠ ""
  epoch : ∀ owner entry, owners.get? owner = some entry → 0 < entry.epoch
  distinct : ∀ owner₁ entry₁ owner₂ entry₂, owners.get? owner₁ = some entry₁ →
    owners.get? owner₂ = some entry₂ → entry₁.epoch = entry₂.epoch → owner₁ = owner₂

namespace OwnersOk

variable {family : GuardFamily} {owners : GuardOwners}

theorem empty (family : GuardFamily) : OwnersOk family ∅ where
  owner := fun _ _ h => by cases h
  reason := fun _ _ h => by cases h
  epoch := fun _ _ h => by cases h
  distinct := fun _ _ _ _ h => by cases h

theorem erase (h : OwnersOk family owners) (owner : String) :
    OwnersOk family (owners.erase owner) := by
  have hsub : ∀ {owner' entry}, (owners.erase owner).get? owner' = some entry →
      owners.get? owner' = some entry := by
    intro owner' entry hget
    rw [Dict.get?_erase] at hget
    split at hget
    · cases hget
    · exact hget
  exact ⟨fun o e hget => h.owner o e (hsub hget), fun o e hget => h.reason o e (hsub hget),
    fun o e hget => h.epoch o e (hsub hget),
    fun o₁ e₁ o₂ e₂ h₁ h₂ => h.distinct o₁ e₁ o₂ e₂ (hsub h₁) (hsub h₂)⟩

/-- A guard with a new highest epoch. -/
theorem set (h : OwnersOk family owners) {reason : String} {epoch : ℤ} (hreason : reason ≠ "")
    (hpositive : 0 < epoch)
    (hnew : ∀ owner entry, owners.get? owner = some entry → entry.epoch < epoch) :
    OwnersOk family (owners.set (guardOwner family reason) ⟨reason, epoch⟩) := by
  have hcases : ∀ {owner entry},
      (owners.set (guardOwner family reason) ⟨reason, epoch⟩).get? owner = some entry →
      (owner = guardOwner family reason ∧ entry = ⟨reason, epoch⟩) ∨
        owners.get? owner = some entry := by
    intro owner entry hget
    rw [Dict.get?_set] at hget
    split at hget
    · next howner =>
      cases hget
      exact Or.inl ⟨howner, rfl⟩
    · exact Or.inr hget
  refine ⟨?_, ?_, ?_, ?_⟩
  · intro owner entry hget
    rcases hcases hget with ⟨howner, rfl⟩ | hold
    · exact howner
    · exact h.owner owner entry hold
  · intro owner entry hget
    rcases hcases hget with ⟨-, rfl⟩ | hold
    · exact hreason
    · exact h.reason owner entry hold
  · intro owner entry hget
    rcases hcases hget with ⟨-, rfl⟩ | hold
    · exact hpositive
    · exact h.epoch owner entry hold
  · intro owner₁ entry₁ owner₂ entry₂ h₁ h₂ hepoch
    rcases hcases h₁ with ⟨howner₁, rfl⟩ | hold₁
    · rcases hcases h₂ with ⟨howner₂, -⟩ | hold₂
      · rw [howner₁, howner₂]
      · exact absurd hepoch.symm (hnew owner₂ entry₂ hold₂).ne
    · rcases hcases h₂ with ⟨howner₂, rfl⟩ | hold₂
      · exact absurd hepoch (hnew owner₁ entry₁ hold₁).ne
      · exact h.distinct owner₁ entry₁ owner₂ entry₂ hold₁ hold₂ hepoch

/-- Taking the guards over changes nothing. -/
theorem restoreOwners (h : OwnersOk family owners) :
    ReplayBook.restoreOwners family owners = owners := by
  have hkept : owners.items.filterMap (fun p =>
      if p.2.reason = "" then none
      else some (orElse p.1 (guardOwner family p.2.reason),
        (⟨p.2.reason, max 1 p.2.epoch⟩ : GuardEntry))) = owners.items := by
    refine (filterMap_congr ?_).trans filterMap_some
    intro p hp
    have hget : owners.get? p.1 = some p.2 := Dict.get?_eq_some_iff.mpr hp
    have hepoch : max 1 p.2.epoch = p.2.epoch := max_eq_right (h.epoch p.1 p.2 hget)
    have howner : orElse p.1 (guardOwner family p.2.reason) = p.1 := by
      unfold orElse
      rw [← h.owner p.1 p.2 hget, ite_self]
    rw [if_neg (h.reason p.1 p.2 hget), howner, hepoch]
  unfold ReplayBook.restoreOwners
  rw [hkept, Dict.ofList_items]

/-- Erasing one owner again and again is erasing it once. -/
theorem foldl_erase_eq {owners : GuardOwners} {owner : String} :
    ∀ {found : List (String × GuardEntry)}, (∀ p ∈ found, p.1 = owner) → found ≠ [] →
      found.foldl (fun left p => left.erase p.1) owners = owners.erase owner := by
  intro found
  induction found generalizing owners with
  | nil =>
    intro _ hne
    exact absurd rfl hne
  | cons p rest ih =>
    intro hall _
    have hp : p.1 = owner := hall p mem_cons_self
    rw [foldl_cons, hp]
    by_cases hrest : rest = []
    · rw [hrest]
      rfl
    · rw [ih (fun q hq => hall q (mem_cons_of_mem _ hq)) hrest, Dict.erase_erase]

/-- The replay of a clear takes away the guard that was cleared, and no other. -/
theorem leftBy_eq (h : OwnersOk family owners) {owner : String} {entry : GuardEntry}
    (hget : owners.get? owner = some entry) :
    ReplayBook.leftBy owners owner entry.reason entry.epoch = owners.erase owner := by
  unfold ReplayBook.leftBy
  by_cases howner : owner = ""
  · rw [if_neg (not_not.mpr howner), if_pos (h.reason owner entry hget)]
    -- A guard without an owner is found by its epoch, which no other guard has.
    refine foldl_erase_eq ?_ ?_
    · intro p hp
      obtain ⟨hmem, hmatch⟩ := mem_filter.mp hp
      have hepoch := (of_decide_eq_true hmatch).2.resolve_left
        (not_le.mpr (h.epoch owner entry hget))
      exact h.distinct p.1 p.2 owner entry (Dict.get?_eq_some_iff.mpr hmem) hget hepoch
    · refine ne_nil_of_mem (a := (owner, entry)) (mem_filter.mpr ⟨?_, ?_⟩)
      · exact Dict.get?_eq_some_iff.mp hget
      · exact decide_eq_true ⟨rfl, Or.inr rfl⟩
  · rw [if_pos howner]
    simp only [hget, or_true, and_self, if_true]

end OwnersOk

/-! ## Guards of one family -/

namespace GuardBook

/-- The guards of a name by owner. -/
def ownersOf (book : GuardBook) (name : String) : GuardOwners := book.records.getD name ∅

/-- The effective reason and epoch are those of the newest guard. -/
def Effective (book : GuardBook) : Prop :=
  ∀ name, book.guards.get? name = (newest (book.ownersOf name)).map GuardEntry.reason ∧
    book.epochs.get? name = (newest (book.ownersOf name)).map GuardEntry.epoch

theorem ownersOf_putOwners (book : GuardBook) (name : String) (owners : GuardOwners)
    (name' : String) :
    (book.putOwners name owners).ownersOf name' =
      if name' = name then owners else book.ownersOf name' := by
  unfold putOwners refreshEffective ownersOf
  simp only [Dict.getD_set_self]
  cases hnewest : newest owners with
  | none =>
    rw [newest_eq_none_iff] at hnewest
    by_cases hname : name' = name
    · simp [hname, hnewest, Dict.getD]
    · simp [hname, Dict.getD, Dict.get?_erase, Dict.get?_set]
  | some entry => exact Dict.getD_set ..

theorem effective_putOwners {book : GuardBook} (h : book.Effective) (name : String)
    (owners : GuardOwners) : (book.putOwners name owners).Effective := by
  intro name'
  rw [ownersOf_putOwners]
  by_cases hname : name' = name
  · subst hname
    rw [if_pos rfl]
    unfold putOwners refreshEffective
    simp only [Dict.getD_set_self]
    cases newest owners with
    | none => exact ⟨Dict.get?_erase_self _ _, Dict.get?_erase_self _ _⟩
    | some entry => exact ⟨Dict.get?_set_self _ _ _, Dict.get?_set_self _ _ _⟩
  · rw [if_neg hname]
    have hold := h name'
    unfold putOwners refreshEffective
    simp only [Dict.getD_set_self]
    cases newest owners with
    | none =>
      simp only [Dict.get?_erase_of_ne _ hname]
      exact hold
    | some entry =>
      simp only [Dict.get?_set_of_ne _ _ hname]
      exact hold

/-- Where every reason has an owner, asking for the owners of a name changes nothing that is
read. -/
theorem ensureRecords_spec {book : GuardBook} (h : book.Effective) (family : GuardFamily)
    (name : String) :
    (book.ensureRecords family name).2 = book.ownersOf name ∧
      (book.ensureRecords family name).1.counters = book.counters ∧
      (book.ensureRecords family name).1.Effective ∧
      ∀ name', (book.ensureRecords family name).1.ownersOf name' = book.ownersOf name' := by
  unfold ensureRecords
  cases hget : book.records.get? name with
  | some owners =>
    refine ⟨?_, rfl, h, fun _ => rfl⟩
    show owners = book.records.getD name ∅
    rw [Dict.getD, hget]
    rfl
  | none =>
    have hnone : book.ownersOf name = ∅ := by
      show book.records.getD name ∅ = ∅
      rw [Dict.getD, hget]
      rfl
    have hlegacy : book.guards.getD name "" = "" := by
      have hguard := (h name).1
      rw [hnone, newest_eq_none_iff.mpr rfl] at hguard
      rw [Dict.getD, hguard]
      rfl
    have hsame : ∀ name', (book.records.set name ∅).getD name' ∅ = book.ownersOf name' := by
      intro name'
      rw [Dict.getD_set]
      split
      · next heq => rw [heq, hnone]
      · rfl
    simp only [hlegacy, ne_eq, not_true_eq_false, if_false]
    refine ⟨hnone.symm, trivial, ?_, hsame⟩
    intro name'
    have hold := h name'
    rw [← hsame name'] at hold
    exact hold

theorem le_foldl_max (values : List ℤ) (start : ℤ) :
    start ≤ values.foldl max start ∧ ∀ value ∈ values, value ≤ values.foldl max start := by
  induction values generalizing start with
  | nil => exact ⟨le_refl _, fun _ hmem => by cases hmem⟩
  | cons value rest ih =>
    obtain ⟨hstart, hrest⟩ := ih (max start value)
    refine ⟨(le_max_left _ _).trans hstart, ?_⟩
    intro other hmem
    rcases mem_cons.mp hmem with rfl | hmem
    · exact (le_max_right _ _).trans hstart
    · exact hrest other hmem

/-- The next epoch is above the counter and above every guard. -/
theorem lt_nextEpoch (book : GuardBook) (name : String) (owners : GuardOwners) :
    book.counters.getD name 0 < book.nextEpoch name owners ∧
      ∀ owner entry, owners.get? owner = some entry →
      entry.epoch < book.nextEpoch name owners := by
  obtain ⟨hcounter, hepochs⟩ :=
    le_foldl_max (owners.values.map GuardEntry.epoch) (book.counters.getD name 0)
  refine ⟨Int.lt_add_one_of_le hcounter, ?_⟩
  intro owner entry hget
  refine Int.lt_add_one_of_le (hepochs entry.epoch ?_)
  exact mem_map_of_mem (Dict.mem_values_iff.mpr ⟨owner, hget⟩)

end GuardBook

/-- **The mirror of one family.**  The summary has the same guards by owner, under names in
upper case, and its effective reasons are those of the newest guards. -/
structure BookMirror (family : GuardFamily) (kept : ReplayBook) (book : GuardBook) : Prop where
  owners : ∀ name, kept.records.getD name ∅ = book.ownersOf name
  ok : ∀ name, OwnersOk family (book.ownersOf name)
  effective : book.Effective
  counters : ∀ name, 0 ≤ book.counters.getD name 0
  names : ∀ name owners, kept.records.get? name = some owners →
    owners ≠ ∅ ∧ name ≠ "" ∧ name.toUpper = name
  guards : ∀ name reason, kept.guards.get? name = some reason → (kept.records.get? name).isSome

namespace BookMirror

variable {family : GuardFamily} {kept : ReplayBook} {book : GuardBook} {name : String}

theorem empty (family : GuardFamily) : BookMirror family {} {} where
  owners := fun _ => rfl
  ok := fun _ => OwnersOk.empty family
  effective := fun _ => ⟨rfl, rfl⟩
  counters := fun _ => le_refl 0
  names := fun _ _ h => by cases h
  guards := fun _ _ h => by cases h

/-- The replay's own epoch counters are not looked at. -/
theorem withCounters (h : BookMirror family kept book) (counters : Dict String ℤ) :
    BookMirror family { kept with counters := counters } book :=
  ⟨h.owners, h.ok, h.effective, h.counters, h.names, h.guards⟩

theorem setCounter (h : BookMirror family kept book) {epoch : ℤ} (hepoch : 0 ≤ epoch)
    (name : String) :
    BookMirror family kept { book with counters := book.counters.set name epoch } where
  owners := h.owners
  ok := h.ok
  effective := h.effective
  counters := by
    intro name'
    rw [Dict.getD_set]
    split
    · exact hepoch
    · exact h.counters name'
  names := h.names
  guards := h.guards

theorem ensureRecords (h : BookMirror family kept book) (name : String) :
    BookMirror family kept (book.ensureRecords family name).1 := by
  obtain ⟨-, hcounters, heffective, hsame⟩ :=
    GuardBook.ensureRecords_spec h.effective family name
  refine ⟨?_, ?_, heffective, ?_, h.names, h.guards⟩
  · intro name'
    rw [hsame]
    exact h.owners name'
  · intro name'
    rw [hsame]
    exact h.ok name'
  · intro name'
    rw [hcounters]
    exact h.counters name'

variable {owners : GuardOwners}

/-- Storing the guards of a name on both sides. -/
theorem putOwners (h : BookMirror family kept book) (hname : name ≠ "")
    (hupper : name.toUpper = name) (hok : OwnersOk family owners) :
    BookMirror family (kept.putOwners name owners) (book.putOwners name owners) := by
  have hcounters : (book.putOwners name owners).counters = book.counters := by
    unfold GuardBook.putOwners GuardBook.refreshEffective
    split <;> rfl
  have hkept : ∀ name', (kept.putOwners name owners).records.getD name' ∅ =
      if name' = name then owners else kept.records.getD name' ∅ := by
    intro name'
    unfold ReplayBook.putOwners
    cases hnewest : newest owners with
    | none =>
      rw [newest_eq_none_iff] at hnewest
      by_cases heq : name' = name
      · simp [heq, hnewest, Dict.getD]
      · simp [heq, Dict.getD, Dict.get?_erase]
    | some entry => exact Dict.getD_set ..
  refine ⟨?_, ?_, GuardBook.effective_putOwners h.effective name owners, ?_, ?_, ?_⟩
  · intro name'
    rw [hkept, GuardBook.ownersOf_putOwners, h.owners]
  · intro name'
    rw [GuardBook.ownersOf_putOwners]
    split
    · exact hok
    · exact h.ok name'
  · intro name'
    rw [hcounters]
    exact h.counters name'
  · intro name' owners' hget
    unfold ReplayBook.putOwners at hget
    cases hnewest : newest owners with
    | none =>
      simp only [hnewest, Dict.get?_erase] at hget
      split at hget
      · cases hget
      · exact h.names name' owners' hget
    | some entry =>
      simp only [hnewest, Dict.get?_set] at hget
      split at hget
      · next heq =>
        cases hget
        subst heq
        refine ⟨?_, hname, hupper⟩
        rintro rfl
        cases hnewest
      · exact h.names name' owners' hget
  · intro name' reason hget
    unfold ReplayBook.putOwners at hget ⊢
    cases hnewest : newest owners with
    | none =>
      simp only [hnewest, Dict.get?_erase] at hget ⊢
      split at hget
      · cases hget
      · next hne =>
        rw [if_neg hne]
        exact h.guards name' reason hget
    | some entry =>
      simp only [hnewest, Dict.get?_set] at hget ⊢
      by_cases heq : name' = name
      · rw [if_pos heq]
        rfl
      · rw [if_neg heq] at hget ⊢
        exact h.guards name' reason hget

/-- The record that goes into the journal, applied to the summary. -/
def onRecord (family : GuardFamily) (kept : ReplayBook) : GuardRecord → ReplayBook
  | .frozen _ _ name reason owner epoch => kept.onFrozen family name reason owner epoch
  | .cleared _ _ name owner previousReason epoch =>
    kept.onCleared name owner previousReason epoch
  | _ => kept

/-- **Freezing** is replayed as it was done. -/
theorem install (h : BookMirror family kept book) (hname : name ≠ "")
    (hupper : name.toUpper = name) {reason : String} (hreason : reason ≠ "") :
    BookMirror family (onRecord family kept (book.install family name reason).2)
      (book.install family name reason).1 := by
  obtain ⟨howners, hcounters, -, -⟩ := GuardBook.ensureRecords_spec h.effective family name
  have hensured := h.ensureRecords name
  unfold GuardBook.install
  generalize book.ensureRecords family name = ensured at howners hcounters hensured ⊢
  obtain ⟨ensuredBook, owners⟩ := ensured
  simp only at howners hcounters hensured ⊢
  obtain ⟨habove, hnew⟩ := ensuredBook.lt_nextEpoch name owners
  generalize ensuredBook.nextEpoch name owners = epoch at habove hnew ⊢
  have hpositive : 0 < epoch := (hensured.counters name).trans_lt habove
  have hok : OwnersOk family owners := howners ▸ h.ok name
  have hkept : kept.records.getD name ∅ = owners := (h.owners name).trans howners.symm
  have howner : orElse (guardOwner family reason) (guardOwner family reason) =
      guardOwner family reason := ite_self _
  have hexisting : ((owners.get? (guardOwner family reason)).map GuardEntry.epoch).getD 0 ≤
      epoch := by
    cases hget : owners.get? (guardOwner family reason) with
    | none => exact hpositive.le
    | some entry => exact (hnew _ entry hget).le
  unfold onRecord ReplayBook.onFrozen
  simp only [hupper, if_neg (not_or.mpr ⟨hname, hreason⟩), howner, if_neg (not_le.mpr hpositive),
    hkept, if_pos hexisting]
  exact ((hensured.setCounter hpositive.le name).withCounters _).putOwners hname hupper
    (hok.set hreason hpositive hnew)

theorem mem_of_candidates {expectedOwner : String}
    {accepts : GuardEntry → Bool} {p : String × GuardEntry}
    (h : p ∈ GuardBook.candidates owners expectedOwner accepts) :
    owners.get? p.1 = some p.2 := by
  unfold GuardBook.candidates at h
  split at h
  · split at h
    · cases h
    next entry hget =>
      split at h
      · rw [mem_singleton.mp h]
        exact hget
      · cases h
  · exact Dict.get?_eq_some_iff.mpr (mem_filter.mp h).1

/-- **Clearing** is replayed as it was done; what was ignored is ignored again. -/
theorem clear (h : BookMirror family kept book) (hupper : name.toUpper = name)
    (expectedOwner : String) (unconditional : Bool) (accepts : GuardEntry → Bool) :
    BookMirror family
      (onRecord family kept (book.clear family name expectedOwner unconditional accepts).2)
      (book.clear family name expectedOwner unconditional accepts).1 := by
  obtain ⟨howners, -, -, -⟩ := GuardBook.ensureRecords_spec h.effective family name
  have hensured := h.ensureRecords name
  unfold GuardBook.clear
  generalize book.ensureRecords family name = ensured at howners hensured ⊢
  obtain ⟨ensuredBook, owners⟩ := ensured
  simp only at howners hensured ⊢
  split
  · next owner entry hfound =>
    have hget : owners.get? owner = some entry := by
      have hmem : (owner, entry) ∈ [(owner, entry)] := mem_singleton_self _
      rw [← hfound] at hmem
      split at hmem
      · split at hmem
        · exact Dict.get?_eq_some_iff.mpr hmem
        · cases hmem
      · exact mem_of_candidates hmem
    have hok : OwnersOk family owners := howners ▸ h.ok name
    have hkept : kept.records.getD name ∅ = owners := (h.owners name).trans howners.symm
    -- A name that has a guard is a name of the summary.
    have hname : name ≠ "" := by
      cases hrecord : kept.records.get? name with
      | none =>
        rw [Dict.getD, hrecord] at hkept
        rw [← hkept] at hget
        cases hget
      | some owners' => exact (h.names name owners' hrecord).2.1
    unfold onRecord ReplayBook.onCleared
    simp only [hupper, if_neg hname, hkept, hok.leftBy_eq hget]
    exact hensured.putOwners hname hupper (hok.erase owner)
  · exact hensured

/-! ### After the restart -/

/-- Taking over one name of the summary. -/
theorem restoreName_eq (hok : OwnersOk family owners) (hne : owners ≠ ∅) (hname : name ≠ "")
    (hupper : name.toUpper = name) (book : GuardBook) (heffective : book.Effective) :
    (ReplayBook.restoreName family book (name, owners)).records = book.records.set name owners ∧
      (ReplayBook.restoreName family book (name, owners)).Effective := by
  have hempty : ¬owners.isEmpty = true := fun hempty => hne (Dict.isEmpty_iff.mp hempty)
  unfold ReplayBook.restoreName
  simp only [hupper, hok.restoreOwners, if_neg (not_or.mpr ⟨hname, hempty⟩)]
  constructor
  · unfold GuardBook.putOwners GuardBook.refreshEffective
    simp only [Dict.getD_set_self]
    cases hnewest : newest owners with
    | none => exact absurd (newest_eq_none_iff.mp hnewest) hne
    | some entry => rfl
  · apply GuardBook.effective_putOwners
    exact heffective

theorem foldl_restoreName (items : List (String × GuardOwners))
    (hitems : ∀ p ∈ items, OwnersOk family p.2 ∧ p.2 ≠ ∅ ∧ p.1 ≠ "" ∧ p.1.toUpper = p.1) :
    ∀ book : GuardBook, book.Effective →
      (items.foldl (ReplayBook.restoreName family) book).records = book.records.setAll items ∧
        (items.foldl (ReplayBook.restoreName family) book).Effective := by
  induction items with
  | nil => exact fun book heffective => ⟨rfl, heffective⟩
  | cons p rest ih =>
    intro book heffective
    obtain ⟨hok, hne, hname, hupper⟩ := hitems p mem_cons_self
    obtain ⟨hrecords, heffective'⟩ :=
      restoreName_eq hok hne hname hupper book heffective
    obtain ⟨hrest, hfinal⟩ := ih (fun q hq => hitems q (mem_cons_of_mem _ hq)) _ heffective'
    refine ⟨?_, hfinal⟩
    rw [foldl_cons, hrest, hrecords]
    rfl

/-- **The restored guards are the live ones**, by owner and in effect. -/
theorem restore (h : BookMirror family kept book) :
    (∀ name, (kept.restore family).ownersOf name = book.ownersOf name) ∧
      (kept.restore family).Effective := by
  have hitems : ∀ p ∈ kept.records.items,
      OwnersOk family p.2 ∧ p.2 ≠ ∅ ∧ p.1 ≠ "" ∧ p.1.toUpper = p.1 := by
    intro p hp
    have hget : kept.records.get? p.1 = some p.2 := Dict.get?_eq_some_iff.mpr hp
    have howners : book.ownersOf p.1 = p.2 := by
      rw [← h.owners, Dict.getD, hget]
      rfl
    obtain ⟨hne, hname, hupper⟩ := h.names p.1 p.2 hget
    exact ⟨howners ▸ h.ok p.1, hne, hname, hupper⟩
  obtain ⟨hrecords, heffective⟩ := foldl_restoreName kept.records.items hitems {}
    (fun _ => ⟨rfl, rfl⟩)
  have hkept : (kept.records.items.foldl (ReplayBook.restoreName family) {}).records =
      kept.records := hrecords.trans (Dict.ofList_items _)
  -- Every reason of the summary has an owner, so nothing is left to be taken over.
  have hlegacy : ∀ p ∈ kept.legacyGuards.items, kept.records.contains p.1 = true := by
    intro p hp
    have hkeys : p.1 ∈ kept.legacyGuards.keys := mem_map_of_mem hp
    unfold ReplayBook.legacyGuards at hkeys
    rw [Dict.mem_keys_ofList] at hkeys
    obtain ⟨item, hitem, hname⟩ := mem_map.mp hkeys
    obtain ⟨guard, hguard, hsome⟩ := mem_filterMap.mp hitem
    split at hsome
    · cases hsome
    cases hsome
    have hpresent := h.guards guard.1 guard.2 (Dict.get?_eq_some_iff.mpr hguard)
    obtain ⟨owners, howners⟩ := Option.isSome_iff_exists.mp hpresent
    rw [← hname]
    show (kept.records.get? guard.1.toUpper).isSome = true
    rw [(h.names guard.1 owners howners).2.2]
    exact hpresent
  have hskip : ∀ (items : List (String × String)),
      (∀ p ∈ items, kept.records.contains p.1 = true) →
      items.foldl (ReplayBook.restoreLegacy family)
        (kept.records.items.foldl (ReplayBook.restoreName family) {}) =
      kept.records.items.foldl (ReplayBook.restoreName family) {} := by
    intro items
    induction items with
    | nil => exact fun _ => rfl
    | cons p rest ih =>
      intro hall
      have hp : ReplayBook.restoreLegacy family
          (kept.records.items.foldl (ReplayBook.restoreName family) {}) p =
          kept.records.items.foldl (ReplayBook.restoreName family) {} := by
        unfold ReplayBook.restoreLegacy
        rw [hkept, if_pos (hall p mem_cons_self)]
      rw [foldl_cons, hp]
      exact ih fun q hq => hall q (mem_cons_of_mem _ hq)
  have hrestore : kept.restore family =
      kept.records.items.foldl (ReplayBook.restoreName family) {} := hskip _ hlegacy
  rw [hrestore]
  refine ⟨?_, heffective⟩
  intro name
  show Dict.getD _ name ∅ = _
  rw [hkept]
  exact h.owners name

end BookMirror

end ChronosHFT.Oms
