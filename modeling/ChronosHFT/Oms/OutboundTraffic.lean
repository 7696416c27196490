import ChronosHFT.Oms.OutboundBudget

/-!
# What passes the outbound message budget

`Traffic` follows a budget through its calls and keeps every message that was reserved and not
rolled back, also those the window has left behind.  The bounds of the budget are then bounds on
windows of this record (`Window.Bounded`): one for the total, one for each limited kind, and one
for the messages other than cancels, which is what makes room for a cancel.

The budget itself sees the newest of these messages only, and that is enough
(`Sound.pruned_history`): the window that ends now is what is left of its history.
-/

namespace ChronosHFT.Oms.OutboundBudget

open List

variable {ι : Type}

/-! ## What a call does -/

namespace Budget

variable {limits : Limits} {b b' : Budget ι}

theorem normalizeNow_eq_ok {now : ℚ} :
    b.normalizeNow now = .ok b' ↔
      b.lastObservedAt ≤ now ∧ b' = { b with lastObservedAt := now } := by
  unfold normalizeNow
  by_cases hback : now < b.lastObservedAt
  · rw [if_pos hback]
    exact ⟨nofun, fun h => absurd h.1 hback.not_ge⟩
  · rw [if_neg hback, Except.ok.injEq]
    exact ⟨fun h => ⟨not_lt.mp hback, h.symm⟩, fun h => h.2.symm⟩

/-- The budget as a call at `now` finds it. -/
def observedAt (limits : Limits) (b : Budget ι) (now : ℚ) : Budget ι :=
  Budget.prune limits { b with lastObservedAt := now } now

/-- Why a call at `now` is refused. -/
def rejectionAt (limits : Limits) (b : Budget ι) (kind : MessageKind) (now : ℚ) :
    Option Rejection :=
  ((b.observedAt limits now).classRejection limits kind).or
    ((b.observedAt limits now).capacityRejection limits kind)

/-- **What `reserve_token` does** of an enabled budget. -/
theorem reserveToken_of_enabled (henabled : limits.enabled = true) {messageKind : String}
    {kind : MessageKind} (hkind : MessageKind.parse messageKind = some kind) {now : ℚ}
    (hnow : b.lastObservedAt ≤ now) (uuid : ι) :
    b.reserveToken limits messageKind now uuid =
      match b.rejectionAt limits kind now with
      | some rejection => .ok (b.observedAt limits now, none, some rejection)
      | none =>
        .ok ({ b.observedAt limits now with
                history := (b.observedAt limits now).history ++ [⟨uuid, kind, now⟩] },
          some ⟨uuid, kind, now⟩, none) := by
  unfold reserveToken
  rw [if_neg (by rw [henabled]; exact nofun), hkind]
  dsimp only
  rw [normalizeNow_eq_ok.mpr ⟨hnow, rfl⟩]
  show (match b.rejectionAt limits kind now with
    | some rejection => _
    | none => _) = _
  cases b.rejectionAt limits kind now <;> rfl

/-- **What `reserve_token` answers**: nothing of a disabled budget, and otherwise a rejection or
the reservation that it adds to the pruned history. -/
theorem reserveToken_cases {messageKind : String} {now : ℚ} {uuid : ι}
    {reservation : Option (Reservation ι)} {rejection : Option Rejection}
    (h : b.reserveToken limits messageKind now uuid = .ok (b', reservation, rejection)) :
    (limits.enabled = false ∧ b' = b ∧ reservation = none ∧ rejection = none) ∨
      limits.enabled = true ∧ b.lastObservedAt ≤ now ∧
        ∃ kind, MessageKind.parse messageKind = some kind ∧
          ((b' = b.observedAt limits now ∧ reservation = none ∧
              rejection = b.rejectionAt limits kind now ∧ rejection ≠ none) ∨
            (b.rejectionAt limits kind now = none ∧ rejection = none ∧
              reservation = some ⟨uuid, kind, now⟩ ∧
              b' = { b.observedAt limits now with
                history := (b.observedAt limits now).history ++ [⟨uuid, kind, now⟩] })) := by
  cases henabled : limits.enabled with
  | false =>
    unfold reserveToken at h
    rw [if_pos henabled, Except.ok.injEq, Prod.mk.injEq, Prod.mk.injEq] at h
    exact .inl ⟨rfl, h.1.symm, h.2.1.symm, h.2.2.symm⟩
  | true =>
    refine .inr ⟨rfl, ?_⟩
    cases hkind : MessageKind.parse messageKind with
    | none =>
      unfold reserveToken at h
      rw [if_neg (by rw [henabled]; exact nofun), hkind] at h
      cases h
    | some kind =>
      by_cases hnow : b.lastObservedAt ≤ now
      · rw [reserveToken_of_enabled henabled hkind hnow] at h
        refine ⟨hnow, kind, rfl, ?_⟩
        cases hrej : b.rejectionAt limits kind now with
        | some why =>
          rw [hrej] at h
          cases h
          exact .inl ⟨rfl, rfl, rfl, nofun⟩
        | none =>
          rw [hrej] at h
          cases h
          exact .inr ⟨rfl, rfl, rfl, rfl⟩
      · unfold reserveToken normalizeNow at h
        rw [if_neg (by rw [henabled]; exact nofun), hkind, if_pos (not_le.mp hnow)] at h
        cases h

theorem snapshot_cases {now : ℚ} {report : Snapshot}
    (h : b.snapshot limits now = .ok (b', report)) :
    b.lastObservedAt ≤ now ∧ b' = b.observedAt limits now := by
  unfold snapshot at h
  cases hnormal : b.normalizeNow now with
  | error e =>
    rw [hnormal] at h
    cases h
  | ok observed =>
    obtain ⟨hnow, rfl⟩ := normalizeNow_eq_ok.mp hnormal
    rw [hnormal] at h
    cases h
    exact ⟨hnow, rfl⟩

end Budget

/-! ## Deleting a message by its identifier -/

section Delete

variable [DecidableEq ι]

theorem filter_ne_of_nodup {before after : List (Reservation ι)} {m : Reservation ι}
    (hnodup : ((before ++ m :: after).map Reservation.reservationId).Nodup) :
    (before ++ m :: after).filter (fun x => decide (x.reservationId ≠ m.reservationId)) =
      before ++ after := by
  rw [map_append, map_cons, nodup_middle, nodup_cons, ← map_append] at hnodup
  rw [filter_append, filter_cons_of_neg (by simp), ← filter_append]
  refine filter_eq_self.mpr fun x hx => ?_
  rw [decide_eq_true_eq]
  rintro heq
  exact hnodup.1 (heq ▸ mem_map_of_mem hx)

/-- Deleting the last entry with an identifier deletes the only one. -/
theorem deleteLast_eq_filter {history : List (Reservation ι)}
    (hnodup : (history.map Reservation.reservationId).Nodup) (reservationId : ι) :
    Budget.deleteLast history reservationId =
      history.filter fun m => decide (m.reservationId ≠ reservationId) := by
  unfold Budget.deleteLast
  by_cases hin : ∃ m ∈ history, m.reservationId = reservationId
  · obtain ⟨m, hm, rfl⟩ := hin
    obtain ⟨before, after, rfl⟩ := append_of_mem hm
    rw [filter_ne_of_nodup hnodup]
    rw [map_append, map_cons, nodup_middle, nodup_cons, ← map_append]
      at hnodup
    have hafter : ∀ x ∈ after.reverse, ¬ decide (x.reservationId = m.reservationId) = true := by
      intro x hx heq
      refine hnodup.1 (of_decide_eq_true heq ▸ mem_map_of_mem ?_)
      exact mem_append_right _ (mem_reverse.mp hx)
    rw [reverse_append, reverse_cons, append_assoc, eraseP_append_right _ hafter,
      singleton_append, eraseP_cons_of_pos (by simp), reverse_append,
      reverse_reverse, reverse_reverse]
  · have hnone : ∀ m ∈ history.reverse, ¬ decide (m.reservationId = reservationId) = true :=
      fun m hm heq => hin ⟨m, mem_reverse.mp hm, of_decide_eq_true heq⟩
    rw [eraseP_of_forall_not hnone, reverse_reverse, eq_comm, filter_eq_self]
    exact fun m hm => decide_eq_true fun heq => hin ⟨m, hm, heq⟩

end Delete

/-! ## Traffic -/

/-- The calls of a budget; a snapshot prunes as well. -/
inductive Call (ι : Type) where
  | reserve (messageKind : String) (now : ℚ)
  | rollback (reservation : Option (Reservation ι))
  | snapshot (now : ℚ)

/-- A budget with the messages that passed it: `retained` are those reserved and not rolled back,
oldest first, and `drawn` counts the identifiers that were drawn. -/
structure Traffic (ι : Type) where
  budget : Budget ι := {}
  retained : List (Reservation ι) := []
  drawn : ℕ := 0

namespace Traffic

/-- One call; a call that raises changes nothing. -/
def step [DecidableEq ι] (limits : Limits) (uuid4 : ℕ → ι) (t : Traffic ι) : Call ι → Traffic ι
  | .reserve messageKind now =>
    match t.budget.reserveToken limits messageKind now (uuid4 t.drawn) with
    | .ok (budget, some reservation, _) =>
      ⟨budget, t.retained ++ [reservation], t.drawn + 1⟩
    | .ok (budget, none, _) => { t with budget := budget }
    | .error _ => t
  | .rollback none => t
  | .rollback (some reservation) =>
    match t.budget.rollback limits (some reservation) with
    | (budget, true) =>
      { t with
        budget := budget
        retained := t.retained.filter fun m =>
          decide (m.reservationId ≠ reservation.reservationId) }
    | (budget, false) => { t with budget := budget }
  | .snapshot now =>
    match t.budget.snapshot limits now with
    | .ok (budget, _) => { t with budget := budget }
    | .error _ => t

/-- The calls one after the other, from a new budget. -/
def run [DecidableEq ι] (limits : Limits) (uuid4 : ℕ → ι) (calls : List (Call ι)) : Traffic ι :=
  calls.foldl (step limits uuid4) {}

/-- The retained messages of the window that ends at `now`. -/
def window (limits : Limits) (t : Traffic ι) (now : ℚ) : List (Reservation ι) :=
  Window.upTo Reservation.reservedAt limits.windowSec now t.retained

/-- The kinds a bound counts. -/
def ofKind (kind : MessageKind) (m : Reservation ι) : Bool := decide (m.messageKind = kind)

def notCancel (m : Reservation ι) : Bool := decide (m.messageKind ≠ .cancel)

/-- **The invariant.**  The history is what is left of the retained messages, their identifiers
are distinct ones that were drawn, and every window of them keeps the three bounds. -/
structure Sound (limits : Limits) (uuid4 : ℕ → ι) (t : Traffic ι) : Prop where
  chronological : Window.Chronological Reservation.reservedAt t.retained
  observed : ∀ m ∈ t.retained, m.reservedAt ≤ t.budget.lastObservedAt
  history_eq : t.budget.history = t.retained.filter fun m =>
    decide (t.budget.lastObservedAt - limits.windowSec < m.reservedAt)
  drawn : ∀ m ∈ t.retained, ∃ i < t.drawn, m.reservationId = uuid4 i
  distinct : (t.retained.map Reservation.reservationId).Nodup
  disabled : limits.enabled = false → t.retained = []
  total : Window.Bounded Reservation.reservedAt limits.windowSec (fun _ => true) limits.maxTotal
    t.retained
  kinds : ∀ kind, 0 < limits.classLimit kind →
    Window.Bounded Reservation.reservedAt limits.windowSec (ofKind kind) (limits.classLimit kind)
      t.retained
  notCancels : Window.Bounded Reservation.reservedAt limits.windowSec notCancel
    limits.reduceOrderCeiling t.retained

variable {limits : Limits} {uuid4 : ℕ → ι} {t : Traffic ι}

theorem Sound.initial : Sound limits uuid4 ({} : Traffic ι) where
  chronological := List.Pairwise.nil
  observed := nofun
  history_eq := rfl
  drawn := nofun
  distinct := nodup_nil
  disabled := fun _ => rfl
  total := Window.Bounded.nil
  kinds := fun _ _ => Window.Bounded.nil
  notCancels := Window.Bounded.nil

/-- What a call at `now` finds in the history is the window that ends at `now`. -/
theorem Sound.pruned_history (ht : Sound limits uuid4 t) {now : ℚ}
    (hnow : t.budget.lastObservedAt ≤ now) :
    (t.budget.observedAt limits now).history = t.window limits now := by
  have hlast : ∀ m ∈ t.retained, m.reservedAt ≤ now := fun m hm => (ht.observed m hm).trans hnow
  have hsorted : Window.Chronological Reservation.reservedAt t.budget.history := by
    rw [ht.history_eq]
    exact ht.chronological.filter _
  unfold window Budget.observedAt Budget.prune
  dsimp only
  rw [hsorted.dropWhile_eq_filter, Window.upTo_eq_filter hlast, ht.history_eq, filter_filter]
  refine filter_congr fun m _ => ?_
  -- what is recent enough now was recent enough at the call before
  rw [← Bool.decide_and, decide_eq_decide]
  exact ⟨fun h => h.1, fun h => ⟨h, (sub_le_sub_right hnow _).trans_lt h⟩⟩

/-- A call that only prunes. -/
theorem Sound.observedAt (ht : Sound limits uuid4 t) {now : ℚ}
    (hnow : t.budget.lastObservedAt ≤ now) :
    Sound limits uuid4 { t with budget := t.budget.observedAt limits now } where
  chronological := ht.chronological
  observed m hm := (ht.observed m hm).trans hnow
  history_eq := by
    rw [ht.pruned_history hnow]
    exact Window.upTo_eq_filter fun m hm => (ht.observed m hm).trans hnow
  drawn := ht.drawn
  distinct := ht.distinct
  disabled := ht.disabled
  total := ht.total
  kinds := ht.kinds
  notCancels := ht.notCancels

/-- What a call that is not refused knows of the window: room in the total, in the limit of its
kind, and, for anything but a cancel, below what is kept for cancels. -/
structure Room (limits : Limits) (kind : MessageKind) (window : List (Reservation ι)) :
    Prop where
  total : window.length < limits.maxTotal
  ofKind : 0 < limits.classLimit kind → window.countP (ofKind kind) < limits.classLimit kind
  notCancel : kind ≠ .cancel → window.length < limits.reduceOrderCeiling
  newOrder : kind = .newOrder → window.length < limits.openingRiskCeiling

theorem room_of_admitted (husable : limits.Usable) {b : Budget ι} {kind : MessageKind}
    (h : (b.classRejection limits kind).or (b.capacityRejection limits kind) = none) :
    Room limits kind b.history := by
  rw [Option.or_eq_none_iff] at h
  obtain ⟨hclass, hcapacity⟩ := h
  have hrisk := husable.reservedRisk_le
  have hcancel := husable.reservedCancel_le
  have hclass' : 0 < limits.classLimit kind →
      b.history.countP (Traffic.ofKind kind) < limits.classLimit kind := by
    intro hpos
    by_contra hfull
    unfold Budget.classRejection at hclass
    rw [if_pos ⟨hpos, not_lt.mp hfull⟩] at hclass
    cases hclass
  unfold Budget.capacityRejection at hcapacity
  rw [if_neg husable.maxTotal_pos.ne'] at hcapacity
  cases kind with
  | newOrder =>
    have hroom : b.history.length < limits.openingRiskCeiling :=
      lt_of_not_ge fun hfull => nomatch (if_pos hfull).symm.trans hcapacity
    unfold Limits.openingRiskCeiling at hroom
    refine ⟨by omega, hclass', fun _ => ?_, fun _ => hroom⟩
    unfold Limits.reduceOrderCeiling
    omega
  | reduceOrder =>
    have hroom : b.history.length < limits.reduceOrderCeiling :=
      lt_of_not_ge fun hfull => nomatch (if_pos hfull).symm.trans hcapacity
    refine ⟨?_, hclass', fun _ => hroom, nofun⟩
    unfold Limits.reduceOrderCeiling at hroom
    omega
  | cancel =>
    have hroom : b.history.length < limits.maxTotal :=
      lt_of_not_ge fun hfull => nomatch (if_pos hfull).symm.trans hcapacity
    exact ⟨hroom, hclass', fun h => absurd rfl h, nofun⟩

/-- A message added with room in the window that ends at it. -/
theorem Sound.reserved (ht : Sound limits uuid4 t) (huuid4 : Function.Injective uuid4)
    (henabled : limits.enabled = true) (hwindow : 0 < limits.windowSec) {now : ℚ}
    (hnow : t.budget.lastObservedAt ≤ now) {kind : MessageKind}
    (hroom : Room limits kind (t.window limits now)) :
    Sound limits uuid4
      ⟨{ t.budget.observedAt limits now with
          history := (t.budget.observedAt limits now).history ++ [⟨uuid4 t.drawn, kind, now⟩] },
        t.retained ++ [⟨uuid4 t.drawn, kind, now⟩], t.drawn + 1⟩ := by
  have hlast : ∀ m ∈ t.retained, m.reservedAt ≤ now := fun m hm => (ht.observed m hm).trans hnow
  have hhistory := (ht.observedAt hnow).history_eq
  exact {
    chronological := ht.chronological.append hlast
    observed := fun m hm => by
      obtain hm | hm := mem_append.mp hm
      · exact hlast m hm
      · rw [mem_singleton.mp hm]
        exact le_rfl
    history_eq := by
      have hself : [(⟨uuid4 t.drawn, kind, now⟩ : Reservation ι)].filter (fun m =>
          decide (now - limits.windowSec < m.reservedAt)) = [⟨uuid4 t.drawn, kind, now⟩] :=
        filter_cons_of_pos (decide_eq_true (sub_lt_self now hwindow))
      rw [filter_append]
      exact congr_arg₂ (· ++ ·) hhistory hself.symm
    drawn := fun m hm => by
      obtain hm | hm := mem_append.mp hm
      · obtain ⟨i, hi, heq⟩ := ht.drawn m hm
        exact ⟨i, hi.trans (Nat.lt_succ_self _), heq⟩
      · rw [mem_singleton.mp hm]
        exact ⟨t.drawn, Nat.lt_succ_self _, rfl⟩
    distinct := by
      rw [map_append, map_singleton, nodup_append_comm, singleton_append,
        nodup_cons]
      refine ⟨fun hmem => ?_, ht.distinct⟩
      obtain ⟨m, hm, heq⟩ := mem_map.mp hmem
      obtain ⟨i, hi, hid⟩ := ht.drawn m hm
      exact hi.ne (huuid4 (hid.symm.trans heq))
    disabled := fun h => absurd (henabled.symm.trans h) nofun
    total := ht.total.append hlast fun _ => by
      rw [countP_true]
      exact hroom.total
    kinds := fun k hk => (ht.kinds k hk).append hlast fun hkind => by
      obtain rfl : kind = k := of_decide_eq_true hkind
      exact hroom.ofKind hk
    notCancels := ht.notCancels.append hlast fun hkind =>
      countP_le_length.trans_lt (hroom.notCancel (of_decide_eq_true hkind)) }

section Run

variable [DecidableEq ι]

/-- A message taken out again. -/
theorem Sound.rolledBack (ht : Sound limits uuid4 t) (reservationId : ι) :
    Sound limits uuid4
      { t with
        budget := { t.budget with history := Budget.deleteLast t.budget.history reservationId }
        retained := t.retained.filter fun m => decide (m.reservationId ≠ reservationId) } := by
  have hsub := filter_sublist
    (p := fun m : Reservation ι => decide (m.reservationId ≠ reservationId)) (l := t.retained)
  exact {
    chronological := ht.chronological.filter _
    observed := fun m hm => ht.observed m (hsub.subset hm)
    history_eq := by
      have hdistinct : (t.budget.history.map Reservation.reservationId).Nodup := by
        rw [ht.history_eq]
        exact ht.distinct.sublist (filter_sublist.map _)
      dsimp only
      rw [deleteLast_eq_filter hdistinct, ht.history_eq, filter_filter, filter_filter]
      exact filter_congr fun m _ => Bool.and_comm _ _
    drawn := fun m hm => ht.drawn m (hsub.subset hm)
    distinct := ht.distinct.sublist (hsub.map _)
    disabled := fun h => by
      rw [ht.disabled h]
      rfl
    total := ht.total.sublist hsub
    kinds := fun kind hk => (ht.kinds kind hk).sublist hsub
    notCancels := ht.notCancels.sublist hsub }

/-- **The step.**  Every call keeps the invariant. -/
theorem Sound.step {limits : ValidLimits} (ht : Sound limits.toLimits uuid4 t)
    (huuid4 : Function.Injective uuid4) (call : Call ι) :
    Sound limits.toLimits uuid4 (t.step limits.toLimits uuid4 call) := by
  cases call with
  | reserve messageKind now =>
    unfold Traffic.step
    dsimp only
    cases hres : t.budget.reserveToken limits.toLimits messageKind now (uuid4 t.drawn) with
    | error e => exact ht
    | ok answer =>
      obtain ⟨b, reservation, rejection⟩ := answer
      obtain ⟨-, rfl, rfl, -⟩ | ⟨henabled, hnow, kind, -, hkind⟩ :=
        Budget.reserveToken_cases hres
      · exact ht
      obtain ⟨rfl, rfl, -, -⟩ | ⟨hadmitted, -, rfl, rfl⟩ := hkind
      · exact ht.observedAt hnow
      · have hroom := room_of_admitted (limits.usable henabled) hadmitted
        rw [ht.pruned_history hnow] at hroom
        exact ht.reserved huuid4 henabled limits.windowSec_pos hnow hroom
  | rollback reservation =>
    cases reservation with
    | none => exact ht
    | some r =>
      unfold Traffic.step Budget.rollback
      dsimp only
      by_cases hdisabled : limits.enabled = false
      · rw [if_pos hdisabled]
        exact ht
      rw [if_neg hdisabled]
      split
      · next heq =>
        split at heq
        · cases heq
          exact ht.rolledBack r.reservationId
        · cases heq
      · next heq =>
        split at heq
        · cases heq
        · cases heq
          exact ht
  | snapshot now =>
    unfold Traffic.step
    dsimp only
    cases hsnap : t.budget.snapshot limits.toLimits now with
    | error e => exact ht
    | ok answer =>
      obtain ⟨b, report⟩ := answer
      obtain ⟨hnow, rfl⟩ := Budget.snapshot_cases hsnap
      exact ht.observedAt hnow

theorem Sound.run (limits : ValidLimits) (huuid4 : Function.Injective uuid4)
    (calls : List (Call ι)) :
    Sound limits.toLimits uuid4 (run limits.toLimits uuid4 calls) := by
  induction calls using List.reverseRecOn with
  | nil => exact .initial
  | append_singleton calls call ih =>
    unfold Traffic.run at ih ⊢
    rw [foldl_append, foldl_cons, foldl_nil]
    exact ih.step huuid4 call

/-! ### What the budget promises -/

/-- A new order is granted only where the capacity kept for risk messages stays free. -/
theorem Sound.newOrder_leaves_reserve {limits : ValidLimits} (ht : Sound limits.toLimits uuid4 t)
    (huuid4 : Function.Injective uuid4) {now : ℚ} {b : Budget ι} {r : Reservation ι}
    {rejection : Option Rejection}
    (hgranted : t.budget.reserveToken limits.toLimits MessageKind.newOrder.text now
      (uuid4 t.drawn) = .ok (b, some r, rejection)) :
    ((t.step limits.toLimits uuid4 (.reserve MessageKind.newOrder.text now)).window
        limits.toLimits now).length + limits.reservedRiskMessages ≤ limits.maxTotal ∧
      limits.reservedCancelMessages ≤ limits.reservedRiskMessages := by
  have hafter := ht.step huuid4 (.reserve MessageKind.newOrder.text now)
  obtain ⟨-, -, hnone, -⟩ | ⟨henabled, hnow, kind, hkind, ⟨-, hnone, -, -⟩ |
    ⟨hadmitted, -, hr, hb⟩⟩ := Budget.reserveToken_cases hgranted
  · cases hnone
  · cases hnone
  have husable := limits.usable henabled
  refine ⟨?_, husable.reservedCancel_le⟩
  obtain rfl : MessageKind.newOrder = kind := Option.some.inj hkind
  have hroom := (room_of_admitted husable hadmitted).newOrder rfl
  rw [ht.pruned_history hnow] at hroom
  cases hr
  have hretained : (t.step limits.toLimits uuid4
      (.reserve MessageKind.newOrder.text now)).retained =
      t.retained ++ [⟨uuid4 t.drawn, .newOrder, now⟩] := by
    unfold Traffic.step
    dsimp only
    rw [hgranted]
  unfold window at hroom ⊢
  rw [hretained]
  unfold Window.upTo at hroom ⊢
  rw [filter_append, length_append]
  have hone := length_filter_le
    (fun m : Reservation ι =>
      decide (now - limits.windowSec < m.reservedAt ∧ m.reservedAt ≤ now))
    [⟨uuid4 t.drawn, .newOrder, now⟩]
  rw [length_singleton] at hone
  unfold Limits.openingRiskCeiling at hroom
  omega

omit [DecidableEq ι] in
theorem length_eq_notCancel_add_cancel (ms : List (Reservation ι)) :
    ms.length = ms.countP notCancel + ms.countP (ofKind .cancel) := by
  rw [length_eq_countP_add_countP notCancel]
  refine congrArg (_ + ·) (countP_congr fun m _ => ?_)
  unfold notCancel ofKind
  simp only [decide_eq_true_eq, not_not]

omit [DecidableEq ι] in
/-- A cancel is granted while the window holds fewer cancels than are kept for them. -/
theorem Sound.cancel_granted {limits : ValidLimits} (ht : Sound limits.toLimits uuid4 t)
    {now : ℚ}
    (hnow : t.budget.lastObservedAt ≤ now)
    (hfew : (t.window limits.toLimits now).countP (ofKind .cancel) <
      limits.reservedCancelMessages) :
    ∃ b reservation,
      t.budget.reserveToken limits.toLimits MessageKind.cancel.text now (uuid4 t.drawn) =
        .ok (b, reservation, none) ∧
      (limits.enabled = true → reservation = some ⟨uuid4 t.drawn, .cancel, now⟩) := by
  cases henabled : limits.enabled with
  | false =>
    refine ⟨t.budget, none, ?_, nofun⟩
    unfold Budget.reserveToken
    rw [if_pos henabled]
  | true =>
    have husable := limits.usable henabled
    have hpruned := ht.pruned_history hnow
    have hadmitted : t.budget.rejectionAt limits.toLimits .cancel now = none := by
      unfold Budget.rejectionAt
      rw [Option.or_eq_none_iff]
      constructor
      · unfold Budget.classRejection Budget.count
        rw [hpruned, if_neg]
        rintro ⟨-, hfull⟩
        exact absurd (hfull.trans_lt (hfew.trans_le husable.covered)) (lt_irrefl _)
      · unfold Budget.capacityRejection
        rw [hpruned, if_neg husable.maxTotal_pos.ne']
        refine if_neg (not_le.mpr ?_)
        -- whatever is no cancel stays below what is kept for cancels
        have hothers := ht.notCancels now
        rw [length_eq_notCancel_add_cancel]
        have hrisk := husable.reservedRisk_le
        have hcancel := husable.reservedCancel_le
        unfold window at hfew ⊢
        unfold Limits.reduceOrderCeiling at hothers
        omega
    rw [Budget.reserveToken_of_enabled henabled rfl hnow, hadmitted]
    exact ⟨_, _, rfl, fun _ => rfl⟩

/-- A rollback takes out the message it names and no other. -/
theorem Sound.rollback_exact {limits : Limits} (ht : Sound limits uuid4 t) (r : Reservation ι) :
    (∀ before m after, t.budget.history = before ++ m :: after →
      m.reservationId = r.reservationId →
        t.budget.rollback limits (some r) =
          ({ t.budget with history := before ++ after }, true)) ∧
    ((∀ m ∈ t.budget.history, m.reservationId ≠ r.reservationId) →
      t.budget.rollback limits (some r) = (t.budget, false)) := by
  constructor
  · intro before m after hhistory hid
    have henabled : limits.enabled ≠ false := by
      intro hdisabled
      have hempty := ht.history_eq
      rw [ht.disabled hdisabled, hhistory] at hempty
      exact absurd hempty (by simp)
    have hdistinct : (t.budget.history.map Reservation.reservationId).Nodup := by
      rw [ht.history_eq]
      exact ht.distinct.sublist (filter_sublist.map _)
    have hany : t.budget.history.any (fun x => decide (x.reservationId = r.reservationId)) =
        true := by
      rw [any_eq_true]
      refine ⟨m, ?_, decide_eq_true hid⟩
      rw [hhistory]
      exact mem_append_right _ mem_cons_self
    unfold Budget.rollback
    dsimp only
    rw [if_neg henabled, if_pos hany, deleteLast_eq_filter hdistinct, ← hid, hhistory]
    rw [hhistory] at hdistinct
    rw [filter_ne_of_nodup hdistinct]
  · intro hnone
    have hany : ¬ t.budget.history.any (fun x => decide (x.reservationId = r.reservationId)) =
        true := by
      rw [any_eq_true]
      rintro ⟨m, hm, hid⟩
      exact hnone m hm (of_decide_eq_true hid)
    unfold Budget.rollback
    dsimp only
    rw [if_neg hany, ite_self]

/-- **The outbound budget.**  Over any calls: no window of the configured length, read from
either end, holds more retained messages than the total limit or the limit of a kind; a new order
leaves the capacity kept for risk messages and cancels; a cancel is granted while the window
holds fewer cancels than are kept for them; and a rollback removes exactly the message it names.
-/
theorem budget_kept (limits : ValidLimits) (huuid4 : Function.Injective uuid4)
    (calls : List (Call ι)) :
    (∀ now,
      ((run limits.toLimits uuid4 calls).window limits.toLimits now).length ≤ limits.maxTotal ∧
      (Window.since Reservation.reservedAt limits.windowSec now
        (run limits.toLimits uuid4 calls).retained).length ≤ limits.maxTotal ∧
      ∀ kind, 0 < limits.classLimit kind →
        ((run limits.toLimits uuid4 calls).window limits.toLimits now).countP (ofKind kind) ≤
          limits.classLimit kind ∧
        (Window.since Reservation.reservedAt limits.windowSec now
          (run limits.toLimits uuid4 calls).retained).countP (ofKind kind) ≤
          limits.classLimit kind) ∧
    (∀ now b r rejection,
      (run limits.toLimits uuid4 calls).budget.reserveToken limits.toLimits
          MessageKind.newOrder.text now (uuid4 (run limits.toLimits uuid4 calls).drawn) =
        .ok (b, some r, rejection) →
      ((run limits.toLimits uuid4 (calls ++ [.reserve MessageKind.newOrder.text now])).window
          limits.toLimits now).length + limits.reservedRiskMessages ≤ limits.maxTotal ∧
        limits.reservedCancelMessages ≤ limits.reservedRiskMessages) ∧
    (∀ now, (run limits.toLimits uuid4 calls).budget.lastObservedAt ≤ now →
      ((run limits.toLimits uuid4 calls).window limits.toLimits now).countP (ofKind .cancel) <
        limits.reservedCancelMessages →
      ∃ b reservation,
        (run limits.toLimits uuid4 calls).budget.reserveToken limits.toLimits
            MessageKind.cancel.text now (uuid4 (run limits.toLimits uuid4 calls).drawn) =
          .ok (b, reservation, none) ∧
        (limits.enabled = true →
          reservation = some ⟨uuid4 (run limits.toLimits uuid4 calls).drawn, .cancel, now⟩)) ∧
    ∀ r : Reservation ι,
      (∀ before m after,
        (run limits.toLimits uuid4 calls).budget.history = before ++ m :: after →
          m.reservationId = r.reservationId →
            (run limits.toLimits uuid4 calls).budget.rollback limits.toLimits (some r) =
              ({ (run limits.toLimits uuid4 calls).budget with history := before ++ after },
                true)) ∧
      ((∀ m ∈ (run limits.toLimits uuid4 calls).budget.history,
          m.reservationId ≠ r.reservationId) →
        (run limits.toLimits uuid4 calls).budget.rollback limits.toLimits (some r) =
          ((run limits.toLimits uuid4 calls).budget, false)) := by
  have hsound := Sound.run limits huuid4 calls
  refine ⟨fun now => ⟨?_, ?_, fun kind hkind => ⟨hsound.kinds kind hkind now,
    (hsound.kinds kind hkind).since hsound.chronological now⟩⟩, ?_, ?_, hsound.rollback_exact⟩
  · have htotal := hsound.total now
    rwa [countP_true] at htotal
  · have htotal := hsound.total.since hsound.chronological now
    rwa [countP_true] at htotal
  · intro now b r rejection hgranted
    have hleaves := hsound.newOrder_leaves_reserve huuid4 hgranted
    unfold run at hleaves ⊢
    rw [foldl_append, foldl_cons, foldl_nil]
    exact hleaves
  · intro now hnow hfew
    exact hsound.cancel_granted hnow hfew

/-- Two messages in twenty, one of them kept for risk and cancels: a second order is refused, a
cancel is not. -/
def tightLimits : ValidLimits where
  enabled := true
  windowSec := 1 / 20
  maxTotal := 2
  maxNewOrders := 1
  maxReduceOrders := 1
  maxCancels := 1
  reservedRiskMessages := 1
  reservedCancelMessages := 1
  windowSec_pos := by norm_num
  usable := fun _ => ⟨by decide, by decide, by decide, by decide, by decide⟩

/-- The constructor builds these limits. -/
example :
    (ValidLimits.create
      { enabled := true, windowSec := some (1 / 20), maxTotalMessagesPerWindow := some 2,
        maxNewOrdersPerWindow := some 1, maxReduceOrdersPerWindow := some 1,
        maxCancelMessagesPerWindow := some 1, reservedRiskMessagesPerWindow := some 1,
        reservedCancelMessagesPerWindow := some 1 }).toOption.map ValidLimits.toLimits =
      some tightLimits.toLimits := by
  decide +kernel

theorem budget_kept_tight :
    ((run tightLimits.toLimits id [.reserve "NEW_ORDER" 1,
      .reserve "NEW_ORDER" (101 / 100)]).window
        tightLimits.toLimits (101 / 100)).length ≤ 2 ∧
      ∃ b reservation,
        (run tightLimits.toLimits id
            [.reserve "NEW_ORDER" 1, .reserve "NEW_ORDER" (101 / 100)]).budget.reserveToken
              tightLimits.toLimits "CANCEL" (102 / 100) 1 = .ok (b, reservation, none) := by
  have hkept := budget_kept tightLimits (Function.injective_id : Function.Injective (id : ℕ → ℕ))
    [.reserve "NEW_ORDER" 1, .reserve "NEW_ORDER" (101 / 100)]
  refine ⟨(hkept.1 (101 / 100)).1, ?_⟩
  obtain ⟨b, reservation, hgranted, -⟩ :=
    hkept.2.2.1 (102 / 100) (by decide +kernel) (by decide +kernel)
  have hdrawn : (run tightLimits.toLimits (id : ℕ → ℕ)
      [.reserve "NEW_ORDER" 1, .reserve "NEW_ORDER" (101 / 100)]).drawn = 1 := by
    decide +kernel
  rw [hdrawn] at hgranted
  exact ⟨b, reservation, hgranted⟩

end Run

end Traffic

end ChronosHFT.Oms.OutboundBudget
