import ChronosHFT.Lib.Run

/-!
# Interleaved calls

Calls run concurrently over a shared state, each divided into turns: what it does while it holds
the lock is one turn, what it does without it is another.  A call is identified by its number in
the order of invocation.  Between two turns of a call anything may happen to the shared state,
and a call may stand still for ever.

`World.step` lets any call take its turn and lets new calls be made at any time; `choice` is what
code outside does during the turn.  The rule for proving something about every interleaving is
`World.run_invariant`: what holds of the shared state is kept by every turn, what holds of a call
is kept by its own turns, and no other call disturbs it. -/

namespace ChronosHFT.Interleaving

/-- The shared state, and every call that was made, where it stands. -/
structure World (σ κ : Type*) where
  shared : σ
  calls : List κ
  deriving Repr, DecidableEq

inductive Action (κ χ : Type*)
  | invoke (call : κ)
  | turn (i : ℕ) (choice : χ)
  deriving Repr, DecidableEq

namespace World

variable {σ κ χ : Type*}

/-- A new call, or a turn of one that was made; `begins` says where a call may start. -/
def step (begins : κ → Bool) (advance : ℕ → κ → χ → σ → Option (κ × σ)) (w : World σ κ) :
    Action κ χ → Option (World σ κ)
  | .invoke call => if begins call then some { w with calls := w.calls ++ [call] } else none
  | .turn i choice =>
    w.calls[i]?.bind fun call =>
      (advance i call choice w.shared).map fun p => { shared := p.2, calls := w.calls.set i p.1 }

variable {begins : κ → Bool} {advance : ℕ → κ → χ → σ → Option (κ × σ)} {w w' : World σ κ}

theorem step_invoke {call : κ} : step begins advance w (.invoke call) = some w'
    ↔ begins call = true ∧ w' = { w with calls := w.calls ++ [call] } := by
  simp only [step]
  split
  case isTrue hbegins =>
    constructor
    · intro h
      exact ⟨hbegins, (Option.some.inj h).symm⟩
    · rintro ⟨_, rfl⟩
      rfl
  case isFalse hbegins =>
    constructor
    · intro h
      cases h
    · rintro ⟨h, _⟩
      exact absurd h hbegins

/-- **What a turn does**: it moves its own call and the shared state, and no other call. -/
theorem step_turn {i : ℕ} {choice : χ} : step begins advance w (.turn i choice) = some w'
    ↔ ∃ call call', w.calls[i]? = some call ∧
      advance i call choice w.shared = some (call', w'.shared)
      ∧ w'.calls = w.calls.set i call' := by
  simp only [step]
  constructor
  · intro h
    obtain ⟨call, hcall, h⟩ := Option.bind_eq_some_iff.mp h
    obtain ⟨⟨call', shared'⟩, hadvance, rfl⟩ := Option.map_eq_some_iff.mp h
    exact ⟨call, call', hcall, hadvance, rfl⟩
  · rintro ⟨call, call', hcall, hadvance, hcalls⟩
    rw [hcall, Option.bind_some, hadvance, Option.map_some, ← hcalls]

theorem getElem?_append_one {calls : List κ} {call other : κ} {j : ℕ}
    (h : (calls ++ [call])[j]? = some other) :
    calls[j]? = some other ∨ (j = calls.length ∧ other = call) := by
  rcases lt_trichotomy j calls.length with hlt | heq | hgt
  · rw [List.getElem?_append_left hlt] at h
    exact .inl h
  · subst heq
    rw [List.getElem?_concat_length] at h
    exact .inr ⟨rfl, (Option.some.inj h).symm⟩
  · rw [List.getElem?_eq_none (by rw [List.length_append, List.length_singleton]; omega)] at h
    cases h

/-- **The rule of non-interference.**  `I` is about the shared state and the number of calls
made, `L` about one call.  Where every turn keeps `I`, establishes `L` for its own call and
leaves it to the others, both hold of every state that any interleaving reaches. -/
theorem run_invariant {I : ℕ → σ → Prop} {L : ℕ → σ → ℕ → κ → Prop}
    (hinvoke : ∀ n s call, I n s → begins call = true → I (n + 1) s ∧ L (n + 1) s n call)
    (hmore : ∀ n s j call, I n s → L n s j call → L (n + 1) s j call)
    (hturn : ∀ n s i call choice call' s', I n s → i < n → L n s i call →
      advance i call choice s = some (call', s') → I n s' ∧ L n s' i call'
        ∧ ∀ j other, j ≠ i → L n s j other → L n s' j other)
    {actions : List (Action κ χ)} (hI : I w.calls.length w.shared)
    (hL : ∀ i call, w.calls[i]? = some call → L w.calls.length w.shared i call)
    (hexec : Run.exec (step begins advance) w actions = some w') :
    I w'.calls.length w'.shared ∧ ∀ i call, w'.calls[i]? = some call →
    L w'.calls.length w'.shared i call := by
  refine Run.exec_preserves (I := fun w => I w.calls.length w.shared
    ∧ ∀ i call, w.calls[i]? = some call → L w.calls.length w.shared i call) ?_ ⟨hI, hL⟩ hexec
  rintro s a s' ⟨hI, hL⟩ hstep
  cases a with
  | invoke call =>
    obtain ⟨hbegins, rfl⟩ := step_invoke.mp hstep
    have hlength : (s.calls ++ [call]).length = s.calls.length + 1 := List.length_append
    have hnew := hinvoke _ _ call hI hbegins
    rw [hlength]
    refine ⟨hnew.1, fun j other hother => ?_⟩
    rcases getElem?_append_one hother with hold | ⟨rfl, rfl⟩
    · exact hmore _ _ j other hI (hL j other hold)
    · exact hnew.2
  | turn i choice =>
    obtain ⟨call, call', hcall, hadvance, hcalls⟩ := step_turn.mp hstep
    obtain ⟨hlt, _⟩ := List.getElem?_eq_some_iff.mp hcall
    obtain ⟨hI', hown, hothers⟩ :=
      hturn _ _ i call choice call' s'.shared hI hlt (hL i call hcall) hadvance
    rw [hcalls, List.length_set]
    refine ⟨hI', fun j other hother => ?_⟩
    rw [List.getElem?_set] at hother
    by_cases hij : i = j
    · subst hij
      rw [if_pos rfl, if_pos hlt] at hother
      cases hother
      exact hown
    · rw [if_neg hij] at hother
      exact hothers j other (Ne.symm hij) (hL j other hother)

end World

end ChronosHFT.Interleaving
