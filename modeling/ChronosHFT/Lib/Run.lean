import Mathlib

/-!
# Runs of a partial step

A system is given by a partial step on its states, labelled by actions; a step
that cannot be taken answers `none`.  `Run.exec` takes a list of actions one
after the other.

Two notions are all a safety proof needs.  `Run.Along P s actions` says that
every action of the run meets the condition `P` in the state it is taken from,
and `Run.exec_invariant` carries an invariant over such a run.  The condition is
evaluated *before* each step, so a theorem stated with it never assumes anything
about what the step computes.

Steps that report an error are chained in `Except`, and `Run.except_bind_eq_ok` takes
such a chain apart.
-/

namespace ChronosHFT.Run

universe u v

variable {σ : Type u} {α : Type v}

/-- Take the actions in order; `none` when one of them is not possible. -/
def exec (step : σ → α → Option σ) : σ → List α → Option σ
  | s, [] => some s
  | s, a :: rest => (step s a).bind fun s' => exec step s' rest

/-- Every action of the run meets `P` in the state it is taken from. -/
def Along (step : σ → α → Option σ) (P : σ → α → Prop) : σ → List α → Prop
  | _, [] => True
  | s, a :: rest => P s a ∧ ∀ s', step s a = some s' → Along step P s' rest

instance decidableAlong (step : σ → α → Option σ) (P : σ → α → Prop)
    [∀ s a, Decidable (P s a)] : ∀ s actions, Decidable (Along step P s actions)
  | _, [] => inferInstanceAs (Decidable True)
  | s, a :: rest =>
    have : Decidable (∀ s' ∈ step s a, Along step P s' rest) :=
      match h : step s a with
      | none => isTrue (fun _ hs' => by cases hs')
      | some s' =>
        have := decidableAlong step P s' rest
        decidable_of_iff (Along step P s' rest)
          ⟨fun hrest _ heq => by cases heq; exact hrest, fun hall => hall s' rfl⟩
    inferInstanceAs (Decidable (P s a ∧ ∀ s' ∈ step s a, Along step P s' rest))

variable {step : σ → α → Option σ}

@[simp] theorem exec_nil (s : σ) : exec step s [] = some s := rfl

variable {s t : σ} {P Q : σ → α → Prop} {I : σ → Prop} {actions first second : List α}

theorem exec_cons_eq_some {a : α} {rest : List α} :
    exec step s (a :: rest) = some t ↔ ∃ s', step s a = some s' ∧ exec step s' rest = some t :=
  Option.bind_eq_some_iff

/-- **The invariant rule.**  An invariant kept by every step whose action meets
`P` holds wherever such a run ends. -/
theorem exec_invariant (hstep : ∀ s a s', I s → P s a → step s a = some s' → I s') :
    ∀ {actions : List α} {s t : σ}, I s → Along step P s actions →
      exec step s actions = some t → I t := by
  intro actions
  induction actions with
  | nil =>
    intro s t hI _ hexec
    cases hexec
    exact hI
  | cons a rest ih =>
    intro s t hI halong hexec
    obtain ⟨s', hs', hrest⟩ := exec_cons_eq_some.mp hexec
    exact ih (hstep s a s' hI halong.1 hs') (halong.2 s' hs') hrest

/-- A run is cut anywhere. -/
theorem exec_append_eq_some : exec step s (first ++ second) = some t ↔
      ∃ s', exec step s first = some s' ∧ exec step s' second = some t := by
  induction first generalizing s with
  | nil => simp
  | cons a rest ih =>
    rw [List.cons_append, exec_cons_eq_some]
    constructor
    · rintro ⟨s₁, hs₁, hrest⟩
      obtain ⟨s', hs', hsecond⟩ := ih.mp hrest
      exact ⟨s', exec_cons_eq_some.mpr ⟨s₁, hs₁, hs'⟩, hsecond⟩
    · rintro ⟨s', hfirst, hsecond⟩
      obtain ⟨s₁, hs₁, hs'⟩ := exec_cons_eq_some.mp hfirst
      exact ⟨s₁, hs₁, ih.mpr ⟨s', hs', hsecond⟩⟩

/-- The invariant rule for a run whose actions all meet a condition of their own. -/
theorem exec_invariant_of_forall {P : α → Prop}
    (hstep : ∀ s a s', I s → P a → step s a = some s' → I s') :
    ∀ {actions : List α} {s t : σ}, I s → (∀ a ∈ actions, P a) →
      exec step s actions = some t → I t := by
  intro actions
  induction actions with
  | nil =>
    intro s t hI _ hexec
    cases hexec
    exact hI
  | cons a rest ih =>
    intro s t hI hall hexec
    obtain ⟨s', hs', hrest⟩ := exec_cons_eq_some.mp hexec
    exact ih (hstep s a s' hI (hall a List.mem_cons_self) hs')
      (fun a hmem => hall a (List.mem_cons_of_mem _ hmem)) hrest

/-- The invariant rule for a run without conditions. -/
theorem exec_preserves (hstep : ∀ s a s', I s → step s a = some s' → I s') (hI : I s)
    (hexec : exec step s actions = some t) : I t := by
  have halong : ∀ (actions : List α) (s : σ), Along step (fun _ _ => True) s actions := by
    intro actions
    induction actions with
    | nil => exact fun _ => trivial
    | cons a rest ih => exact fun s => ⟨trivial, fun s' _ => ih s'⟩
  exact exec_invariant (fun s a s' h _ => hstep s a s' h) hI (halong actions s) hexec

/-- **The progress rule.**  When every step whose action meets `P` can be taken and
keeps the invariant, the whole run can. -/
theorem exec_progress (hstep : ∀ s a, I s → P s a → ∃ s', step s a = some s' ∧ I s') :
    ∀ {actions : List α} {s : σ}, I s → Along step P s actions →
      ∃ t, exec step s actions = some t ∧ I t := by
  intro actions
  induction actions with
  | nil =>
    intro s hI _
    exact ⟨s, rfl, hI⟩
  | cons a rest ih =>
    intro s hI halong
    obtain ⟨s', hs', hI'⟩ := hstep s a hI halong.1
    obtain ⟨t, hrest, hIt⟩ := ih hI' (halong.2 s' hs')
    exact ⟨t, exec_cons_eq_some.mpr ⟨s', hs', hrest⟩, hIt⟩

/-- **The termination rule.**  When, wherever the invariant holds and the goal is not reached, an
allowed action takes a step that keeps the invariant and decreases the measure, a run of allowed
actions reaches the goal. -/
theorem exec_reaches {goal : σ → Prop} {P : α → Prop} (measure : σ → ℕ)
    (hstep : ∀ s, I s → ¬goal s →
      ∃ a s', P a ∧ step s a = some s' ∧ I s' ∧ measure s' < measure s) (hI : I s) :
    ∃ actions t, (∀ a ∈ actions, P a) ∧ exec step s actions = some t ∧ I t ∧ goal t := by
  induction hm : measure s using Nat.strong_induction_on generalizing s with
  | _ m ih =>
    by_cases hgoal : goal s
    · exact ⟨[], s, nofun, rfl, hI, hgoal⟩
    obtain ⟨a, s', hP, hs', hI', hlt⟩ := hstep s hI hgoal
    obtain ⟨actions, t, hall, hexec, hIt, ht⟩ := ih (measure s') (hm ▸ hlt) hI' rfl
    exact ⟨a :: actions, t, List.forall_mem_cons.mpr ⟨hP, hall⟩,
      exec_cons_eq_some.mpr ⟨s', hs', hexec⟩, hIt, ht⟩

/-- Two conditions that agree wherever the invariant holds agree along a run, when the
first of them keeps the invariant. -/
theorem along_iff (hiff : ∀ s a, I s → (P s a ↔ Q s a))
    (hstep : ∀ s a s', I s → P s a → step s a = some s' → I s') :
    ∀ {actions : List α} {s : σ}, I s → (Along step P s actions ↔ Along step Q s actions) := by
  intro actions
  induction actions with
  | nil =>
    intro s _
    exact Iff.rfl
  | cons a rest ih =>
    intro s hI
    have hrest : P s a →
        ((∀ s', step s a = some s' → Along step P s' rest) ↔
          ∀ s', step s a = some s' → Along step Q s' rest) := fun hP =>
      forall_congr' fun s' => imp_congr_right fun hs' => ih (hstep s a s' hI hP hs')
    exact (and_congr_right hrest).trans (and_congr_left' (hiff s a hI))

/-- A condition along a run is one along each of its segments. -/
theorem along_append : Along step P s (first ++ second) ↔
      Along step P s first ∧ ∀ s', exec step s first = some s' → Along step P s' second := by
  induction first generalizing s with
  | nil =>
    constructor
    · intro h
      refine ⟨trivial, fun s' hs' => ?_⟩
      cases hs'
      exact h
    · exact fun h => h.2 s rfl
  | cons a rest ih =>
    constructor
    · rintro ⟨ha, hrest⟩
      refine ⟨⟨ha, fun s₁ hs₁ => (ih.mp (hrest s₁ hs₁)).1⟩, fun s' hs' => ?_⟩
      obtain ⟨s₁, hs₁, hs'⟩ := exec_cons_eq_some.mp hs'
      exact (ih.mp (hrest s₁ hs₁)).2 s' hs'
    · rintro ⟨⟨ha, hfirst⟩, hsecond⟩
      exact ⟨ha, fun s₁ hs₁ => ih.mpr ⟨hfirst s₁ hs₁, fun s' hs' =>
        hsecond s' (exec_cons_eq_some.mpr ⟨s₁, hs₁, hs'⟩)⟩⟩

/-- A condition holds along a run when it holds at every state the run takes an action from. -/
theorem along_of_forall
    (h : ∀ first a rest s', actions = first ++ a :: rest → exec step s first = some s' →
      P s' a) :
    Along step P s actions := by
  induction actions generalizing s with
  | nil => trivial
  | cons a rest ih =>
    refine ⟨h [] a rest s rfl rfl, fun s₁ hs₁ => ih fun first b tail s' heq hs' => ?_⟩
    exact h (a :: first) b tail s' (by rw [heq, List.cons_append])
      (exec_cons_eq_some.mpr ⟨s₁, hs₁, hs'⟩)

/-- Two conditions along one run. -/
theorem along_and (hP : Along step P s actions)
    (hQ : Along step Q s actions) : Along step (fun s a => P s a ∧ Q s a) s actions := by
  induction actions generalizing s with
  | nil => trivial
  | cons a rest ih => exact ⟨⟨hP.1, hQ.1⟩, fun s' hs' => ih (hP.2 s' hs') (hQ.2 s' hs')⟩

/-- What holds of every step that meets a condition, given the invariant, holds along the run. -/
theorem along_of_invariant
    (hQ : ∀ s a, I s → P s a → Q s a) (hstep : ∀ s a s', I s → P s a → step s a = some s' → I s')
    (hI : I s) (hP : Along step P s actions) : Along step Q s actions := by
  induction actions generalizing s with
  | nil => trivial
  | cons a rest ih =>
    exact ⟨hQ s a hI hP.1, fun s' hs' => ih (hstep s a s' hI hP.1 hs') (hP.2 s' hs')⟩

/-- A chain of fallible steps succeeds when each of them does. -/
theorem except_bind_eq_ok {ε : Type u} {β γ : Type v} {x : Except ε β} {f : β → Except ε γ}
    {b : γ} :
    (x >>= f) = .ok b ↔ ∃ a, x = .ok a ∧ f a = .ok b := by
  cases x with
  | error err =>
    constructor
    · intro h
      cases h
    · rintro ⟨a, h, -⟩
      cases h
  | ok a =>
    constructor
    · intro h
      exact ⟨a, rfl, h⟩
    · rintro ⟨a', h, hb⟩
      cases h
      exact hb

end ChronosHFT.Run
