import Mathlib.Data.Option.Basic

/-!
# Critical sections

A critical section runs with a lock held.  Nobody sees the states it goes through, only the one
it leaves; an exception leaves it too, and what was written before stays written.

`Section σ α` is such a section.  `Section.Ends m s Q` says that `Q` holds of its answer (`none`
for an exception) and of the state it leaves when it is entered in `s`.  The rules `ends_pure`,
`ends_bind`, … take a section apart statement by statement. -/

namespace ChronosHFT

/-- What a section answers, `none` when it raises, and the state it leaves. -/
def Section (σ α : Type) := σ → Option α × σ

/-- What a call of other code does. -/
inductive Reply
  | answers (value : Bool)
  /-- It raises, before or after its effect. -/
  | raises (done : Bool)
  deriving DecidableEq

/-- The call comes back. -/
def Reply.Returns : Reply → Prop
  | .answers _ => True
  | .raises _ => False

instance : DecidablePred Reply.Returns := fun reply =>
  match reply with
  | .answers _ => isTrue trivial
  | .raises _ => isFalse id

namespace Section

variable {σ α β : Type}

instance : Monad (Section σ) where
  pure a := fun s => (some a, s)
  bind m f := fun s =>
    match m s with
    | (some a, s') => f a s'
    | (none, s') => (none, s')

/-- The state. -/
def read : Section σ σ := fun s => (some s, s)

/-- A statement of the section itself. -/
def write (f : σ → σ) : Section σ Unit := fun s => (some (), f s)

/-- A call with an effect, whose value is not used. -/
def perform (reply : Reply) (effect : σ → σ) : Section σ Unit := fun s =>
  match reply with
  | .answers _ => (some (), effect s)
  | .raises true => (none, effect s)
  | .raises false => (none, s)

/-- A call without an effect on the state. -/
def ask (reply : Reply) : Section σ Bool := fun s =>
  match reply with
  | .answers value => (some value, s)
  | .raises _ => (none, s)

/-! ## How a section ends -/

/-- Entered in `s`, the section ends with an answer and in a state that are as `Q` says. -/
def Ends (m : Section σ α) (s : σ) (Q : Option α → σ → Prop) : Prop := Q (m s).1 (m s).2

variable {s : σ} {Q R : Option α → σ → Prop}

variable {m : Section σ α} {reply : Reply}

theorem Ends.of_eq {answer : Option α} {s' : σ} (h : Ends m s Q)
    (heq : m s = (answer, s')) : Q answer s' := by
  rw [Ends, heq] at h
  exact h

theorem Ends.imp (h : Ends m s Q) (himp : ∀ answer s', Q answer s' → R answer s') : Ends m s R :=
  himp _ _ h

theorem ends_pure {a : α} : Ends (pure a) s Q ↔ Q (some a) s := Iff.rfl

theorem ends_bind {m : Section σ β} {f : β → Section σ α} :
    Ends (m >>= f) s Q ↔ Ends m s fun answer s' =>
      match answer with
      | some b => Ends (f b) s' Q
      | none => Q none s' := by
  simp only [Ends, bind]
  rcases m s with ⟨_ | b, s'⟩
  · exact Iff.rfl
  · exact Iff.rfl

theorem ends_read {Q : Option σ → σ → Prop} : Ends read s Q ↔ Q (some s) s := Iff.rfl

theorem ends_write {f : σ → σ} {Q : Option Unit → σ → Prop} :
    Ends (write f) s Q ↔ Q (some ()) (f s) := Iff.rfl

theorem ends_ite {c : Prop} [Decidable c] {n : Section σ α} :
    Ends (if c then m else n) s Q ↔ (c → Ends m s Q) ∧ (¬c → Ends n s Q) := by
  split
  · exact ⟨fun h => ⟨fun _ => h, fun hc => absurd ‹_› hc⟩, fun h => h.1 ‹_›⟩
  · exact ⟨fun h => ⟨fun hc => absurd hc ‹_›, fun _ => h⟩, fun h => h.2 ‹_›⟩

/-- A call that may also raise, before or after its effect. -/
theorem ends_perform {effect : σ → σ} {Q : Option Unit → σ → Prop}
    (hok : reply.Returns → Q (some ()) (effect s))
    (hraise : ¬reply.Returns → Q none s ∧ Q none (effect s)) :
    Ends (perform reply effect) s Q := by
  rcases reply with value | done
  · exact hok trivial
  obtain ⟨hbefore, hafter⟩ := hraise id
  cases done with
  | false => exact hbefore
  | true => exact hafter

theorem ends_perform_of_returns {effect : σ → σ} {Q : Option Unit → σ → Prop}
    (hreply : reply.Returns) (hok : Q (some ()) (effect s)) : Ends (perform reply effect) s Q :=
  ends_perform (fun _ => hok) fun hraise => absurd hreply hraise

theorem ends_ask {Q : Option Bool → σ → Prop} (hok : ∀ value, Q (some value) s)
    (hraise : ¬reply.Returns → Q none s) : Ends (ask reply) s Q := by
  rcases reply with value | done
  · exact hok value
  · exact hraise id

end Section

end ChronosHFT
