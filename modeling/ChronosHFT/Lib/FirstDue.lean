import ChronosHFT.Lib.Dict

/-!
# Serving the first entry that is due

A scan over the entries of a map serves the first one that is due, by changing it in its place,
and stops.  The order of the entries stays, so an entry waits for those ahead of it: it is served
once none of them is due, and scans are not wasted as long as what was served is not due again
(`served_within`). -/

namespace ChronosHFT.Dict

open List

variable {κ α τ : Type*} [DecidableEq κ]

/-- The first entry that is due. -/
def firstDue (due : α → Bool) (d : Dict κ α) : Option (κ × α) :=
  d.items.find? fun entry => due entry.2

/-- One scan: the entry it serves, as it was, and the entries after it. -/
def serveFirst (due : τ → α → Bool) (mark : τ → α → α) (d : Dict κ α) (now : τ) :
    Option (κ × α) × Dict κ α :=
  match d.firstDue (due now) with
  | none => (none, d)
  | some (k, a) => (some (k, a), d.set k (mark now a))

/-- The entries a series of scans serves. -/
def served (due : τ → α → Bool) (mark : τ → α → α) : Dict κ α → List τ → List (κ × α)
  | _, [] => []
  | d, now :: times =>
    let scan := d.serveFirst due mark now
    scan.1.toList ++ served due mark scan.2 times

theorem setIn_append_cons {k : κ} {a a' : α} {front back : List (κ × α)}
    (h : k ∉ front.map Prod.fst) :
    setIn k a' (front ++ (k, a) :: back) = front ++ (k, a') :: back := by
  induction front with
  | nil => exact if_pos rfl
  | cons p front ih =>
    rw [map_cons, mem_cons, not_or] at h
    rw [cons_append, setIn, if_neg (Ne.symm h.1), ih h.2, cons_append]

/-- An entry of a map, changed in its place. -/
theorem items_set_of_items {d : Dict κ α} {k : κ} {a a' : α} {front back : List (κ × α)}
    (h : d.items = front ++ (k, a) :: back) : (d.set k a').items = front ++ (k, a') :: back := by
  have hnodup := d.nodup
  rw [h, map_append, map_cons, nodup_append] at hnodup
  have hfront : k ∉ front.map Prod.fst := fun hmem => hnodup.2.2 k hmem k mem_cons_self rfl
  change setIn k a' d.items = _
  rw [h, setIn_append_cons hfront]

variable {due : τ → α → Bool} {mark : τ → α → α}

/-- **Nobody waits for ever**: an entry that is due is served within one scan more than there are
entries ahead of it that the last scan would find due, where being due does not pass and those
ahead, once served, are not due again. -/
theorem served_within {last : τ} {k : κ} {b : α} {ahead behind : List (κ × α)} {d : Dict κ α}
    {times : List τ}
    (hitems : d.items = ahead ++ (k, b) :: behind) (hdue : ∀ t ∈ times, due t b = true)
    (hlast : ∀ t ∈ times, ∀ a, due t a = true → due last a = true)
    (hagain : ∀ t ∈ times, ∀ p ∈ ahead, due t p.2 = true → due last (mark t p.2) = false)
    (hcount : (ahead.filter fun p => due last p.2).length < times.length) :
    (k, b) ∈ served due mark d times := by
  induction times generalizing d ahead with
  | nil => exact absurd hcount (Nat.not_lt_zero _)
  | cons now times ih =>
    rw [forall_mem_cons] at hdue hlast hagain
    unfold served serveFirst firstDue
    rw [hitems, List.find?_append]
    cases hfind : ahead.find? fun p => due now p.2 with
    | none =>
      -- nobody ahead is due: it is this entry's turn
      have hown : ((k, b) :: behind).find? (fun p => due now p.2) = some (k, b) :=
        List.find?_cons_of_pos hdue.1
      rw [Option.none_or, hown]
      exact mem_append_left _ (mem_singleton_self (k, b))
    | some p =>
      obtain ⟨k', a⟩ := p
      obtain ⟨hnow, front, back, rfl, _⟩ := List.find?_eq_some_iff_append.mp hfind
      have hserved : due last (mark now a) = false :=
        hagain.1 (k', a) (mem_append_right _ mem_cons_self) hnow
      have hbefore : due last a = true := hlast.1 a hnow
      have hnext : (d.set k' (mark now a)).items = (front ++ (k', mark now a) :: back) ++
          (k, b) ::
          behind := by
        rw [append_assoc, cons_append] at hitems ⊢
        exact items_set_of_items hitems
      rw [Option.some_or]
      refine mem_append_right _ (ih hnext hdue.2 hlast.2 (fun t ht q hq hqdue => ?_) ?_)
      · rcases mem_append.mp hq with hq | hq
        · exact hagain.2 t ht q (mem_append_left _ hq) hqdue
        rcases mem_cons.mp hq with rfl | hq
        · rw [hlast.2 t ht _ hqdue] at hserved
          cases hserved
        · exact hagain.2 t ht q (mem_append_right _ (mem_cons_of_mem _ hq)) hqdue
      · have hgone : ((k', mark now a) :: back).filter (fun p => due last p.2) =
            back.filter fun p => due last p.2 :=
          filter_cons_of_neg (Bool.eq_false_iff.mp hserved)
        have hthere : ((k', a) :: back).filter (fun p => due last p.2)
            = (k', a) :: back.filter fun p => due last p.2 := filter_cons_of_pos hbefore
        rw [filter_append, hthere, length_append, length_cons, length_cons] at hcount
        rw [filter_append, hgone, length_append]
        omega

end ChronosHFT.Dict
