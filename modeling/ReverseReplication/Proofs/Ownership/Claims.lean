import ReverseReplication.Proofs.Hazards

/-!
# Entries that a run calls its own

A run may put one entry into a table and take it out again. `Table.Claims` says what it may have
done to the table so far, given whether it still claims the entry: it claims only what was not
there before, so it never changes what was. If nothing hides from the run what its calls have done
(`Hazards.Exact`), the table is known altogether.
-/

namespace ReverseReplication

namespace Hazards

/-- The operations that undo something. -/
def undoings : List Operation := [.deleteBucket, .dropFeed, .dropDatabase, .cancel]

/-- The operations that create something, unless it is there already. -/
def creations : List Operation := [.createJob, .createBucket, .createFeed, .createDatabase, .launch]

/-- Nothing hides from a run what its calls have done: it learns of all that it creates, and nothing
that is there is made to look gone. -/
structure Exact (hz : Hazards) : Prop where
  replies : ∀ op ∈ creations, ¬hz.loses op
  removals : ∀ op ∈ undoings, ∀ what, ¬hz.fails op (.notFound what)

end Hazards

namespace Table

variable {κ α : Type} [Ord κ] {exact : Prop} {before now : Table κ α} {k : κ} {v : α}
  {claimed claimed' : Bool}

/-- An insertion takes nothing out. -/
theorem isSome_get?_insert [Std.TransOrd κ] [Std.LawfulEqOrd κ] [DecidableEq κ] {t : Table κ α}
    {k k' : κ} {v : α} (h : (t.get? k).isSome) : ((t.insert k' v).get? k).isSome := by
  rw [get?_insert]
  split
  next => rfl
  next => exact h

/-- What a run may have done to a table in which it may put the entry `v` under `k`. -/
structure Claims (exact : Prop) (before now : Table κ α) (k : κ) (v : α) (claimed : Bool) :
    Prop where
  others : ∀ k', k' ≠ k → now.get? k' = before.get? k'
  kept : ∀ v', before.get? k = some v' → now.get? k = some v'
  fresh : claimed = true → before.get? k = none
  exactly : exact → now.get? k = if claimed then some v else before.get? k

namespace Claims

/-- At first nothing is claimed. -/
theorem refl (hnone : claimed = false) : Claims exact before before k v claimed := by
  subst hnone
  exact ⟨fun _ _ => rfl, fun _ h => h, fun hclaimed => (nomatch hclaimed), fun _ => rfl⟩

/-- Whatever was in the table is still there. -/
theorem retained (h : Claims exact before now k v claimed) {k' : κ} {v' : α}
    (hv : before.get? k' = some v') : now.get? k' = some v' := by
  by_cases hk : k' = k
  · subst hk
    exact h.kept v' hv
  · rw [h.others k' hk]
    exact hv

/-- What is not there now was not there before, since nothing that was there is removed. -/
theorem absent (h : Claims exact before now k v claimed)
    (hnow : now.get? k = none) : before.get? k = none := by
  cases hbefore : before.get? k with
  | none => rfl
  | some v' =>
    rw [h.kept v' hbefore] at hnow
    simp at hnow

/-- A claim may be given up where nothing is known for sure. -/
theorem forget (h : Claims exact before now k v claimed) (hexact : ¬exact)
    (hthen : claimed' = false) : Claims exact before now k v claimed' where
  others := h.others
  kept := h.kept
  fresh := by
    intro hclaimed
    rw [hthen] at hclaimed
    simp at hclaimed
  exactly := fun he => absurd he hexact

/-- A claimed entry is gone only where nothing is known for sure. -/
theorem not_exact_of_gone (h : Claims exact before now k v claimed) (hclaimed : claimed = true)
    (hgone : now.get? k = none) : ¬exact := by
  intro hexact
  have hthere := h.exactly hexact
  rw [hgone, if_pos hclaimed] at hthere
  simp at hthere

/-- An entry that was not there before is the claimed one. -/
theorem claimed_of_new [DecidableEq κ] (h : Claims exact before now k v claimed) (hexact : exact)
    {k' : κ} (hnow : (now.get? k').isSome) (hbefore : ¬(before.get? k').isSome) :
    k' = k ∧ claimed = true := by
  by_cases hkey : k' = k
  · subst hkey
    have hthen := h.exactly hexact
    cases claimed with
    | true => exact ⟨rfl, rfl⟩
    | false =>
      rw [hthen] at hnow
      exact absurd hnow hbefore
  · rw [h.others k' hkey] at hnow
    exact absurd hnow hbefore

/-- A claimed entry is in the table, and is new. -/
theorem held_new (h : Claims exact before now k v claimed) (hexact : exact)
    (hclaimed : claimed = true) : (now.get? k).isSome ∧ ¬(before.get? k).isSome := by
  have hthere := h.exactly hexact
  rw [if_pos hclaimed] at hthere
  rw [hthere, h.fresh hclaimed]
  exact ⟨rfl, Bool.false_ne_true⟩

variable [Std.TransOrd κ] [Std.LawfulEqOrd κ] [DecidableEq κ]

/-- An entry is put in and claimed. -/
theorem create (h : Claims exact before now k v claimed) (hnow : now.get? k = none)
    (hthen : claimed' = true) : Claims exact before (now.insert k v) k v claimed' where
  others := by
    intro k' hk
    rw [get?_insert, if_neg hk]
    exact h.others k' hk
  kept := by
    intro v' hv
    rw [h.absent hnow] at hv
    simp at hv
  fresh := fun _ => h.absent hnow
  exactly := by
    intro _
    rw [get?_insert, if_pos rfl, if_pos hthen]

/-- A claimed entry is taken out again. -/
theorem drop (h : Claims exact before now k v claimed) (hclaimed : claimed = true)
    (hthen : claimed' = false) : Claims exact before (now.erase k) k v claimed' where
  others := by
    intro k' hk
    rw [get?_erase, if_neg hk]
    exact h.others k' hk
  kept := by
    intro v' hv
    rw [h.fresh hclaimed] at hv
    simp at hv
  fresh := by
    intro hclaimed'
    rw [hthen] at hclaimed'
    simp at hclaimed'
  exactly := by
    intro _
    rw [get?_erase, if_pos rfl, h.fresh hclaimed, hthen]
    rfl

/-- Where nothing is claimed, nothing has changed. -/
theorem eq_of_exact (h : Claims exact before now k v claimed) (hexact : exact)
    (hnone : claimed = false) : now = before := by
  refine ext_get? fun k' => ?_
  by_cases hk : k' = k
  · subst hk hnone
    exact h.exactly hexact
  · exact h.others k' hk

end Claims

end Table

end ReverseReplication
