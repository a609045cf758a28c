import ReverseReplication.Proofs.Accounting

/-!
# What calls do to holdings

A call leaves the things that are held as they are (`Inventory.HoldsSame`), creates one of them
(`Inventory.Gains`), or takes one away (`Inventory.Drops`). Here is one lemma for each operation
that creates something, one for each that undoes it, and one for all others
(`Inventory.Performed.holdsSame`).
-/

namespace ReverseReplication

namespace Table

variable {κ α : Type} [Ord κ] [Std.TransOrd κ] [Std.LawfulEqOrd κ] [DecidableEq κ] {t : Table κ α}
  {k k' : κ} {v : α}

/-- After an insertion, the new key is there, and those that were there before. -/
theorem isSome_get?_insert_iff :
    ((t.insert k v).get? k').isSome ↔ (t.get? k').isSome ∨ k' = k := by
  rw [get?_insert]
  by_cases h : k' = k <;> simp [h]

/-- After an erasure, all that was there is there but the key. -/
theorem isSome_get?_erase_iff :
    ((t.erase k).get? k').isSome ↔ (t.get? k').isSome ∧ k' ≠ k := by
  rw [get?_erase]
  by_cases h : k' = k <;> simp [h]

end Table

namespace Inventory

/-- The same things are held. -/
def HoldsSame (inv inv' : Inventory) : Prop := ∀ y, inv'.Holds y ↔ inv.Holds y

/-- Something new is held, and nothing else has changed. -/
structure Gains (inv : Inventory) (x : Holding) (inv' : Inventory) : Prop where
  fresh : ¬inv.Holds x
  holds : ∀ y, inv'.Holds y ↔ inv.Holds y ∨ y = x

/-- Something is no longer held, and nothing else has changed. -/
structure Drops (inv : Inventory) (x : Holding) (inv' : Inventory) : Prop where
  held : inv.Holds x
  holds : ∀ y, inv'.Holds y ↔ inv.Holds y ∧ y ≠ x

variable {inv inv' inv'' : Inventory} {x : Holding}

theorem HoldsSame.refl (inv : Inventory) : inv.HoldsSame inv := fun _ => Iff.rfl

/-- What holds the same as something that holds the same holds the same. -/
theorem HoldsSame.trans (h : inv.HoldsSame inv') (h' : inv'.HoldsSame inv'') :
    inv.HoldsSame inv'' := fun y => (h' y).trans (h y)

/-- What happens after something was gained, and changes nothing, does not matter. -/
theorem Gains.trans_same (h : inv.Gains x inv') (h' : inv'.HoldsSame inv'') :
    inv.Gains x inv'' :=
  ⟨h.fresh, fun y => (h' y).trans (h.holds y)⟩

/-! ## Calls that change nothing -/

namespace Performed

variable {c : Call} {reply : c.Reply}

/-- Only some operations create something, and only some undo it. -/
theorem holdsSame (h : Performed inv c reply inv') (op : Operation) (hc : c.operation = op)
    (hcreates : op ∉ [.createBucket, .createFeed, .createDatabase, .launch])
    (hundoes : op ∉ Hazards.undoings) : inv.HoldsSame inv' := by
  subst hc
  cases h with
  | createBucket => simp [Call.operation] at hcreates
  | createFeed => simp [Call.operation] at hcreates
  | createDatabase => simp [Call.operation] at hcreates
  | launch => simp [Call.operation] at hcreates
  | deleteBucket => simp [Call.operation, Hazards.undoings] at hundoes
  | dropFeed => simp [Call.operation, Hazards.undoings] at hundoes
  | dropDatabase => simp [Call.operation, Hazards.undoings] at hundoes
  | cancel => simp [Call.operation, Hazards.undoings] at hundoes
  | _ => exact fun _ => Iff.rfl

end Performed

/-! ## Calls that create something -/

/-- Creating a bucket adds the bucket, and nothing else. -/
theorem gains_createBucket {bucket : Bucket} (hfree : inv.buckets.get? bucket.name = none) :
    inv.Gains (.bucket bucket.name)
      { inv with buckets := inv.buckets.insert bucket.name bucket } where
  fresh := by simp [Holds, hfree]
  holds := by
    intro y
    cases y with
    | bucket name => simp [Holds, Table.isSome_get?_insert_iff]
    | _ => simp [Holds]

/-- Creating a feed adds the feed, and nothing else. -/
theorem gains_createFeed {feed : FeedName} {options : FeedOptions}
    (hfree : inv.feeds.get? feed = none) :
    inv.Gains (.feed feed) { inv with feeds := inv.feeds.insert feed options } where
  fresh := by simp [Holds, hfree]
  holds := by
    intro y
    cases y with
    | feed feed' => simp [Holds, Table.isSome_get?_insert_iff]
    | _ => simp [Holds]

/-- Creating a database adds the database, and nothing else. -/
theorem gains_createDatabase {uri : String} (hfree : inv.databases.get? uri = none) :
    inv.Gains (.database uri) { inv with databases := inv.databases.insert uri () } where
  fresh := by simp [Holds, hfree]
  holds := by
    intro y
    cases y with
    | database uri' => simp [Holds, Table.isSome_get?_insert_iff]
    | _ => simp [Holds]

/-- A launch adds the running pipeline, under its new id, and nothing else. -/
theorem gains_launch {request : Launch} (hfree : inv.running.get? request.jobName = none) :
    inv.Gains (.pipeline request.jobName (inv.start request).1) (inv.start request).2 where
  fresh := by simp [Holds, hfree]
  holds := by
    intro y
    cases y with
    | pipeline name id =>
      show (inv.start request).2.running.get? name = some id ↔ _
      rw [get?_running_start]
      by_cases hname : name = request.jobName
      · subst hname
        simp [Holds, hfree, eq_comm]
      · simp [Holds, hname]
    | _ => simp [Holds, start]

/-! ## Calls that undo something -/

/-- Deleting a bucket takes the bucket away, and no other holding. -/
theorem drops_deleteBucket {name : String} (hthere : (inv.buckets.get? name).isSome) :
    inv.Drops (.bucket name) { inv with
      buckets := inv.buckets.erase name
      objects := inv.objects.filter fun path => path.bucket ≠ name } where
  held := hthere
  holds := by
    intro y
    cases y with
    | bucket name' => simp [Holds, Table.isSome_get?_erase_iff]
    | _ => simp [Holds]

/-- Dropping a feed takes the feed away, and nothing else. -/
theorem drops_dropFeed {feed : FeedName} (hthere : (inv.feeds.get? feed).isSome) :
    inv.Drops (.feed feed) { inv with feeds := inv.feeds.erase feed } where
  held := hthere
  holds := by
    intro y
    cases y with
    | feed feed' => simp [Holds, Table.isSome_get?_erase_iff]
    | _ => simp [Holds]

/-- Dropping a database takes the database away, and nothing else. -/
theorem drops_dropDatabase {uri : String} (hthere : (inv.databases.get? uri).isSome) :
    inv.Drops (.database uri) { inv with databases := inv.databases.erase uri } where
  held := hthere
  holds := by
    intro y
    cases y with
    | database uri' => simp [Holds, Table.isSome_get?_erase_iff]
    | _ => simp [Holds]

/-- Cancelling a running job takes away that job only: it runs under one name, and no other job has
its id. -/
theorem drops_cancel (hsound : inv.Sound) {name id : String} {job : PipelineJob}
    (hrun : inv.running.get? name = some id) (hjob : inv.pipelines.get? id = some job) :
    inv.Drops (.pipeline name id) (inv.stop id job) where
  held := hrun
  holds := by
    intro y
    cases y with
    | pipeline name' id' =>
      show (inv.stop id job).running.get? name' = some id' ↔ inv.running.get? name' = some id' ∧ _
      have hname : inv.running.get? name' = some id → name' = name := by
        intro hrun'
        have hthere := (hsound.running name id).1 hrun
        rw [(hsound.running name' id).1 hrun'] at hthere
        cases hthere
        rfl
      rw [hsound.running_stop hjob]
      by_cases hsame : inv.running.get? name' = some id
      · obtain rfl := hname hsame
        simp only [hsame, if_true, reduceCtorEq, false_iff]
        rintro ⟨hid, hne⟩
        cases hid
        exact hne rfl
      · rw [if_neg hsame]
        refine ⟨fun hrun' => ⟨hrun', ?_⟩, And.left⟩
        intro heq
        cases heq
        exact hsame hrun'
    | _ => simp [Holds, stop]

end Inventory

end ReverseReplication
