import ReverseReplication.Proofs.Managers.Chronicle
import ReverseReplication.Proofs.ObjectPaths

/-!
# The object store reads its writes

Buckets and objects are kept apart, and an object is read without a look at its bucket. Still, no
object outlives its bucket, and reading one yields what was written to it last since its bucket was
last deleted, or nothing if there was no such write (`Chronicle.lastWrite?`). So a bucket that is
created again begins empty (`Chronicle.reads_last_write`).

The proof says once what each deed does to an object (`Deed.effect?`). The store follows that step
by step (`Inventory.Performed.object?_eq`, `Inventory.object?_sow`), and so does the chronicle.
-/

namespace ReverseReplication

open Inventory (Performed)
open ReverseReplication.Text (Bytes)

/-- What a deed does to an object: it puts contents there, or deletes it with its bucket, or does
nothing to it. -/
def Deed.effect? (path : ObjectPath) : Deed → Option (Option Bytes)
  | .done (.writeObject bucket object contents) _ =>
    if path = ⟨bucket, object⟩ then some (some contents) else none
  | .done (.deleteBucket name) _ => if path.bucket = name then some none else none
  | .sown (.object text contents) =>
    if ObjectPath.parse? text = some path then some (some contents) else none
  | _ => none

/-- A call that succeeds does to the objects what its deed says. -/
theorem Inventory.Performed.object?_eq {inv inv' : Inventory} {c : Call} {reply : c.Reply}
    (h : Performed inv c reply inv') (path : ObjectPath) :
    inv'.object? path = ((Deed.done c reply).effect? path).getD (inv.object? path) := by
  cases h with
  | @writeObject bucket object contents _ =>
    show Table.get? _ path = _
    rw [Table.get?_insert]
    by_cases hpath : path = ⟨bucket, object⟩
    · simp [Deed.effect?, hpath]
    · simp [Deed.effect?, hpath, Inventory.object?]
  | @deleteBucket name _ =>
    show Table.get? _ path = _
    rw [Table.get?_filter]
    by_cases hname : path.bucket = name
    · simp [Deed.effect?, hname]
    · simp [Deed.effect?, hname, Inventory.object?]
  | _ => rfl

/-- Contents that are put in are found where their path says. -/
theorem Inventory.object?_sow (inv : Inventory) (seed : Seed) (path : ObjectPath) :
    (inv.sow seed).object? path = ((Deed.sown seed).effect? path).getD (inv.object? path) := by
  cases seed with
  | object text contents =>
    unfold Deed.effect?
    simp only [Inventory.sow, Inventory.putObject]
    cases hparse : ObjectPath.parse? text with
    | none => simp
    | some p =>
      show Table.get? _ path = _
      rw [Table.get?_insert]
      by_cases hpath : path = p
      · simp [hpath]
      · simp [hpath, Ne.symm hpath, Inventory.object?]
  | _ => rfl

namespace Chronicle

/-- The contents that were written to an object last, since its bucket was last deleted. The deeds
are given latest first. -/
def lastWrite? (path : ObjectPath) (deeds : List Deed) : Option Bytes :=
  (deeds.findSome? (Deed.effect? path)).join

/-- The last write of an object is made by the last deed that has an effect on it. -/
theorem lastWrite?_cons (path : ObjectPath) (deed : Deed) (deeds : List Deed) :
    lastWrite? path (deed :: deeds) = (deed.effect? path).getD (lastWrite? path deeds) := by
  unfold lastWrite?
  rw [List.findSome?_cons]
  cases deed.effect? path with
  | none => rfl
  | some contents => rfl

/-- Whatever happens, the objects are what the chronicle says that was written last. -/
theorem object?_after (defaultLocation : Option String) (stamp : String)
    (past : List Occurrence) :
    let now := (start defaultLocation stamp).after past
    now.inventory.Sound ∧ ∀ path, now.inventory.object? path = lastWrite? path now.deeds := by
  refine keeps (fun deeds inv => ∀ path, inv.object? path = lastWrite? path deeds) ?_ ?_ ?_
    (sound_start defaultLocation stamp) ?_ past
  · intro deeds inv c reply inv' _ hperformed h path
    rw [hperformed.object?_eq, lastWrite?_cons, h path]
  · intro deeds inv seed h path
    rw [Inventory.object?_sow, lastWrite?_cons, h path]
  · intro deeds inv stamp h
    exact h
  · intro path
    rfl

/-- The object store reads its writes: whatever has happened to it, every object has its bucket,
and reading one yields the contents that were written to it last, unless its bucket has been
deleted since. -/
theorem reads_last_write (defaultLocation : Option String) (stamp : String)
    (past : List Occurrence) :
    let now := (start defaultLocation stamp).after past
    (∀ path, (now.inventory.object? path).isSome →
      (now.inventory.buckets.get? path.bucket).isSome) ∧
    ∀ path : ObjectPath, path.Named →
      (now.managers.probe.count .readObject).failure? .readObject = none →
      (now.managers.perform (.readObject path.render)).1 =
        match lastWrite? path now.deeds with
        | some contents => .ok contents
        | none => .error (.notFound path.render) := by
  intro now
  obtain ⟨hsound, hobjects⟩ := object?_after defaultLocation stamp past
  refine ⟨hsound.objects, fun path hnamed hcalm => ?_⟩
  have hparse := ObjectPath.parse?_render hnamed
  have hread : now.managers.inventory.object? path = lastWrite? path now.deeds := hobjects path
  unfold Managers.perform
  simp only [Call.operation, hcalm, Inventory.perform, hparse, hread]
  cases lastWrite? path now.deeds with
  | none => rfl
  | some contents => rfl

/-- An object is written, its bucket is deleted and created again, and another object is written.
The first is gone then, and the second is read. -/
theorem reads_last_write_of_recreated :
    let bucket : Bucket := ⟨"b", "here", none, .empty⟩
    let now := (start none "2026").after [
      .call (.createBucket "p1" bucket), .call (.writeObject "b" "old" [1]),
      .call (.deleteBucket "b"), .call (.createBucket "p1" bucket),
      .seed (.object "gs://b/new/data" [2]), .call (.writeObject "b" "new/data" [3]),
      .call (.writeObject "missing" "new/data" [4])]
    (now.managers.perform (.readObject "gs://b/old")).1 = .error (.notFound "gs://b/old") ∧
      (now.managers.perform (.readObject "gs://b/new/data")).1 = .ok [3] := by
  intro bucket now
  obtain ⟨-, hreads⟩ := reads_last_write none "2026" [
    .call (.createBucket "p1" bucket), .call (.writeObject "b" "old" [1]),
    .call (.deleteBucket "b"), .call (.createBucket "p1" bucket),
    .seed (.object "gs://b/new/data" [2]), .call (.writeObject "b" "new/data" [3]),
    .call (.writeObject "missing" "new/data" [4])]
  have hcalm : (now.managers.probe.count .readObject).failure? .readObject = none := by
    decide +kernel
  have hold : lastWrite? ⟨"b", "old"⟩ now.deeds = none := by decide +kernel
  have hnew : lastWrite? ⟨"b", "new/data"⟩ now.deeds = some [3] := by decide +kernel
  constructor
  · have hread := hreads ⟨"b", "old"⟩ ⟨by decide, by decide, by decide⟩ hcalm
    rw [hold] at hread
    exact hread
  · have hread := hreads ⟨"b", "new/data"⟩ ⟨by decide, by decide, by decide⟩ hcalm
    rw [hnew] at hread
    exact hread

end Chronicle

end ReverseReplication
