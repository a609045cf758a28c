import Mathlib.Data.List.Basic
import ReverseReplication.ObjectPath
import ReverseReplication.Proofs.Separators

/-!
# Reading object paths

A path is hosted if it is the scheme of the object store and something behind it (`isHosted_iff`).
It is read as an object exactly if it spells that object (`ObjectPath.parse?_eq_some_iff`): a named
object in a named bucket (`ObjectPath.Named`), with the bucket ending at the first slash behind the
scheme. So a path is read as one object at most, and what is written as the path of a named object
is read as that object (`ObjectPath.parse?_render`).
-/

namespace ReverseReplication

/-- What is behind the scheme, if it is there, makes up the path together with it. -/
theorem afterScheme?_eq_some_iff {path : String} {rest : List Char} :
    afterScheme? path = some rest ↔ path = hostedScheme ++ .ofList rest := by
  unfold afterScheme?
  rw [List.isPrefixOf?_eq_some_iff_append_eq, ← String.toList_inj, String.toList_append,
    String.toList_ofList]
  exact eq_comm

/-- A path is hosted exactly if it starts with the scheme. -/
theorem isHosted_iff {path : String} :
    isHosted path = true ↔ ∃ rest, path = hostedScheme ++ rest := by
  unfold isHosted
  rw [Option.isSome_iff_exists]
  constructor
  · rintro ⟨cs, hcs⟩
    exact ⟨.ofList cs, afterScheme?_eq_some_iff.1 hcs⟩
  · rintro ⟨rest, rfl⟩
    exact ⟨rest.toList, afterScheme?_eq_some_iff.2 (by rw [String.ofList_toList])⟩

namespace ObjectPath

/-- Every path that is rendered is hosted. -/
theorem isHosted_render (p : ObjectPath) : isHosted p.render = true :=
  isHosted_iff.2 ⟨p.bucket ++ "/" ++ p.object, by simp only [render, String.append_assoc]⟩

/-- Both parts have a name, and the slash that ends the bucket is the first one. -/
structure Named (p : ObjectPath) : Prop where
  bucket_ne : p.bucket ≠ ""
  slash_free : '/' ∉ p.bucket.toList
  object_ne : p.object ≠ ""

/-- The path is made up of the scheme, a named bucket, a slash and a named object. -/
structure Spells (path : String) (p : ObjectPath) : Prop where
  path_eq : path = "gs://" ++ p.bucket ++ "/" ++ p.object
  named : p.Named

variable {path : String} {p : ObjectPath}

/-- The name of the bucket has a character. -/
theorem Named.bucket_toList_ne (h : p.Named) : p.bucket.toList ≠ [] :=
  mt String.toList_eq_nil_iff.1 h.bucket_ne

/-- The name of the object has a character. -/
theorem Named.object_toList_ne (h : p.Named) : p.object.toList ≠ [] :=
  mt String.toList_eq_nil_iff.1 h.object_ne

/-- The text is cut at its first slash, which must have something on both sides. -/
theorem cut?_eq_some_iff {cs front back : List Char} :
    cut? cs = some (front, back) ↔
      cs = front ++ '/' :: back ∧ front ≠ [] ∧ '/' ∉ front ∧ back ≠ [] := by
  constructor
  · intro h
    unfold cut? at h
    split at h
    next b bs c o os htake hdrop =>
      cases h
      obtain ⟨hparts, hslash⟩ := Text.parts_of_dropWhile hdrop
      rw [htake] at hparts hslash
      exact ⟨hparts, List.cons_ne_nil b bs, hslash, List.cons_ne_nil o os⟩
    next => cases h
  · rintro ⟨rfl, hfront, hslash, hback⟩
    obtain ⟨htake, hdrop⟩ := Text.parts_append hslash back
    unfold cut?
    rw [htake, hdrop]
    obtain ⟨b, bs, rfl⟩ := List.exists_cons_of_ne_nil hfront
    obtain ⟨o, os, rfl⟩ := List.exists_cons_of_ne_nil hback
    rfl

/-- The parts of a path are joined by a slash, as texts and as lists of characters. -/
theorem ofList_parts (front back : List Char) :
    String.ofList (front ++ '/' :: back) = .ofList front ++ "/" ++ .ofList back := by
  have hslash : String.ofList ['/'] = "/" := rfl
  rw [← List.singleton_append, ← List.append_assoc, String.ofList_append, String.ofList_append,
    hslash]

/-- Behind the scheme of a path that is spelled out stand its two parts. -/
theorem Spells.afterScheme?_eq (h : Spells path p) :
    afterScheme? path = some (p.bucket.toList ++ '/' :: p.object.toList) := by
  rw [afterScheme?_eq_some_iff, ofList_parts, String.ofList_toList, String.ofList_toList, h.path_eq,
    String.append_assoc, String.append_assoc, String.append_assoc]
  rfl

/-- A path that is spelled out is hosted. -/
theorem Spells.isHosted (h : Spells path p) : isHosted path = true := by
  rw [ReverseReplication.isHosted, h.afterScheme?_eq, Option.isSome_some]

/-- Two parts with the first slash between them spell out a path. -/
theorem Spells.of_afterScheme? {front back : List Char}
    (h : afterScheme? path = some (front ++ '/' :: back)) (hfront : front ≠ [])
    (hslash : '/' ∉ front) (hback : back ≠ []) :
    Spells path ⟨.ofList front, .ofList back⟩ where
  path_eq := by
    rw [afterScheme?_eq_some_iff.1 h, ofList_parts, ← String.append_assoc, ← String.append_assoc]
    rfl
  named :=
    { bucket_ne := mt String.ofList_eq_empty_iff.1 hfront
      slash_free := by rwa [String.toList_ofList]
      object_ne := mt String.ofList_eq_empty_iff.1 hback }

/-- A path is read as the object that it spells, and as no other. -/
theorem parse?_eq_some_iff : parse? path = some p ↔ Spells path p := by
  constructor
  · intro h
    obtain ⟨rest, hrest, hcut⟩ := Option.bind_eq_some_iff.1 h
    obtain ⟨⟨front, back⟩, hparts, hp⟩ := Option.bind_eq_some_iff.1 hcut
    cases hp
    obtain ⟨rfl, hfront, hslash, hback⟩ := cut?_eq_some_iff.1 hparts
    exact .of_afterScheme? hrest hfront hslash hback
  · intro h
    have hcut : cut? (p.bucket.toList ++ '/' :: p.object.toList) =
        some (p.bucket.toList, p.object.toList) :=
      cut?_eq_some_iff.2
        ⟨rfl, h.named.bucket_toList_ne, h.named.slash_free, h.named.object_toList_ne⟩
    unfold parse?
    rw [h.afterScheme?_eq, Option.bind_eq_bind, Option.bind_some, hcut]
    simp

/-- Further slashes belong to the object, also one right behind the first. -/
example : parse? "gs://b//o" = some ⟨"b", "/o"⟩ ∧ parse? "gs:///o" = none := by decide

/-- The path of a named object is read as that object. -/
theorem parse?_render (h : p.Named) : parse? p.render = some p :=
  parse?_eq_some_iff.2 ⟨rfl, h⟩

end ObjectPath

end ReverseReplication
