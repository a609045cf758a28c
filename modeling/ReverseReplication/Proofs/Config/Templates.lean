import ReverseReplication.Config.Load
import ReverseReplication.Proofs.ObjectPaths

/-!
# Paths of templates

What the path of an object looks like is decided in two places. Reading a path keeps the parts that
it finds; the check of a template path has no use for the parts and only looks whether something
stands on both sides of the first slash. Both are held against what a path spells
(`ObjectPath.parse?_eq_some_iff`, `Config.validateTemplate_eq_ok_iff`), and so they agree
(`ObjectPath.read_as_spelled`).
-/

namespace ReverseReplication

namespace Config

variable {var path : String}

/-- Behind the scheme, a template needs a bucket and an object that are not empty. -/
theorem validateTemplate_of_afterScheme? {rest : List Char} (h : afterScheme? path = some rest) :
    validateTemplate var path = .ok () ↔
      rest.takeWhile (· ≠ '/') ≠ [] ∧ (rest.dropWhile (· ≠ '/')).tail ≠ [] := by
  rw [← List.isEmpty_eq_false_iff, ← List.isEmpty_eq_false_iff, ← Bool.or_eq_false_iff]
  unfold validateTemplate
  rw [h]
  dsimp only
  split
  next hempty => simp only [hempty, reduceCtorEq]
  next hparts =>
    rw [Bool.not_eq_true] at hparts
    simp only [hparts]

/-- Templates may have just the paths that spell an object. -/
theorem validateTemplate_eq_ok_iff :
    validateTemplate var path = .ok () ↔ ∃ p, ObjectPath.Spells path p := by
  constructor
  · intro h
    cases hrest : afterScheme? path with
    | none => simp [validateTemplate, hrest] at h
    | some rest =>
      obtain ⟨hfront, hback⟩ := (validateTemplate_of_afterScheme? hrest).1 h
      -- The slash is there, since without it nothing would be left for the object.
      obtain ⟨c, back, hdrop⟩ : ∃ c back, rest.dropWhile (· ≠ '/') = c :: back :=
        List.exists_cons_of_ne_nil (mt (congrArg List.tail) hback)
      obtain ⟨hparts, hslash⟩ := Text.parts_of_dropWhile hdrop
      rw [hdrop] at hback
      rw [hparts] at hrest
      exact ⟨_, .of_afterScheme? hrest hfront hslash hback⟩
  · rintro ⟨p, hp⟩
    obtain ⟨htake, hdrop⟩ := Text.parts_append hp.named.slash_free p.object.toList
    rw [validateTemplate_of_afterScheme? hp.afterScheme?_eq, htake, hdrop]
    exact ⟨hp.named.bucket_toList_ne, hp.named.object_toList_ne⟩

end Config

/-- A path is read as the object that it spells and as no other, it is not read if it spells none,
and templates may have just the paths that are read. -/
theorem ObjectPath.read_as_spelled :
    (∀ (path : String) (p : ObjectPath), parse? path = some p ↔ Spells path p) ∧
    (∀ path : String, parse? path = none ↔ ¬ ∃ p, Spells path p) ∧
    ∀ var path : String, Config.validateTemplate var path = .ok () ↔ (parse? path).isSome := by
  have hread (path : String) : (parse? path).isSome ↔ ∃ p, Spells path p := by
    rw [Option.isSome_iff_exists]
    exact exists_congr fun _ => parse?_eq_some_iff
  refine ⟨fun path p => parse?_eq_some_iff, fun path => ?_, fun var path => ?_⟩
  · rw [← hread, Option.not_isSome_iff_eq_none]
  · rw [hread]
    exact Config.validateTemplate_eq_ok_iff

end ReverseReplication
