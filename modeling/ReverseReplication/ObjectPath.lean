/-!
# Paths of hosted objects

A file is hosted if its path begins with the scheme of the object store; every other path is one
of the local file system. The path of an object names a bucket and, after a slash, an object in
it, whose name may hold further slashes.
-/

namespace ReverseReplication

/-- The scheme of the object store. -/
def hostedScheme : String := "gs://"

/-- What follows the scheme in a hosted path. -/
def afterScheme? (path : String) : Option (List Char) :=
  hostedScheme.toList.isPrefixOf? path.toList

/-- Is the path one of the object store? -/
def isHosted (path : String) : Bool := (afterScheme? path).isSome

/-- An object of the object store. -/
structure ObjectPath where
  bucket : String
  object : String
  deriving DecidableEq, Repr

namespace ObjectPath

/-- Cuts characters at the first slash, if something stands on both sides of it. -/
def cut? (cs : List Char) : Option (List Char × List Char) :=
  match cs.takeWhile (· ≠ '/'), cs.dropWhile (· ≠ '/') with
  | b :: bs, _ :: o :: os => some (b :: bs, o :: os)
  | _, _ => none

/-- The object that a path names. -/
def parse? (path : String) : Option ObjectPath := do
  let (bucket, object) ← cut? (← afterScheme? path)
  pure ⟨.ofList bucket, .ofList object⟩

/-- The path of an object. -/
def render (p : ObjectPath) : String := hostedScheme ++ p.bucket ++ "/" ++ p.object

end ObjectPath

end ReverseReplication
