import ReverseReplication.Json.Record
import ReverseReplication.ObjectPath

/-!
# Managed resources

What a bucket and a change feed look like to their managers, and the keys under which objects and
change feeds are stored.
-/

namespace ReverseReplication

open Json (Codec Record)

/-- A bucket of the object store. -/
structure Bucket where
  name : String
  location : String
  /-- After how many days its objects are deleted, if they ever are. -/
  ttlDays : Option UInt32
  labels : Table String String
  deriving DecidableEq, Inhabited

def Bucket.record : Record Bucket where
  title := "BucketSpec"
  slots := [
    .required "name" .text name fun s b => { b with name := s },
    .required "location" .text location fun s b => { b with location := s },
    .maybe "ttl_days" (.optional .uint32) ttlDays fun n b => { b with ttlDays := n },
    .required "labels" .textTable labels fun t b => { b with labels := t }]
  blank := ⟨"", "", none, .empty⟩
  lenient := false

def Bucket.codec : Codec Bucket := record.codec

/-- What a change feed keeps; as they stand here, what the reader needs. -/
structure FeedOptions where
  retentionPeriod : String := "7d"
  valueCaptureType : String := "NEW_ROW"
  deriving DecidableEq, Repr, Inhabited

def FeedOptions.record : Record FeedOptions where
  title := "ChangeFeedOptions"
  slots := [
    .required "retention_period" .text retentionPeriod fun s o => { o with retentionPeriod := s },
    .required "value_capture_type" .text valueCaptureType
      fun s o => { o with valueCaptureType := s }]
  blank := {}
  lenient := false

def FeedOptions.codec : Codec FeedOptions := record.codec

/-! ## Keys -/

/-- Objects are stored by bucket, then by name. -/
instance : Ord ObjectPath :=
  ⟨compareLex (compareOn ObjectPath.bucket) (compareOn ObjectPath.object)⟩

instance : Std.TransOrd ObjectPath :=
  inferInstanceAs
    (Std.TransCmp (compareLex (compareOn ObjectPath.bucket) (compareOn ObjectPath.object)))

instance : Std.LawfulEqOrd ObjectPath where
  compare_self := Std.ReflCmp.compare_self
  eq_of_compare {p q} h := by
    have h : (compare p.bucket q.bucket).then (compare p.object q.object) = .eq := h
    rw [Ordering.then_eq_eq] at h
    cases p
    cases q
    simp only [ObjectPath.mk.injEq]
    exact ⟨Std.LawfulEqOrd.eq_of_compare h.1, Std.LawfulEqOrd.eq_of_compare h.2⟩

/-- A change feed: the database whose changes it carries, and its name there. -/
structure FeedName where
  database : String
  name : String
  deriving DecidableEq, Repr

/-- Change feeds are stored by database, then by name. -/
instance : Ord FeedName := ⟨compareLex (compareOn FeedName.database) (compareOn FeedName.name)⟩

instance : Std.TransOrd FeedName :=
  inferInstanceAs
    (Std.TransCmp (compareLex (compareOn FeedName.database) (compareOn FeedName.name)))

instance : Std.LawfulEqOrd FeedName where
  compare_self := Std.ReflCmp.compare_self
  eq_of_compare {p q} h := by
    have h : (compare p.database q.database).then (compare p.name q.name) = .eq := h
    rw [Ordering.then_eq_eq] at h
    cases p
    cases q
    simp only [FeedName.mk.injEq]
    exact ⟨Std.LawfulEqOrd.eq_of_compare h.1, Std.LawfulEqOrd.eq_of_compare h.2⟩

end ReverseReplication
