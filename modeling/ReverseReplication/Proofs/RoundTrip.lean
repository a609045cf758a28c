import ReverseReplication.Job.Record
import ReverseReplication.Program
import ReverseReplication.Proofs.Json.Records

/-!
# What is written down reads back

Requests, normalized requests, tunings, launches, resources, buckets, options of change feeds and
the configuration are decoded from their JSON texts as the values that were written
(`decodes_stored`). A normalized request is written as one map that also holds the members of its
request, so it reads back only because the two records have no field name in common
(`NormalizedRequest.names_apart`); for the same reason the request in it can be read on its own
(`NormalizedRequest.decode_request`).
-/

namespace ReverseReplication

open ReverseReplication.Text (utf8)
open Json (Codec Record Slot Value Reader)

/-! ## Records -/

/-- The members of a request are all there is to it. -/
theorem JobRequest.record_complete : record.Complete := by
  refine ⟨by decide, ?_⟩
  iterate 10 refine .cons (Codec.text_faithful.required ..) ?_
  refine .cons (Codec.int64_faithful.required ..) ?_
  iterate 12 refine .cons (Codec.text_faithful.required ..) ?_
  exact .nil fun _ => rfl

/-- The members of a tuning are all there is to it. -/
theorem Tuning.record_complete : record.Complete := by
  refine ⟨by decide, ?_⟩
  iterate 6 refine .cons (Codec.text_faithful.required ..) ?_
  iterate 2 refine .cons (Codec.int32_faithful.required ..) ?_
  iterate 2 refine .cons (Codec.text_faithful.required ..) ?_
  refine .cons ((Codec.textTable_faithful.nullAs nofun _).required ..) ?_
  iterate 2 refine .cons (Codec.text_faithful.required ..) ?_
  refine .cons ((Codec.textSet_faithful.nullAs nofun _).required ..) ?_
  refine .cons (Codec.bool_faithful.required ..) ?_
  exact .nil fun _ => rfl

/-- The members of a pipeline's environment are all there is to it. -/
theorem PipelineEnvironment.record_complete : record.Complete := by
  refine ⟨by decide, ?_⟩
  iterate 2 refine .cons (Codec.int32_faithful.required ..) ?_
  iterate 5 refine .cons (Codec.text_faithful.required ..) ?_
  refine .cons (Codec.text_faithful.list.required ..) ?_
  refine .cons (Codec.textTable_faithful.required ..) ?_
  refine .cons (Codec.bool_faithful.required ..) ?_
  exact .nil fun _ => rfl

/-- The members of a launch are all there is to it. -/
theorem Launch.record_complete : record.Complete := by
  refine ⟨by decide, ?_⟩
  iterate 4 refine .cons (Codec.text_faithful.required ..) ?_
  refine .cons (Codec.textTable_faithful.required ..) ?_
  refine .cons (PipelineEnvironment.record_complete.codec_faithful.required ..) ?_
  exact .nil fun _ => rfl

/-- The members of a recorded resource are all there is to it. -/
theorem JobResource.record_complete : record.Complete := by
  have hkind : ResourceKind.codec.Faithful :=
    Json.Variants.codec_faithful fun kind => by cases kind <;> decide
  refine ⟨by decide, ?_⟩
  refine .cons (Codec.text_faithful.required ..) ?_
  refine .cons (hkind.required ..) ?_
  iterate 3 refine .cons (Codec.text_faithful.required ..) ?_
  exact .nil fun _ => rfl

/-- The members of a bucket are all there is to it. -/
theorem Bucket.record_complete : record.Complete := by
  refine ⟨by decide, ?_⟩
  iterate 2 refine .cons (Codec.text_faithful.required ..) ?_
  refine .cons ((Codec.uint32_faithful.optional nofun).maybe ..) ?_
  refine .cons (Codec.textTable_faithful.required ..) ?_
  exact .nil fun _ => rfl

/-- The members of a feed's options are all there is to it. -/
theorem FeedOptions.record_complete : record.Complete := by
  refine ⟨by decide, ?_⟩
  iterate 2 refine .cons (Codec.text_faithful.required ..) ?_
  exact .nil fun _ => rfl

namespace Config

/-- What is written of the logging is read back. -/
theorem Logging.codec_faithful : Logging.codec.Faithful := by
  have hformat : LogFormat.codec.Faithful :=
    Json.Variants.codec_faithful fun format => by cases format <;> decide
  refine Record.Complete.codec_faithful ⟨by decide, ?_⟩
  refine .cons (Codec.text_faithful.required ..) ?_
  refine .cons (hformat.required ..) ?_
  exact .nil fun _ => rfl

/-- What is written of the rollback is read back. -/
theorem Rollback.codec_faithful : Rollback.codec.Faithful := by
  refine Record.Complete.codec_faithful ⟨by decide, ?_⟩
  refine .cons (Codec.bool_faithful.required ..) ?_
  exact .nil fun _ => rfl

/-- What is written of the templates is read back. -/
theorem Templates.codec_faithful : Templates.codec.Faithful := by
  refine Record.Complete.codec_faithful ⟨by decide, ?_⟩
  iterate 2 refine .cons (Codec.text_faithful.required ..) ?_
  exact .nil fun _ => rfl

/-- What is written of the staging is read back. -/
theorem Staging.codec_faithful : Staging.codec.Faithful := by
  refine Record.Complete.codec_faithful ⟨by decide, ?_⟩
  refine .cons (Codec.uint32_faithful.required ..) ?_
  exact .nil fun _ => rfl

/-- What is written of a configuration is read back. -/
theorem codec_faithful : codec.Faithful := by
  refine Record.Complete.codec_faithful ⟨by decide, ?_⟩
  refine .cons (Logging.codec_faithful.required ..) ?_
  refine .cons (Rollback.codec_faithful.required ..) ?_
  refine .cons (Templates.codec_faithful.required ..) ?_
  refine .cons (Staging.codec_faithful.required ..) ?_
  exact .nil fun _ => rfl

end Config

/-! ## Normalized requests -/

namespace NormalizedRequest

/-- The own members of a normalized request make up all of it but the request. -/
theorem ownRecord_copying : Slot.Copying ownRecord.slots (fun _ => ownRecord.blank)
    fun n => { n with request := ownRecord.blank.request } := by
  iterate 2 refine .cons (Codec.text_faithful.required ..) ?_
  refine .cons (Codec.bool_faithful.required ..) ?_
  iterate 4 refine .cons (Codec.text_faithful.required ..) ?_
  exact .nil fun _ => rfl

/-- No two members of a normalized request that are its own have one name. -/
theorem ownRecord_distinct : (ownRecord.slots.map Slot.name).Nodup := by decide

/-- No member of a request has the name of an own member of the normalized request. -/
theorem names_apart : ∀ name ∈ JobRequest.record.slots.map Slot.name,
    name ∉ ownRecord.slots.map Slot.name := by
  decide

/-- All members of a normalized request can be written. -/
theorem written_members (n : NormalizedRequest) :
    ∀ m ∈ JobRequest.record.members n.request ++ ownRecord.members n, m.2.Written :=
  List.forall_mem_append.2 ⟨Record.written_members JobRequest.record_complete.copying n.request,
    Record.written_members ownRecord_copying n⟩

/-- What a request writes of itself are texts and an integer of 64 bits. -/
theorem members_flat (r : JobRequest) : ∀ m ∈ JobRequest.record.members r,
    (∃ s, m.2 = .text s) ∨ ∃ n : Int64, m.2 = .int n.toInt := by
  simp only [Record.members, JobRequest.record, JobRequest.textSlot, Slot.required, Codec.text,
    Codec.int64, List.map_cons, List.map_nil, List.forall_mem_cons, Value.text.injEq, exists_eq',
    true_or, true_and, List.not_mem_nil, false_implies, implies_true, and_true]
  exact .inr ⟨r.timerInterval, rfl⟩

/-- Such a value is kept as it is. -/
theorem keepOther_flat {v : Value} (h : (∃ s, v = .text s) ∨ ∃ n : Int64, v = .int n.toInt)
    (name : String) (kept : List (String × Value)) (rest : List Json.Token) :
    keepOther name kept (v.tokens ++ rest) = .ok (kept ++ [(name, v)], rest) := by
  refine Reader.map_of_ok _ ?_
  rcases h with ⟨s, rfl⟩ | ⟨n, rfl⟩
  · rfl
  · -- A number is kept only if it does not overflow a binary64 number.
    have hmin := n.le_toInt
    have hmax := n.toInt_lt
    have hfits : (Json.Numeral.ofInt n.toInt).overflows = false :=
      Json.Numeral.overflows_ofInt (by unfold UInt64.size; omega)
    show (if (Json.Numeral.ofInt n.toInt).overflows then _ else _) = _
    rw [hfits]
    rfl

/-- The kept members stand in their order. -/
theorem foldl_kept (ms kept : List (String × Value)) :
    ms.foldl (fun kept m => kept ++ [m]) kept = kept ++ ms := by
  induction ms generalizing kept with
  | nil => rw [List.foldl_nil, List.append_nil]
  | cons m ms ih => rw [List.foldl_cons, ih, List.append_assoc, List.singleton_append]

/-- The members of the request are kept, and the own members are read. -/
theorem takes_members (n : NormalizedRequest) :
    Reader.Takes (ownRecord.member keepOther)
      (JobRequest.record.members n.request ++ ownRecord.members n) ⟨[], ownRecord.blank, []⟩
      ⟨(ownRecord.slots.map Slot.name).reverse ++ [], { n with request := ownRecord.blank.request },
        JobRequest.record.members n.request⟩ := by
  have hrequest : Reader.Takes (ownRecord.member keepOther) (JobRequest.record.members n.request)
      ⟨[], ownRecord.blank, []⟩ ⟨[], ownRecord.blank,
        (JobRequest.record.members n.request).foldl (fun kept m => kept ++ [m]) []⟩ :=
    Record.takes_others (Record.slot?_of_apart names_apart n.request)
      (fun m hm kept rest => keepOther_flat (members_flat n.request m hm) m.1 kept rest) _
  rw [foldl_kept] at hrequest
  exact hrequest.append (Record.takes_members ownRecord_distinct ownRecord_copying n _)

/-- What is written of a normalized request is read back. -/
theorem codec_faithful : codec.Faithful where
  written n := Value.written_object n.written_members
  read_write n rest := by
    have hown := Record.reader_eq n.takes_members Record.missing?_all rest
    have hrequest := JobRequest.record_complete.codec_faithful.ofValue_write n.request
    show read ((Value.object _).tokens ++ rest) = _
    rw [read, hown]
    dsimp only
    rw [show JobRequest.codec.ofValue (.object (JobRequest.record.members n.request)) =
      .ok n.request from hrequest]
    rfl

/-- The text of a normalized request can also be read as the request in it. -/
theorem decode_request (n : NormalizedRequest) :
    JobRequest.codec.decode (utf8 (codec.encode n)) = .ok n.request := by
  have hrequest : Reader.Takes (JobRequest.record.member Record.ignoreOther)
      (JobRequest.record.members n.request) ⟨[], JobRequest.record.blank, ()⟩ _ :=
    Record.takes_members JobRequest.record_complete.distinct JobRequest.record_complete.copying
      n.request ()
  have hown : ∀ p, Reader.Takes (JobRequest.record.member Record.ignoreOther)
      (ownRecord.members n) p { p with others := _ } := fun p =>
    Record.takes_others
      (Record.slot?_of_apart (fun name hname hrequest => names_apart name hrequest hname) n)
      (fun m _ _ rest => Reader.ignore_tokens m.2 rest) p
  have hread := Record.reader_eq (hrequest.append (hown _)) Record.missing?_all []
  rw [List.append_nil] at hread
  rw [Codec.decode, Reader.bytes, Reader.document, Codec.encode,
    Value.tokens_compact (codec_faithful.written n)]
  rw [show JobRequest.codec.read (codec.write n).tokens = _ from Reader.map_of_ok Prod.fst hread]
  rfl

end NormalizedRequest

/-! ## What is stored and shown -/

/-- A tuning file that is written is not blank, so it is read. -/
theorem Tuning.parse_encode (t : Tuning) : parse (utf8 (codec.encode t)) = .ok t := by
  obtain ⟨rest, hrest⟩ : ∃ rest, utf8 (codec.encode t) = 0x7b :: rest := by
    rw [Codec.encode, Value.compact, Json.spell, utf8, String.toList_ofList]
    exact ⟨_, rfl⟩
  have hblank : (utf8 (codec.encode t)).all isBlankByte = false := by
    rw [hrest]
    rfl
  rw [parse, hblank]
  exact record_complete.codec_faithful.roundTrips t

/-- Every value of the types that are stored or shown as JSON is decoded from its text as the value
that it is, whatever texts, integers, tables and sets it holds: from the text without spaces, and a
normalized request also from what is shown of a valid one over several lines. So the data of a job
entry decodes to the normalized request that the entry was made of. -/
theorem decodes_stored :
    (JobRequest.codec.RoundTrips ∧ NormalizedRequest.codec.RoundTrips ∧ Tuning.codec.RoundTrips ∧
      Launch.codec.RoundTrips ∧ (Codec.textTable : Codec Parameters).RoundTrips ∧
      PipelineEnvironment.codec.RoundTrips ∧ JobResource.codec.RoundTrips ∧
      Bucket.codec.RoundTrips ∧ FeedOptions.codec.RoundTrips ∧ Config.codec.RoundTrips) ∧
    (∀ t : Tuning, Tuning.parse (utf8 (Tuning.codec.encode t)) = .ok t) ∧
    (∀ n : NormalizedRequest, ∃ shown,
      Program.valid n = "✅ Job request is valid\n" ++ shown ++ "\n" ∧
        NormalizedRequest.codec.decode (utf8 shown) = .ok n) ∧
    ∀ (n : NormalizedRequest) (settings : Settings),
      NormalizedRequest.codec.decode (utf8 (n.catalog settings).jobEntry.jobData) = .ok n := by
  have hnormalized : NormalizedRequest.codec.Faithful := NormalizedRequest.codec_faithful
  refine ⟨?_, Tuning.parse_encode, fun n => ?_, fun n settings => ?_⟩
  · exact ⟨JobRequest.record_complete.codec_faithful.roundTrips, hnormalized.roundTrips,
      Tuning.record_complete.codec_faithful.roundTrips,
      Launch.record_complete.codec_faithful.roundTrips, Codec.textTable_faithful.roundTrips,
      PipelineEnvironment.record_complete.codec_faithful.roundTrips,
      JobResource.record_complete.codec_faithful.roundTrips,
      Bucket.record_complete.codec_faithful.roundTrips,
      FeedOptions.record_complete.codec_faithful.roundTrips, Config.codec_faithful.roundTrips⟩
  · exact ⟨(NormalizedRequest.codec.write n).pretty, rfl, hnormalized.decode_pretty n⟩
  · exact hnormalized.roundTrips n

end ReverseReplication
