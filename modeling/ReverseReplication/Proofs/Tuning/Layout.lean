import Mathlib.Data.List.Forall2
import Mathlib.Data.List.Nodup
import ReverseReplication.Proofs.Json.Grammar
import ReverseReplication.Proofs.Json.Records
import ReverseReplication.Proofs.Tuning.Completion

/-!
# Tuning files are read whatever their layout

One tuning has many files: the members may come in any order, those with default values may be left
out, others may stand between them, labels and experiments may repeat themselves, and the text may
be spelled and spaced in any way. `Tuning.Presents` says which members present a tuning, field by
field (`Tuning.fields`) and without the reader of tunings. Every text of such members is read as the
tuning (`Tuning.parse_presented`).

The reader goes from member to member and remembers which fields it has seen. By induction on the
members, what it has read is the tuning with these fields only (`Tuning.only`), whatever their
order (`Tuning.takes_members`).
-/

namespace ReverseReplication

open Json (Codec Reader Record Slot Token Typeset Value)

namespace Tuning

/-! ## What presents a tuning -/

/-- A text stands for itself. -/
def ShowsText (s : String) (v : Value) : Prop := v = .text s

/-- A number stands for itself. -/
def ShowsCount (n : Int32) (v : Value) : Prop := v = .int n.toInt

/-- A truth value stands for itself. -/
def ShowsFlag (b : Bool) (v : Value) : Prop := v = .bool b

/-- Labels are members, and of several with one key the last counts. No labels may be `null`. -/
inductive ShowsLabels (t : Table String String) : Value → Prop
  | null (empty : t = .empty) : ShowsLabels t .null
  | members {es : List (String × String)} (last : ∀ k, es.reverse.lookup k = t.get? k) :
    ShowsLabels t (.object (es.map fun e => (e.1, .text e.2)))

/-- Experiments are items in any order, which may repeat themselves. No experiments may be
`null`. -/
inductive ShowsExperiments (t : Table String Unit) : Value → Prop
  | null (empty : t = .empty) : ShowsExperiments t .null
  | items {ss : List String} (listed : ∀ s, s ∈ ss ↔ t.contains s) :
    ShowsExperiments t (.array (ss.map .text))

/-- A field of a tuning: its name, what may stand for it, and whether it has its default. -/
structure Field where
  name : String
  Shows : Tuning → Value → Prop
  Unset : Tuning → Prop

def Field.of {α : Type} (name : String) (get : Tuning → α) (shows : α → Value → Prop) : Field where
  name := name
  Shows c := shows (get c)
  Unset c := get c = get {}

/-- The fields of a tuning. -/
def fields : List Field := [
  .of "projectId" projectId ShowsText,
  .of "jobName" jobName ShowsText,
  .of "location" location ShowsText,
  .of "vpcHostProjectId" vpcHostProjectId ShowsText,
  .of "network" network ShowsText,
  .of "subnetwork" subnetwork ShowsText,
  .of "maxWorkers" maxWorkers ShowsCount,
  .of "numWorkers" numWorkers ShowsCount,
  .of "serviceAccountEmail" serviceAccountEmail ShowsText,
  .of "machineType" machineType ShowsText,
  .of "additionalUserLabels" labels ShowsLabels,
  .of "kmsKeyName" kmsKeyName ShowsText,
  .of "gcsTemplatePath" templatePath ShowsText,
  .of "additionalExperiments" experiments ShowsExperiments,
  .of "enableStreamingEngine" streamingEngine ShowsFlag]

/-- The members present the tuning: each field is shown at most once, and may be left out if it has
its default. Members with other names may have any value. -/
structure Presents (c : Tuning) (ms : List (String × Value)) : Prop where
  shown : ∀ f ∈ fields, ∀ v, (f.name, v) ∈ ms → f.Shows c v
  once : ∀ f ∈ fields, (ms.map Prod.fst).count f.name ≤ 1
  omitted : ∀ f ∈ fields, f.name ∉ ms.map Prod.fst → f.Unset c

/-! ## Reading one field -/

/-- A text is read as it is shown, and null as the empty one. -/
theorem read_text {s : String} {v : Value} (h : ShowsText s v) (rest : List Token) :
    Codec.text.read (v.tokens ++ rest) = .ok (s, rest) := by
  cases h
  rfl

/-- A count is read as it is shown, and null as zero. -/
theorem read_count {n : Int32} {v : Value} (h : ShowsCount n v) (rest : List Token) :
    Codec.int32.read (v.tokens ++ rest) = .ok (n, rest) := by
  cases h
  exact Codec.int32_faithful.read_write n rest

/-- A flag is read as it is shown, and null as false. -/
theorem read_flag {b : Bool} {v : Value} (h : ShowsFlag b v) (rest : List Token) :
    Codec.bool.read (v.tokens ++ rest) = .ok (b, rest) := by
  cases h
  rfl

/-- The first entry of a key is found. -/
theorem find?_eq_lookup (es : List (String × String)) (k : String) :
    (es.find? fun e => k = e.1).map Prod.snd = es.lookup k := by
  induction es with
  | nil => rfl
  | cons e es ih =>
    rw [List.find?_cons, List.lookup_cons]
    by_cases hk : k = e.1
    · simp [hk]
    · rw [beq_eq_false_iff_ne.2 hk, decide_eq_false hk]
      exact ih

/-- Labels are read as they are shown, and null as none. -/
theorem read_labels {t : Table String String} {v : Value} (h : ShowsLabels t v)
    (rest : List Token) :
    (Codec.nullAs .empty .textTable).read (v.tokens ++ rest) = .ok (t, rest) := by
  cases h with
  | null hempty =>
    subst hempty
    rfl
  | @members es hlast =>
    have hall : Table.ofList es = t :=
      Table.ext_get? fun k => by rw [Table.get?_ofList, find?_eq_lookup, hlast]
    have hread := Codec.textTable_read es rest
    rw [hall] at hread
    exact Reader.map_of_ok (fun t? => t?.getD .empty) (Reader.map_of_ok some hread)

/-- Experiments are read as they are shown, and null as none. -/
theorem read_experiments {t : Table String Unit} {v : Value} (h : ShowsExperiments t v)
    (rest : List Token) :
    (Codec.nullAs .empty .textSet).read (v.tokens ++ rest) = .ok (t, rest) := by
  cases h with
  | null hempty =>
    subst hempty
    rfl
  | @items ss hlisted =>
    have hall : Table.ofList (ss.map (·, ())) = t := by
      refine Table.ext_contains fun s => ?_
      rw [← hlisted s, Table.contains, Table.get?_ofList]
      simp
    have hread := Codec.text_faithful.list.read_write ss rest
    have hset := Reader.map_of_ok (fun ss => Table.ofList (ss.map (·, ()))) hread
    rw [hall] at hset
    exact Reader.map_of_ok (fun t? => t?.getD .empty) (Reader.map_of_ok some hset)

/-! ## Reading the members -/

/-- The tuning with the named fields only; the others have their defaults. -/
def only (c : Tuning) (names : List String) : Tuning where
  projectId := if "projectId" ∈ names then c.projectId else ""
  jobName := if "jobName" ∈ names then c.jobName else ""
  location := if "location" ∈ names then c.location else ""
  vpcHostProjectId := if "vpcHostProjectId" ∈ names then c.vpcHostProjectId else ""
  network := if "network" ∈ names then c.network else ""
  subnetwork := if "subnetwork" ∈ names then c.subnetwork else ""
  maxWorkers := if "maxWorkers" ∈ names then c.maxWorkers else 0
  numWorkers := if "numWorkers" ∈ names then c.numWorkers else 0
  serviceAccountEmail := if "serviceAccountEmail" ∈ names then c.serviceAccountEmail else ""
  machineType := if "machineType" ∈ names then c.machineType else ""
  labels := if "additionalUserLabels" ∈ names then c.labels else .empty
  kmsKeyName := if "kmsKeyName" ∈ names then c.kmsKeyName else ""
  templatePath := if "gcsTemplatePath" ∈ names then c.templatePath else ""
  experiments := if "additionalExperiments" ∈ names then c.experiments else .empty
  streamingEngine := if "enableStreamingEngine" ∈ names then c.streamingEngine else false

/-- The slot reads the field: whatever shows it adds it to the fields that are there. -/
structure Field.ReadBy (c : Tuning) (f : Field) (slot : Slot Tuning) : Prop where
  name : slot.name = f.name
  read : ∀ v, f.Shows c v → ∃ set, (∀ rest, slot.read (v.tokens ++ rest) = .ok (set, rest)) ∧
    ∀ names, set (c.only names) = c.only (f.name :: names)

/-- A field is read by a member that has its name, its codec and its place. -/
theorem Field.readBy {α : Type} {codec : Codec α} {shows : α → Value → Prop} {c : Tuning}
    {name : String} {get : Tuning → α} {set : α → Tuning → Tuning}
    (hread : ∀ {a v}, shows a v → ∀ rest, codec.read (v.tokens ++ rest) = .ok (a, rest))
    (hset : ∀ names, set (get c) (c.only names) = c.only (name :: names)) :
    ReadBy c (.of name get shows) (.required name codec get set) where
  name := rfl
  read _ hv := ⟨set (get c), fun rest => Reader.map_of_ok set (hread hv rest), hset⟩

/-- The slots of the record read the fields, in the same order. -/
theorem fields_readBy (c : Tuning) : List.Forall₂ (Field.ReadBy c) fields record.slots := by
  iterate 6 refine .cons (Field.readBy read_text fun _ => by simp [only]) ?_
  iterate 2 refine .cons (Field.readBy read_count fun _ => by simp [only]) ?_
  iterate 2 refine .cons (Field.readBy read_text fun _ => by simp [only]) ?_
  refine .cons (Field.readBy read_labels fun _ => by simp [only]) ?_
  iterate 2 refine .cons (Field.readBy read_text fun _ => by simp [only]) ?_
  refine .cons (Field.readBy read_experiments fun _ => by simp [only]) ?_
  exact .cons (Field.readBy read_flag fun _ => by simp [only]) .nil

/-- Every field of the layout has its member in the record. -/
theorem exists_slot (c : Tuning) {f : Field} (hf : f ∈ fields) :
    ∃ slot ∈ record.slots, f.ReadBy c slot := by
  have hreadBy := fields_readBy c
  generalize record.slots = slots at hreadBy ⊢
  generalize fields = fields at hf hreadBy
  induction hreadBy with
  | nil => exact absurd hf List.not_mem_nil
  | @cons g slot _ slots hfirst _ ih =>
    rcases List.mem_cons.1 hf with rfl | hlater
    · exact ⟨slot, List.mem_cons_self, hfirst⟩
    · obtain ⟨slot', hslot', hread⟩ := ih hlater
      exact ⟨slot', List.mem_cons_of_mem slot hslot', hread⟩

/-- Different fields have different names. -/
theorem distinct_names : (record.slots.map Slot.name).Nodup := by decide

/-- The fields that are left out have their defaults anyway. -/
theorem only_eq {c : Tuning} {names : List String}
    (h : ∀ f ∈ fields, f.name ∉ names → f.Unset c) : c.only names = c := by
  have hfield {α : Type} {p : Prop} [Decidable p] {a b : α} (h : ¬p → a = b) :
      (if p then a else b) = a := by
    split
    next => rfl
    next hp => exact (h hp).symm
  simp only [fields, Field.of, List.forall_mem_cons] at h
  obtain ⟨h₁, h₂, h₃, h₄, h₅, h₆, h₇, h₈, h₉, h₁₀, h₁₁, h₁₂, h₁₃, h₁₄, h₁₅, -⟩ := h
  cases c
  rw [only, mk.injEq]
  exact ⟨hfield h₁, hfield h₂, hfield h₃, hfield h₄, hfield h₅, hfield h₆, hfield h₇, hfield h₈,
    hfield h₉, hfield h₁₀, hfield h₁₁, hfield h₁₂, hfield h₁₃, hfield h₁₄, hfield h₁₅⟩

variable {c : Tuning} {ms : List (String × Value)}

/-- The member of a field adds the field. -/
theorem member_field {f : Field} (hf : f ∈ fields) {v : Value} (hshows : f.Shows c v)
    {seen : List String} (hnew : f.name ∉ seen) (rest : List Token) :
    record.member Record.ignoreOther f.name ⟨seen, c.only seen, ()⟩
        (.colon :: (v.tokens ++ rest)) =
      .ok (⟨f.name :: seen, c.only (f.name :: seen), ()⟩, rest) := by
  obtain ⟨slot, hslot, hreadBy⟩ := exists_slot c hf
  obtain ⟨set, hread, hset⟩ := hreadBy.read v hshows
  have hslot? : record.slot? f.name = some slot :=
    hreadBy.name ▸ Record.slot?_of_mem distinct_names hslot
  rw [Record.member, hslot?]
  dsimp only
  rw [if_neg hnew, ← hset seen]
  exact Reader.map_of_ok _ (hread rest)

/-- Another member adds nothing. -/
theorem member_other {name : String} (hname : name ∉ fields.map Field.name) (v : Value)
    (p : Record.Progress Tuning Unit) (rest : List Token) :
    record.member Record.ignoreOther name p (.colon :: (v.tokens ++ rest)) = .ok (p, rest) := by
  have hslot? : record.slot? name = none := Record.slot?_eq_none hname
  rw [Record.member, hslot?]
  exact Reader.map_of_ok _ (Reader.ignore_tokens v rest)

/-- The fields that the members show. -/
def shownNames (ms : List (String × Value)) : List String :=
  (ms.map Prod.fst).filter fun name => name ∈ fields.map Field.name

/-- A name is shown if it is among the members and is one of a field. -/
theorem mem_shownNames {name : String} :
    name ∈ shownNames ms ↔ name ∈ ms.map Prod.fst ∧ name ∈ fields.map Field.name := by
  rw [shownNames, List.mem_filter, decide_eq_true_iff]

/-- Read one after another, the members add the fields that they show. -/
theorem takes_members (hshown : ∀ f ∈ fields, ∀ v, (f.name, v) ∈ ms → f.Shows c v)
    (honce : (shownNames ms).Nodup) {seen : List String}
    (hfresh : ∀ name ∈ shownNames ms, name ∉ seen) :
    Reader.Takes (record.member Record.ignoreOther) ms ⟨seen, c.only seen, ()⟩
      ⟨(shownNames ms).reverse ++ seen, c.only ((shownNames ms).reverse ++ seen), ()⟩ := by
  -- The fields seen so far decide what is filled in, so the invariant is `c.only seen`.
  induction ms generalizing seen with
  | nil => exact .nil
  | cons m ms ih =>
    have hshown' : ∀ f ∈ fields, ∀ v, (f.name, v) ∈ ms → f.Shows c v :=
      fun f hf v hv => hshown f hf v (List.mem_cons_of_mem m hv)
    by_cases hknown : m.1 ∈ fields.map Field.name
    · have hnames : shownNames (m :: ms) = m.1 :: shownNames ms :=
        List.filter_cons_of_pos (decide_eq_true hknown)
      rw [hnames] at honce hfresh ⊢
      rw [List.nodup_cons] at honce
      rw [List.forall_mem_cons] at hfresh
      have hlater : ∀ name ∈ shownNames ms, name ∉ m.1 :: seen := fun name hname => by
        rw [List.mem_cons, not_or]
        exact ⟨fun heq => honce.1 (heq ▸ hname), hfresh.2 name hname⟩
      obtain ⟨f, hf, hname⟩ := List.mem_map.1 hknown
      have hshows : f.Shows c m.2 := hshown f hf m.2 (hname ▸ List.mem_cons_self)
      rw [List.reverse_cons, List.append_assoc, List.singleton_append]
      refine .cons (fun rest => ?_) (ih hshown' honce.2 hlater)
      rw [← hname]
      exact member_field hf hshows (hname ▸ hfresh.1) rest
    · have hnames : shownNames (m :: ms) = shownNames ms :=
        List.filter_cons_of_neg fun h => hknown (of_decide_eq_true h)
      rw [hnames] at honce hfresh ⊢
      exact .cons (member_other hknown m.2 _) (ih hshown' honce hfresh)

namespace Presents

/-- A tuning that is presented shows each field at most once. -/
theorem nodup_shownNames (h : Presents c ms) : (shownNames ms).Nodup := by
  rw [List.nodup_iff_count_le_one]
  intro name
  by_cases hknown : name ∈ fields.map Field.name
  · obtain ⟨f, hf, rfl⟩ := List.mem_map.1 hknown
    exact Nat.le_trans (List.filter_sublist.count_le f.name) (h.once f hf)
  · have habsent : name ∉ shownNames ms := fun hmem => hknown (mem_shownNames.1 hmem).2
    rw [List.count_eq_zero.2 habsent]
    exact Nat.zero_le 1

/-- Members that present a tuning are read as the tuning. -/
theorem read_eq (h : Presents c ms) :
    codec.read (Value.object ms).tokens = .ok (c, []) := by
  have htakes : Reader.Takes (record.member Record.ignoreOther) ms ⟨[], c.only [], ()⟩ _ :=
    takes_members h.shown h.nodup_shownNames fun _ _ => List.not_mem_nil
  have hall : c.only ((shownNames ms).reverse ++ []) = c := by
    refine only_eq fun f hf habsent => h.omitted f hf fun hmem => habsent ?_
    rw [List.append_nil, List.mem_reverse, mem_shownNames]
    exact ⟨hmem, List.mem_map_of_mem hf⟩
  rw [hall] at htakes
  have hread := Record.reader_eq htakes rfl []
  rw [List.append_nil] at hread
  exact Reader.map_of_ok Prod.fst hread

end Presents

/-! ## Tuning files -/

/-- A text with an opening brace is not blank. -/
theorem not_blank {s : String} (h : '{' ∈ s.toList) :
    (Text.utf8 s).all isBlankByte = false := by
  have hbyte : 0x7b ∈ Text.utf8 s := List.mem_flatMap.2 ⟨'{', h, by decide⟩
  exact List.all_eq_false.2 ⟨0x7b, hbyte, by decide⟩

/-- Every text of members that present a tuning is read as the tuning. -/
theorem parse_presented {c : Tuning} {ms : List (String × Value)} {s : String}
    (hpresents : Presents c ms) (htext : Typeset s.toList (Value.object ms).tokens) :
    parse (Text.utf8 s) = .ok c := by
  have hbrace : '{' ∈ s.toList :=
    htext.mem_of_mark List.mem_cons_self .openBrace List.mem_cons_self
  rw [parse, not_blank hbrace]
  show codec.decode _ = _
  rw [Codec.decode, Reader.bytes, Reader.document, Value.tokens_of_typeset htext,
    hpresents.read_eq]

/-- A file with a member of its own in front, an escape in it, spaces, experiments and a label that
repeat themselves, and fields that are left out. -/
theorem parse_presented_of_shuffled :
    let c : Tuning := {
      jobName := "j"
      labels := .ofList [("k", "2")]
      experiments := .ofList [("a", ()), ("b", ())] }
    let ms : List (String × Value) := [
      ("note", .number ⟨false, ['1'], ['5'], some ⟨true, .plus, ['3']⟩⟩),
      ("additionalExperiments", .array [.text "b", .text "a", .text "b"]),
      ("additionalUserLabels", .object [("k", .text "1"), ("k", .text "2")]),
      ("jobName", .text "j"),
      ("inner", .object [("jobName", .array [.null])])]
    let s := "\x7b\"n\\u006fte\" :\n1.5E+3,\"additionalExperiments\":[\"b\",\"a\",\"b\"]," ++
      "\"additionalUserLabels\":\x7b\"k\":\"1\",\"k\":\"2\"\x7d,\"jobName\":\"j\"," ++
      "\"inner\":\x7b\"jobName\":[null]\x7d\x7d"
    Presents c ms ∧ Typeset s.toList (Value.object ms).tokens ∧ parse (Text.utf8 s) = .ok c := by
  intro c ms s
  have hexperiments :
      ShowsExperiments c.experiments (.array [.text "b", .text "a", .text "b"]) := by
    refine @ShowsExperiments.items c.experiments ["b", "a", "b"] fun name => ?_
    rw [Table.contains, Table.get?_ofList]
    by_cases ha : name = "a" <;> by_cases hb : name = "b" <;> simp [ha, hb]
  have hlabels : ShowsLabels c.labels (.object [("k", .text "1"), ("k", .text "2")]) := by
    refine @ShowsLabels.members c.labels [("k", "1"), ("k", "2")] fun key => ?_
    rw [Table.get?_ofList]
    by_cases hk : key = "k"
    · subst hk
      rfl
    · simp [List.lookup_cons, beq_eq_false_iff_ne.2 hk, hk]
  have hpresents : Presents c ms := {
    shown := by simp [fields, Field.of, ms, ShowsText, hexperiments, hlabels, c]
    once := by decide
    omitted := by simp [fields, Field.of, ms, c] }
  have htext : Typeset s.toList (Value.object ms).tokens := by
    have hplain {c : Char} (h : c ≠ '"' ∧ c ≠ '\\' ∧ ¬c < ' ') : Json.Literal.Stands c [c] :=
      .itself h.1 h.2.1 h.2.2
    have ho : Json.Literal.CodeUnit ['0', '0', '6', 'f'] (16 * (16 * (16 * 0 + 0) + 6) + 15) :=
      .digits (.inl rfl) (.inl rfl) (.inl rfl) (.inl rfl)
    have hnote : Json.Literal.Spells ['n', 'o', 't', 'e'] _ :=
      .cons (hplain (by decide)) <| .cons (.unit ho) <| .cons (hplain (by decide)) <|
        .cons (hplain (by decide)) .nil
    have hnumber : Json.Numeral.WellFormed ⟨false, ['1'], ['5'], some ⟨true, .plus, ['3']⟩⟩ := by
      constructor <;> simp [Json.IsDigits, Text.Decimal.isDigit]
    have hlater : ∀ t ∈ Value.memberTokens false ms.tail, t.Written := by
      simp [ms, Value.memberTokens, Value.tokens, Value.itemTokens, Token.Written]
    have hrest := Typeset.written hlater .nil
    have hspelled {cs : List Char} (hcs : cs = s.toList)
        (h : Typeset cs (Value.object ms).tokens) : Typeset s.toList (Value.object ms).tokens :=
      hcs ▸ h
    refine hspelled ?_ (.token (.mark .openBrace) <| .token (.text (s := "note") hnote) <|
      .blank (c := ' ') rfl <| .token (.mark .colon) <| .blank (c := '\n') rfl <|
        .token (.number hnumber) hrest)
    decide +kernel
  exact ⟨hpresents, htext, parse_presented hpresents htext⟩

end Tuning

end ReverseReplication
