import ReverseReplication.Proofs.Command.Flags
import ReverseReplication.Proofs.Json.Spelling

/-!
# What a command tells about its launch

A command is shown in the place of a launch, so two launches should be shown alike only if they
agree on what is shown (`Launch.Agrees`). They do where no text in them passes for more than it is
(`Launch.Plain`): no flag begins inside a text, and no separator of a list stands inside its items
(`Launch.command_eq_iff`). Nothing is quoted in a command, so other launches may be shown alike
although they differ (`Launch.command_eq_of_relabelled`).
-/

namespace ReverseReplication.Launch

open ReverseReplication.Text (Decimal.digits Decimal.ofInt Decimal.value_digits)

/-! ## Values -/

/-- The value of a flag for a text. -/
def textValue? (s : String) : Option String := if s = "" then none else some s

/-- The value of a flag for a count. -/
def countValue? (n : Int32) : Option String :=
  if 0 < n then some (String.ofList (Decimal.ofInt n.toInt)) else none

/-- The value of a flag for a list. -/
def listValue? (items : List String) : Option String :=
  if items = [] then none else some (",".intercalate items)

/-- The value of a flag for a table. -/
def tableValue? (t : Table String String) : Option String :=
  if t.isEmpty then none else some (assignments t)

/-- What is shown of a text tells which text it is. -/
theorem textValue?_injective {s t : String} (h : textValue? s = textValue? t) : s = t := by
  unfold textValue? at h
  split at h <;> split at h <;> simp_all

/-- A positive count is known from its digits. -/
theorem ofInt_of_pos {n : Int32} (h : 0 < n) :
    Decimal.ofInt n.toInt = Decimal.digits n.toInt.natAbs ∧ (n.toInt.natAbs : Int) = n.toInt := by
  have hpos : 0 < n.toInt := by simpa using Int32.lt_iff_toInt_lt.1 h
  exact ⟨by simp [Decimal.ofInt, Int.le_of_lt hpos], by omega⟩

/-- What is shown of a count tells which positive count it is; all others are left out. -/
theorem countValue?_injective {m n : Int32} (h : countValue? m = countValue? n) :
    0 < m ∨ 0 < n → m = n := by
  unfold countValue? at h
  by_cases hm : 0 < m <;> by_cases hn : 0 < n <;> simp only [hm, hn, if_true, if_false] at h
  · intro _
    obtain ⟨hdigits, habs⟩ := ofInt_of_pos hm
    obtain ⟨hdigits', habs'⟩ := ofInt_of_pos hn
    rw [Option.some_inj, String.ofList_inj, hdigits, hdigits'] at h
    have hvalues := congrArg Text.Decimal.value h
    rw [Decimal.value_digits, Decimal.value_digits] at hvalues
    rw [← Int32.toInt_inj]
    omega
  · cases h
  · cases h
  · simp [hm, hn]

/-- If no item has a comma, what is shown of a list tells which list it is. -/
theorem listValue?_injective {items items' : List String} (h : ∀ s ∈ items, ',' ∉ s.toList)
    (h' : ∀ s ∈ items', ',' ∉ s.toList) (heq : listValue? items = listValue? items') :
    items = items' := by
  unfold listValue? at heq
  split at heq <;> split at heq
  next hnil hnil' => rw [hnil, hnil']
  next => cases heq
  next => cases heq
  next hne hne' => exact intercalate_comma_injective h h' hne hne' (Option.some.inj heq)

/-- The assignments of the table can be told from each other. -/
def Assignable (t : Table String String) : Prop :=
  ∀ e ∈ t.entries, '=' ∉ e.1.toList ∧ ',' ∉ e.1.toList ∧ ',' ∉ e.2.toList

instance (t : Table String String) : Decidable (Assignable t) :=
  inferInstanceAs (Decidable (∀ e ∈ t.entries, _))

/-- If names and values can be told apart, what is shown of a table tells which table it is. -/
theorem tableValue?_injective {t t' : Table String String} (h : Assignable t) (h' : Assignable t')
    (heq : tableValue? t = tableValue? t') : t = t' := by
  have hitems : ∀ {t : Table String String}, Assignable t →
      ∀ s ∈ t.entries.map (fun e => e.1 ++ "=" ++ e.2), ',' ∉ s.toList := by
    intro t ht s hs
    obtain ⟨e, he, rfl⟩ := List.mem_map.1 hs
    obtain ⟨-, hkey, hvalue⟩ := ht e he
    simp [hkey, hvalue]
  have hlists : listValue? (t.entries.map fun e => e.1 ++ "=" ++ e.2) =
      listValue? (t'.entries.map fun e => e.1 ++ "=" ++ e.2) := by
    simpa [tableValue?, listValue?, Table.isEmpty, assignments] using heq
  have hentries := map_assignment_injective (fun e he => (h e he).1) (fun e he => (h' e he).1)
    (listValue?_injective (hitems h) (hitems h') hlists)
  refine Table.ext_get? fun key => ?_
  rw [Table.get?, Table.get?, hentries]

/-! ## The flags of a launch -/

/-- The flags of a launch, each with its value if it has one. -/
def slots (l : Launch) : List (String × Option String) := [
  ("project=", some l.projectId),
  ("region=", some l.location),
  ("template-file-gcs-location=", some l.templatePath),
  ("num-workers=", countValue? l.environment.numWorkers),
  ("max-workers=", countValue? l.environment.maxWorkers),
  ("worker-machine-type=", textValue? l.environment.machineType),
  ("service-account-email=", textValue? l.environment.serviceAccountEmail),
  ("network=", textValue? l.environment.network),
  ("subnetwork=", textValue? l.environment.subnetwork),
  ("dataflow-kms-key=", textValue? l.environment.kmsKeyName),
  ("additional-experiments=", listValue? l.environment.experiments),
  ("additional-user-labels=", tableValue? l.environment.labels),
  ("enable-streaming-engine", if l.environment.streamingEngine then some "" else none),
  ("parameters ", tableValue? l.parameters)]

/-- Every launch has the same flags in the same order, given or not. -/
theorem map_fst_slots (l : Launch) : l.slots.map Prod.fst = flagNames := rfl

/-- A flag stands in a command as its name and value. -/
theorem toList_flag {name value : String} {given : Bool} {value? : Option String}
    (h : value? = if given then some value else none) :
    (flag name value given).toList = shown (name ++ "=") value? := by
  subst h
  cases given <;> simp [flag, shown, lead]

/-- A flag that is given is written with its value. -/
theorem toList_flag_true (name value : String) :
    (flag name value true).toList = shown (name ++ "=") (some value) :=
  toList_flag rfl

/-- A count is shown as a flag if it is positive. -/
theorem toList_countFlag (name : String) (n : Int32) :
    (countFlag name n).toList = shown (name ++ "=") (countValue? n) :=
  toList_flag (by simp [countValue?])

/-- A text is shown as a flag unless it is empty. -/
theorem toList_textFlag (name value : String) :
    (textFlag name value).toList = shown (name ++ "=") (textValue? value) :=
  toList_flag (by by_cases h : value = "" <;> simp [textValue?, h])

/-- A command is the name of the job with the flags behind it. -/
theorem toList_command (l : Launch) :
    l.command.toList = "gcloud dataflow flex-template run ".toList ++
      (l.jobName.toList ++ written (given l.slots)) := by
  have hexperiments : (flag "additional-experiments" (",".intercalate l.environment.experiments)
      (!l.environment.experiments.isEmpty)).toList =
        shown ("additional-experiments" ++ "=") (listValue? l.environment.experiments) :=
    toList_flag (by cases l.environment.experiments <;> simp [listValue?])
  have hlabels : (flag "additional-user-labels" (assignments l.environment.labels)
      (!l.environment.labels.isEmpty)).toList =
        shown ("additional-user-labels" ++ "=") (tableValue? l.environment.labels) :=
    toList_flag (by cases h : l.environment.labels.isEmpty <;> simp [tableValue?, h])
  have hstreaming : (if l.environment.streamingEngine then " --enable-streaming-engine"
      else "").toList = shown "enable-streaming-engine"
        (if l.environment.streamingEngine then some "" else none) := by
    cases l.environment.streamingEngine <;> rfl
  have hparameters : (if l.parameters.isEmpty then ""
      else " --parameters " ++ assignments l.parameters).toList =
        shown "parameters " (tableValue? l.parameters) := by
    cases h : l.parameters.isEmpty <;> simp [tableValue?, shown, lead, h]
  have hnone : written (given []) = [] := rfl
  unfold command
  simp only [String.toList_append, hexperiments, hlabels, hstreaming, hparameters,
    toList_countFlag, toList_textFlag, toList_flag_true, slots, written_given_cons, hnone,
    List.append_nil, List.append_assoc, String.reduceAppend]

/-! ## Plain launches -/

/-- The texts that a command shows in front of its last flag. -/
def texts (l : Launch) : List String :=
  [l.jobName, l.projectId, l.location, l.templatePath, l.environment.machineType,
      l.environment.serviceAccountEmail, l.environment.network, l.environment.subnetwork,
      l.environment.kmsKeyName]
    ++ l.environment.experiments ++ l.environment.labels.entries.flatMap fun e => [e.1, e.2]

/-- No text passes for more than it is when it is shown in a command. -/
structure Plain (l : Launch) : Prop where
  unflagged : ∀ s ∈ l.texts, Unflagged s
  experiments : ∀ s ∈ l.environment.experiments, ',' ∉ s.toList
  labels : Assignable l.environment.labels
  parameters : Assignable l.parameters

/-- A number holds nothing that looks like the begin of a flag. -/
theorem unflagged_of_countValue? {n : Int32} {value : String} (h : countValue? n = some value) :
    Unflagged value := by
  unfold countValue? at h
  split at h
  next hpos =>
    obtain ⟨hdigits, -⟩ := ofInt_of_pos hpos
    rw [hdigits, Option.some_inj] at h
    subst h
    intro hinside
    rw [String.toList_ofList] at hinside
    have hspace : ' ' ∈ Decimal.digits n.toInt.natAbs :=
      hinside.subset (by simp [lead])
    exact absurd (Json.Numeral.isDigit_of_mem_digits hspace) (by decide)
  next => cases h

/-- A text that does not look like flags is shown as such a value. -/
theorem unflagged_of_textValue? {s value : String} (hs : Unflagged s)
    (h : textValue? s = some value) : Unflagged value := by
  unfold textValue? at h
  split at h
  next => cases h
  next => exact Option.some.inj h ▸ hs

/-- Nor does a list whose items do not, since they are joined by commas. -/
theorem unflagged_of_listValue? {items : List String} {value : String}
    (hitems : ∀ s ∈ items, Unflagged s) (h : listValue? items = some value) :
    Unflagged value := by
  unfold listValue? at h
  split at h
  next => cases h
  next => exact Option.some.inj h ▸ unflagged_intercalate hitems

/-- Nor does a table whose names and values do not. -/
theorem unflagged_of_tableValue? {t : Table String String} {value : String}
    (ht : ∀ e ∈ t.entries, Unflagged e.1 ∧ Unflagged e.2) (h : tableValue? t = some value) :
    Unflagged value := by
  unfold tableValue? at h
  split at h
  next => cases h
  next =>
    rw [← Option.some.inj h]
    refine unflagged_intercalate ?_
    intro s hs
    obtain ⟨e, he, rfl⟩ := List.mem_map.1 hs
    exact unflagged_append_equals (ht e he).1 (ht e he).2

variable {l l' : Launch}

/-- No flag begins inside a value of a plain launch that is followed by flags. -/
theorem Plain.unflagged_of_mem_slots (h : l.Plain) :
    ∀ s ∈ l.slots, s.1 ≠ lastName → ∀ value, s.2 = some value → Unflagged value := by
  have htext : ∀ {s value : String}, s ∈ l.texts → some s = some value → Unflagged value :=
    fun hs heq => Option.some.inj heq ▸ h.unflagged _ hs
  have hlabel : ∀ e ∈ l.environment.labels.entries, Unflagged e.1 ∧ Unflagged e.2 := by
    intro e he
    constructor <;> refine h.unflagged _ (List.mem_append_right _ (List.mem_flatMap.2 ⟨e, he, ?_⟩))
    all_goals simp
  simp only [slots, List.forall_mem_cons]
  refine ⟨?project, ?region, ?template, ?numWorkers, ?maxWorkers, ?machineType, ?serviceAccount,
    ?network, ?subnetwork, ?kmsKey, ?experiments, ?labels, ?streamingEngine, ?parameters, nofun⟩
  case project => exact fun _ _ => htext (by simp [texts])
  case region => exact fun _ _ => htext (by simp [texts])
  case template => exact fun _ _ => htext (by simp [texts])
  case numWorkers => exact fun _ _ => unflagged_of_countValue?
  case maxWorkers => exact fun _ _ => unflagged_of_countValue?
  case machineType => exact fun _ _ => unflagged_of_textValue? (h.unflagged _ (by simp [texts]))
  case serviceAccount => exact fun _ _ => unflagged_of_textValue? (h.unflagged _ (by simp [texts]))
  case network => exact fun _ _ => unflagged_of_textValue? (h.unflagged _ (by simp [texts]))
  case subnetwork => exact fun _ _ => unflagged_of_textValue? (h.unflagged _ (by simp [texts]))
  case kmsKey => exact fun _ _ => unflagged_of_textValue? (h.unflagged _ (by simp [texts]))
  case experiments =>
    exact fun _ _ => unflagged_of_listValue? fun s hs => h.unflagged s (by simp [texts, hs])
  case labels => exact fun _ _ => unflagged_of_tableValue? hlabel
  case streamingEngine =>
    intro _ value hvalue
    split at hvalue
    next => exact Option.some.inj hvalue ▸ by decide
    next => cases hvalue
  case parameters => exact fun hname => absurd rfl hname

/-- The flags of a plain launch can be read. -/
theorem Plain.legible (h : l.Plain) : Legible (given l.slots) where
  named := by
    intro f hf
    rw [← map_fst_slots l]
    exact List.mem_map.2 ⟨_, mem_given.1 hf, rfl⟩
  unflagged := fun f hf hname => h.unflagged_of_mem_slots _ (mem_given.1 hf) hname _ rfl
  last := by
    have hnames : l.slots.Pairwise fun s _ => s.1 ≠ lastName := by
      have hlast : flagNames.Pairwise fun name _ => name ≠ lastName := by decide
      rw [← map_fst_slots l] at hlast
      exact List.pairwise_map.1 hlast
    refine hnames.filterMap _ ?_
    rintro s _ hs f hf _ -
    obtain ⟨value, -, rfl⟩ := Option.map_eq_some_iff.1 hf
    exact hs

/-! ## Agreement -/

/-- The launches agree on all that a command shows. -/
structure Agrees (l l' : Launch) : Prop where
  projectId : l.projectId = l'.projectId
  location : l.location = l'.location
  jobName : l.jobName = l'.jobName
  templatePath : l.templatePath = l'.templatePath
  parameters : l.parameters = l'.parameters
  labels : l.environment.labels = l'.environment.labels
  experiments : l.environment.experiments = l'.environment.experiments
  machineType : l.environment.machineType = l'.environment.machineType
  serviceAccountEmail : l.environment.serviceAccountEmail = l'.environment.serviceAccountEmail
  network : l.environment.network = l'.environment.network
  subnetwork : l.environment.subnetwork = l'.environment.subnetwork
  kmsKeyName : l.environment.kmsKeyName = l'.environment.kmsKeyName
  streamingEngine : l.environment.streamingEngine = l'.environment.streamingEngine
  numWorkers : 0 < l.environment.numWorkers ∨ 0 < l'.environment.numWorkers →
    l.environment.numWorkers = l'.environment.numWorkers
  maxWorkers : 0 < l.environment.maxWorkers ∨ 0 < l'.environment.maxWorkers →
    l.environment.maxWorkers = l'.environment.maxWorkers

/-- Plain launches with the same flags agree. -/
theorem agrees_of_slots (h : l.Plain) (h' : l'.Plain) (hname : l.jobName = l'.jobName)
    (heq : l.slots = l'.slots) : l.Agrees l' := by
  simp only [slots, List.cons.injEq, Prod.mk.injEq, Option.some.injEq, true_and, and_true] at heq
  obtain ⟨hproject, hlocation, htemplate, hnum, hmax, hmachine, haccount, hnetwork, hsubnetwork,
    hkms, hexperiments, hlabels, hstreaming, hparameters⟩ := heq
  exact {
    projectId := hproject
    location := hlocation
    jobName := hname
    templatePath := htemplate
    parameters := tableValue?_injective h.parameters h'.parameters hparameters
    labels := tableValue?_injective h.labels h'.labels hlabels
    experiments := listValue?_injective h.experiments h'.experiments hexperiments
    machineType := textValue?_injective hmachine
    serviceAccountEmail := textValue?_injective haccount
    network := textValue?_injective hnetwork
    subnetwork := textValue?_injective hsubnetwork
    kmsKeyName := textValue?_injective hkms
    streamingEngine := by
      cases hl : l.environment.streamingEngine <;>
        cases hl' : l'.environment.streamingEngine <;> simp [hl, hl'] at hstreaming ⊢
    numWorkers := countValue?_injective hnum
    maxWorkers := countValue?_injective hmax }

/-- Counts that agree wherever one is positive are shown alike. -/
theorem countValue?_congr {m n : Int32} (h : 0 < m ∨ 0 < n → m = n) :
    countValue? m = countValue? n := by
  by_cases hpos : 0 < m ∨ 0 < n
  · rw [h hpos]
  · obtain ⟨hm, hn⟩ := not_or.1 hpos
    rw [countValue?, countValue?, if_neg hm, if_neg hn]

/-- Launches that agree have the same flags. -/
theorem Agrees.slots_eq (h : l.Agrees l') : l.slots = l'.slots := by
  unfold slots
  rw [h.projectId, h.location, h.templatePath, h.parameters, h.labels, h.experiments,
    h.machineType, h.serviceAccountEmail, h.network, h.subnetwork, h.kmsKeyName, h.streamingEngine,
    countValue?_congr h.numWorkers, countValue?_congr h.maxWorkers]

/-- Plain launches are shown by the same command only if they agree on all that it shows. -/
theorem command_eq_iff (h : l.Plain) (h' : l'.Plain) : l.command = l'.command ↔ l.Agrees l' := by
  constructor
  · intro heq
    rw [← String.toList_inj, toList_command, toList_command] at heq
    obtain ⟨hname, hflags⟩ := append_inj_of_unflagged (h.unflagged _ (by simp [texts]))
      (h'.unflagged _ (by simp [texts])) (resumes_written _) (resumes_written _)
      (List.append_cancel_left heq)
    have hnames : l.slots.map Prod.fst = l'.slots.map Prod.fst := by
      rw [map_fst_slots, map_fst_slots]
    have hnodup : (l.slots.map Prod.fst).Nodup := by
      rw [map_fst_slots]
      decide
    exact agrees_of_slots h h' hname (given_injective hnames hnodup
      (written_injective h.legible h'.legible hflags))
  · intro hagrees
    rw [← String.toList_inj, toList_command, toList_command, hagrees.jobName, hagrees.slots_eq]

/-- Two launches with a label each. They differ in a number of workers, but in neither is it
positive. A third one has another label. -/
theorem command_eq_iff_of_labelled :
    let parameters : Parameters := .ofList [("runMode", "regular")]
    let launch (n : Int32) (label : String) : Launch := ofTuning parameters {
      projectId := "p1", jobName := "job", location := "us-central1"
      templatePath := "gs://templates/reader", numWorkers := n, maxWorkers := 5
      labels := .ofList [("team", label)] }
    (launch 0 "data").Plain ∧ (launch (-3) "data").Plain ∧ (launch 0 "ops").Plain ∧
      (launch 0 "data").Agrees (launch (-3) "data") ∧
      (launch 0 "data").command ≠ (launch 0 "ops").command := by
  intro parameters launch
  have hfirst : (launch 0 "data").Plain := by constructor <;> decide +kernel
  have hsecond : (launch (-3) "data").Plain := by constructor <;> decide +kernel
  have hthird : (launch 0 "ops").Plain := by constructor <;> decide +kernel
  refine ⟨hfirst, hsecond, hthird, (command_eq_iff hfirst hsecond).1 (by decide +kernel), ?_⟩
  intro heq
  exact absurd ((command_eq_iff hfirst hthird).1 heq).labels (by decide +kernel)

/-- Launches that differ and have the same command: a label whose value goes on behind a comma looks
like two labels, and a flag in the name of a job looks like one of the launch. -/
theorem command_eq_of_relabelled :
    let tuning (projectId jobName : String) (labels : List (String × String)) : Tuning := {
      projectId, jobName, location := "us-central1", templatePath := "gs://templates/reader"
      labels := .ofList labels }
    (∃ l l' : Launch, make .empty (tuning "p1" "job" [("a", "1,b=2")]) = .ok l ∧
      make .empty (tuning "p1" "job" [("a", "1"), ("b", "2")]) = .ok l' ∧
      l.command = l'.command ∧ l.environment.labels ≠ l'.environment.labels) ∧
    ∃ l l' : Launch, make .empty (tuning "p1" "job --project=p0" []) = .ok l ∧
      make .empty (tuning "p0 --project=p1" "job" []) = .ok l' ∧
      l.command = l'.command ∧ l.projectId ≠ l'.projectId := by
  intro tuning
  exact ⟨⟨_, _, rfl, rfl, by decide +kernel, by decide +kernel⟩,
    ⟨_, _, rfl, rfl, by decide +kernel, by decide +kernel⟩⟩

end ReverseReplication.Launch
