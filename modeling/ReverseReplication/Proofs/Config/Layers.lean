import Mathlib.Data.List.Induction
import ReverseReplication.Config.Load
import ReverseReplication.Proofs.Normalization.Lookup

/-!
# The environment lies over the environment file

Loading an environment file changes the environment line by line, and a line may refer to what lines
before it have set. What comes of this is one look-up in two layers (`layered`): a variable has the
value that the process environment gives it, or else the value of the first line that assigns it.
The values of the lines are given by `Environment.Assigns`, which looks references up in the same
two layers and knows of no environment that changes.

The induction is on the lines, from the first to the last (`Environment.Assigns.loadLines`). That a
line can be read does not depend on what its references stand for (`EnvFile.Readable.assignment`),
so a file whose lines can be read makes assignments in every environment. The main statement is
`Config.load_layered`.
-/

namespace ReverseReplication

/-- A variable as `outer` sets it, or else as the first of the assignments does. -/
def layered (outer : String → Option String) (assigned : List (String × String)) (name : String) :
    Option String :=
  (outer name).or (assigned.lookup name)

/-! ## Lines that can be read -/

namespace EnvFile

/-- The line can be read, if no variable is set. -/
def Readable (line : String) : Prop := ∃ a?, assignment (fun _ => []) line = .ok a?

instance (line : String) : Decidable (Readable line) :=
  match h : assignment (fun _ => []) line with
  | .ok a? => .isTrue ⟨a?, h⟩
  | .error _ => .isFalse fun ⟨_, ha⟩ => nomatch h.symm.trans ha

variable {look : String → List Char} {mode : Mode} {cs v : List Char}

/-- What references stand for has no bearing on how a value is read. -/
theorem step_eq_or_go (look look' : String → List Char) (mode : Mode) (c : Char) :
    step look' mode c = step look mode c ∨
      ∃ add add' mode', step look mode c = .go add mode' ∧ step look' mode c = .go add' mode' := by
  cases mode with
  | reference inQuotes name =>
    by_cases hletter : Text.isAlphanumeric c
    · simp only [step, if_pos hletter, true_or]
    · by_cases hbrace : c = '\x7b' ∧ name = []
      · simp only [step, if_neg hletter, if_pos hbrace, true_or]
      · by_cases hdollar : c = '$'
        · simp only [step, if_neg hletter, if_neg hbrace, if_pos hdollar]
          exact .inr ⟨_, _, _, rfl, rfl⟩
        · simp only [step, if_neg hletter, if_neg hbrace, if_neg hdollar]
          exact .inr ⟨_, _, _, rfl, rfl⟩
  | braced inQuotes name =>
    by_cases hbrace : c = '\x7d'
    · simp only [step, if_pos hbrace]
      exact .inr ⟨_, _, _, rfl, rfl⟩
    · simp only [step, if_neg hbrace, true_or]
  | _ => exact .inl rfl

/-- Whether a value may end in a mode does not depend on what references stand for. -/
theorem atEnd_readable (h : atEnd look mode = .ok v) (look' : String → List Char) :
    ∃ v', atEnd look' mode = .ok v' := by
  cases mode with
  | escape inQuotes =>
    cases inQuotes with
    | true => cases h
    | false => exact ⟨_, rfl⟩
  | reference inQuotes name =>
    cases inQuotes with
    | true => cases h
    | false => exact ⟨_, rfl⟩
  | bare => exact ⟨_, rfl⟩
  | ended => exact ⟨_, rfl⟩
  | literal => cases h
  | quoted => cases h
  | braced => cases h

/-- A value that can be read in one environment can be read in every other, from any place in it. -/
theorem valueFrom_readable {index : Nat} (h : valueFrom look mode index cs = .ok v)
    (look' : String → List Char) : ∃ v', valueFrom look' mode index cs = .ok v' := by
  induction cs generalizing mode index v with
  | nil => exact atEnd_readable h look'
  | cons c cs ih =>
    rw [valueFrom] at h ⊢
    rcases step_eq_or_go look look' mode c with hstep | ⟨add, add', mode', hgo, hgo'⟩
    · rw [hstep]
      cases hread : step look mode c with
      | go add mode' =>
        simp only [hread, map_eq_ok_iff] at h ⊢
        obtain ⟨w, hw, -⟩ := h
        obtain ⟨w', hw'⟩ := ih hw
        exact ⟨_, w', hw', rfl⟩
      | comment => exact ⟨_, rfl⟩
      | refuse =>
        rw [hread] at h
        cases h
    · simp only [hgo, hgo', map_eq_ok_iff] at h ⊢
      obtain ⟨w, hw, -⟩ := h
      obtain ⟨w', hw'⟩ := ih hw
      exact ⟨_, w', hw', rfl⟩

/-- A value that can be read in one environment can be read in every other. -/
theorem value_readable {s : String} (h : value look cs = .ok s) (look' : String → List Char) :
    ∃ s', value look' cs = .ok s' := by
  unfold value at h
  split at h
  next v hv =>
    obtain ⟨v', hv'⟩ := valueFrom_readable hv look'
    exact ⟨_, by rw [value, hv']⟩
  next => cases h
  next => cases h

/-- A line that can be read can be read whatever the variables are. -/
theorem Readable.assignment {line : String} (h : Readable line) (look : String → List Char) :
    ∃ a?, assignment look line = .ok a? := by
  obtain ⟨a?, h⟩ := h
  unfold EnvFile.assignment at h ⊢
  dsimp only at h ⊢
  split at h
  next => cases h
  next => exact ⟨_, rfl⟩
  next key rest hcut =>
    split at h
    next hcomment =>
      rw [if_pos hcomment]
      exact ⟨_, rfl⟩
    next hcomment =>
      rw [if_neg hcomment]
      obtain ⟨s, hs, -⟩ := map_eq_ok_iff.1 h
      obtain ⟨s', hs'⟩ := value_readable hs look
      exact ⟨_, map_eq_ok_iff.2 ⟨s', hs', rfl⟩⟩

end EnvFile

/-! ## Assignments -/

namespace Environment

/-- What the lines of a file assign, in their order. A reference in a line is looked up in the
environment and, below it, in the assignments of the lines before. -/
inductive Assigns (env : Environment) : List String → List (String × String) → Prop
  | nil : Assigns env [] []
  | line {lines : List String} {as : List (String × String)} {line : String}
      {a? : Option (String × String)} {seen : Environment} (before : Assigns env lines as)
      (looks : seen.get? = layered env.get? as)
      (reads : EnvFile.assignment seen.reference line = .ok a?) :
    Assigns env (lines ++ [line]) (as ++ a?.toList)

variable {env : Environment} {lines : List String} {as : List (String × String)}

/-- Setting a variable that is not set adds a layer below those that are there. -/
theorem get?_setUnset (env : Environment) (name value var : String) :
    (env.setUnset name value).get? var = layered env.get? [(name, value)] var := by
  unfold setUnset layered
  rw [List.lookup_cons, List.lookup_nil]
  split
  next hset =>
    cases hvar : env.get? var with
    | some v => rfl
    | none =>
      have hne : (var == name) = false := by
        rw [beq_eq_false_iff_ne]
        rintro rfl
        rw [Table.contains, hvar] at hset
        cases hset
      rw [hne]
      rfl
  next hunset =>
    rw [Table.get?_insert]
    split
    next heq =>
      subst heq
      rw [Table.contains, Bool.not_eq_true, Option.isSome_eq_false_iff,
        Option.isNone_iff_eq_none] at hunset
      rw [hunset, beq_self_eq_true]
      rfl
    next hne =>
      rw [beq_eq_false_iff_ne.2 hne]
      cases env.get? var <;> rfl

/-- An assignment goes below those that were there. -/
theorem layered_layered (outer : String → Option String) (as as' : List (String × String)) :
    layered (layered outer as) as' = layered outer (as ++ as') := by
  funext name
  rw [layered, layered, layered, List.lookup_append, Option.or_assoc]

/-- The last line is loaded into what the lines before it have made up. -/
theorem loadLines_append (env : Environment) (lines : List String) (line : String) :
    env.loadLines (lines ++ [line]) = env.loadLines lines >>= fun loaded =>
      loaded.loadLines [line] := by
  induction lines generalizing env with
  | nil => rfl
  | cons first lines ih =>
    rw [List.cons_append, loadLines, loadLines]
    split
    next => exact ih env
    next => exact ih _
    next => rfl

/-- Loading lines puts their assignments below the environment. -/
theorem Assigns.loadLines (h : env.Assigns lines as) :
    ∃ loaded, env.loadLines lines = .ok loaded ∧ loaded.get? = layered env.get? as := by
  induction h with
  | nil =>
    refine ⟨env, rfl, funext fun name => ?_⟩
    rw [layered, List.lookup_nil, Option.or_none]
  | @line lines as line a? seen before looks reads ih =>
    obtain ⟨loaded, hloaded, hlooks⟩ := ih
    -- An environment is what can be looked up in it, so there is only one that fits.
    obtain rfl : seen = loaded := Table.ext_get? fun name => by rw [looks, hlooks]
    rw [loadLines_append, hloaded]
    change ∃ loaded', Environment.loadLines seen [line] = .ok loaded' ∧ _
    rw [Environment.loadLines, reads]
    cases a? with
    | none => exact ⟨seen, rfl, by rw [hlooks, Option.toList_none, List.append_nil]⟩
    | some a =>
      refine ⟨seen.setUnset a.1 a.2, rfl, funext fun name => ?_⟩
      rw [get?_setUnset, hlooks, layered_layered]
      rfl

/-- One more line is read in the environment that the lines before it have made. -/
theorem Assigns.append {loaded : Environment} {line : String} (h : env.Assigns lines as)
    (a? : Option (String × String)) (hloaded : env.loadLines lines = .ok loaded)
    (hreads : EnvFile.assignment loaded.reference line = .ok a?) :
    env.Assigns (lines ++ [line]) (as ++ a?.toList) := by
  obtain ⟨loaded', hloaded', hlooks⟩ := h.loadLines
  cases hloaded.symm.trans hloaded'
  exact .line h hlooks hreads

/-- Lines that can be read make assignments, in any environment. -/
theorem exists_assigns (env : Environment) (h : ∀ line ∈ lines, EnvFile.Readable line) :
    ∃ as, env.Assigns lines as := by
  -- From the last line: it is read in the environment that the lines before it have made.
  induction lines using List.reverseRecOn with
  | nil => exact ⟨[], .nil⟩
  | append_singleton lines line ih =>
    obtain ⟨as, has⟩ := ih fun l hl => h l (List.mem_append_left _ hl)
    obtain ⟨loaded, hloaded, -⟩ := has.loadLines
    obtain ⟨a?, hreads⟩ := (h line (by simp)).assignment loaded.reference
    exact ⟨as ++ a?.toList, has.append a? hloaded hreads⟩

end Environment

/-! ## The configuration -/

namespace Config

/-- The configuration that variables describe, if it passes the checks. -/
def checked (look : String → Option String) : Except ConfigError Config := do
  let config ← ofVariables look
  config.validate
  pure config

/-- What has been read and checked is valid. -/
theorem validate_of_checked {look : String → Option String} {c : Config}
    (h : checked look = .ok c) : c.validate = .ok () := by
  obtain ⟨read, -, hchecked⟩ := bind_eq_ok_iff.1 h
  obtain ⟨_, hvalid, hread⟩ := bind_eq_ok_iff.1 hchecked
  cases hread
  exact hvalid

/-- Whatever is loaded has passed the checks. -/
theorem validate_of_load {files : FileSystem} {envFile? : Option String} {env : Environment}
    {c : Config} (h : load files envFile? env = .ok c) : c.validate = .ok () := by
  unfold load at h
  split at h
  next => exact validate_of_checked h
  next =>
    split at h
    next => exact validate_of_checked h
    next => cases h

variable {files : FileSystem} {env : Environment} {path text : String}
  {as : List (String × String)}

/-- From a file that can be read, the configuration is what the layers of the environment and of its
assignments give. -/
theorem load_of_assigns (hfile : files path = .ok (Text.utf8 text))
    (has : env.Assigns (EnvFile.lines text.toList) as) :
    load files (some path) env = checked (layered env.get? as) := by
  obtain ⟨loaded, hloaded, hlooks⟩ := has.loadLines
  have hread : loadEnvFile path (files path) env = .ok loaded := by
    rw [hfile, loadEnvFile, Text.decode?_utf8]
    dsimp only
    rw [Environment.load, hloaded]
  rw [load, hread, ← hlooks]
  rfl

/-- Assignments to variables that are set have no bearing. -/
theorem layered_congr {as as' : List (String × String)}
    (h : ∀ name, env.get? name = none → as'.lookup name = as.lookup name) :
    layered env.get? as' = layered env.get? as := by
  funext name
  unfold layered
  cases hname : env.get? name with
  | none => rw [h name hname]
  | some value => rfl

/-- The environment wins over an environment file. If all lines of the file can be read, what is
loaded are the variables in two layers: no variable that is set changes, the first assignments to
the others decide, and whatever is loaded has passed the checks. -/
theorem load_layered (hfile : files path = .ok (Text.utf8 text))
    (hlines : ∀ line ∈ EnvFile.lines text.toList, EnvFile.Readable line) (env : Environment) :
    (∃ as, env.Assigns (EnvFile.lines text.toList) as) ∧
      (∀ as, env.Assigns (EnvFile.lines text.toList) as →
        load files (some path) env = checked (layered env.get? as) ∧
        (∃ loaded, env.load text = .ok loaded ∧ loaded.get? = layered env.get? as ∧
          ∀ name value, env.get? name = some value → loaded.get? name = some value) ∧
        ∀ (files' : FileSystem) path' text' as', files' path' = .ok (Text.utf8 text') →
          env.Assigns (EnvFile.lines text'.toList) as' →
          (∀ name, env.get? name = none → as'.lookup name = as.lookup name) →
          load files' (some path') env = load files (some path) env) ∧
      ∀ c, load files (some path) env = .ok c → c.validate = .ok () := by
  refine ⟨Environment.exists_assigns env hlines, ?_, fun c hc => validate_of_load hc⟩
  intro as has
  refine ⟨load_of_assigns hfile has, ?_, ?_⟩
  · obtain ⟨loaded, hloaded, hlooks⟩ := has.loadLines
    refine ⟨loaded, hloaded, hlooks, fun name value hset => ?_⟩
    rw [hlooks, layered, hset, Option.some_or]
  · intro files' path' text' as' hfile' has' hsame
    rw [load_of_assigns hfile' has', load_of_assigns hfile has, layered_congr hsame]

/-- A file that exports a level, which is set already, and refers to a variable that it has set, is
read like one that assigns a number twice. -/
theorem load_layered_of_exported :
    let text := "export RR_LOG_LEVEL=trace\nDAYS='7'\nRR_STAGING_BUCKET_TTL_DAYS=$DAYS"
    let text' := "DAYS=7\r\nDAYS=8 # a week\nRR_STAGING_BUCKET_TTL_DAYS=\"7\"\n"
    let files : FileSystem := fun path => .ok (Text.utf8 (if path = ".env" then text else text'))
    let env := Environment.ofEntries ["RR_LOG_LEVEL=debug"]
    (∀ line ∈ EnvFile.lines text.toList, EnvFile.Readable line) ∧
      load files (some ".env") env = .ok { logging := ⟨"debug", .text⟩, staging := ⟨7⟩ } ∧
      load files (some "other.env") env = load files (some ".env") env := by
  intro text text' files env
  have hlines : ∀ line ∈ EnvFile.lines text.toList, EnvFile.Readable line := by decide +kernel
  have has : env.Assigns (EnvFile.lines text.toList)
      [("RR_LOG_LEVEL", "trace"), ("DAYS", "7"), ("RR_STAGING_BUCKET_TTL_DAYS", "7")] := by
    have hcut : EnvFile.lines text.toList = [] ++ ["export RR_LOG_LEVEL=trace"] ++ ["DAYS='7'"] ++
        ["RR_STAGING_BUCKET_TTL_DAYS=$DAYS"] := by decide +kernel
    rw [hcut]
    exact Environment.Assigns.nil.append (some _) rfl rfl
      |>.append (some _) rfl rfl |>.append (some _) rfl rfl
  have has' : env.Assigns (EnvFile.lines text'.toList)
      [("DAYS", "7"), ("DAYS", "8"), ("RR_STAGING_BUCKET_TTL_DAYS", "7")] := by
    have hcut : EnvFile.lines text'.toList = [] ++ ["DAYS=7"] ++ ["DAYS=8 # a week"] ++
        ["RR_STAGING_BUCKET_TTL_DAYS=\"7\""] := by decide +kernel
    rw [hcut]
    exact Environment.Assigns.nil.append (some _) rfl rfl
      |>.append (some _) rfl rfl |>.append (some _) rfl rfl
  have hfile : files ".env" = .ok (Text.utf8 text) := rfl
  obtain ⟨-, hload, -⟩ := load_layered hfile hlines env
  obtain ⟨hchecked, -, halike⟩ := hload _ has
  refine ⟨hlines, ?_, halike files "other.env" text' _ rfl has' ?_⟩
  · rw [hchecked]
    decide +kernel
  · intro name hunset
    have hlevel : name ≠ "RR_LOG_LEVEL" := by
      rintro rfl
      cases hunset
    simp only [List.lookup_cons, List.lookup_nil]
    grind

end Config

end ReverseReplication
