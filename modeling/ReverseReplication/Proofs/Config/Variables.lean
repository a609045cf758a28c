import ReverseReplication.Config.Load
import ReverseReplication.Proofs.Normalization.Lookup

/-!
# Variables that are read as they are meant

What the variables of a configuration may be is stated here without the readers: the log format by
its two names, the switch for the rollback by a numeral for zero or one, and the days that staged
files are kept by a numeral of 32 bits, which may have blanks around it. A numeral has a relation of
its own (`Text.Decimal.Denotes`), and so has a text with blanks around it (`Text.Padded`).

A configuration is read exactly if every variable is unset or one of these, and otherwise the first
that is not is named (`Config.ofVariables_strict`). There is one gap: the switch is read like any
number of eight bits, and each but one turns the rollback off. So a two, which is refused in
words, disables it in silence (`Config.ofVariables_lenient`).
-/

namespace ReverseReplication

namespace Text

/-! ## Blanks around a text -/

/-- The characters of a text, with blanks around them. -/
def Padded (core cs : List Char) : Prop :=
  ∃ front back, cs = front ++ core ++ back ∧
    (∀ c ∈ front, isBlank c = true) ∧ ∀ c ∈ back, isBlank c = true

/-- The text begins and ends with characters that are no blanks. -/
structure Solid (core : List Char) : Prop where
  first : ∀ c ∈ core.head?, isBlank c = false
  last : ∀ c ∈ core.getLast?, isBlank c = false

/-- Only blanks are cut off. -/
theorem padded_trim (cs : List Char) : Padded (trim cs) cs := by
  have hblank {cs : List Char} : ∀ c ∈ cs.takeWhile isBlank, isBlank c = true :=
    List.all_eq_true.1 List.all_takeWhile
  refine ⟨cs.takeWhile isBlank, ((trimStart cs).reverse.takeWhile isBlank).reverse, ?_, hblank,
    fun c hc => hblank c (List.mem_reverse.1 hc)⟩
  have hback : trim cs ++ ((trimStart cs).reverse.takeWhile isBlank).reverse = trimStart cs := by
    rw [trim, trimEnd, ← List.reverse_append, List.takeWhile_append_dropWhile, List.reverse_reverse]
  rw [List.append_assoc, hback, trimStart, List.takeWhile_append_dropWhile]

/-- Trimming takes the blanks in front, and stops where something else begins. -/
theorem trimStart_append {front cs : List Char} (hfront : ∀ c ∈ front, isBlank c = true)
    (hfirst : ∀ c ∈ cs.head?, isBlank c = false) : trimStart (front ++ cs) = cs := by
  rw [trimStart, List.dropWhile_append_of_pos hfront]
  cases cs with
  | nil => rfl
  | cons c cs => rw [List.dropWhile_cons_of_neg (by simp [hfirst c rfl])]

/-- All blanks are cut off. -/
theorem Padded.trim_eq {core cs : List Char} (h : Padded core cs) (hsolid : Solid core)
    (hcore : core ≠ []) : trim cs = core := by
  obtain ⟨front, back, rfl, hfront, hback⟩ := h
  have hstart : trimStart (front ++ (core ++ back)) = core ++ back := by
    refine trimStart_append hfront ?_
    rw [List.head?_append_of_ne_nil _ hcore]
    exact hsolid.first
  have hend : trimStart (back.reverse ++ core.reverse) = core.reverse := by
    refine trimStart_append (fun c hc => hback c (List.mem_reverse.1 hc)) ?_
    rw [List.head?_reverse]
    exact hsolid.last
  rw [List.append_assoc, trim, hstart, trimEnd, List.reverse_append]
  rw [trimStart] at hend
  rw [hend, List.reverse_reverse]

end Text

namespace Text.Decimal

/-! ## Numerals -/

/-- An unsigned numeral for a number: digits, which zeros may lead, behind at most one plus sign. -/
inductive Denotes : List Char → Nat → Prop
  | digits {ds : List Char} (some : ds ≠ []) (all : ∀ d ∈ ds, isDigit d = true) :
    Denotes ds (value ds)
  | plus {ds : List Char} (some : ds ≠ []) (all : ∀ d ∈ ds, isDigit d = true) :
    Denotes ('+' :: ds) (value ds)

/-- A numeral is read as its number, up to a limit. -/
theorem unsigned?_eq_some_iff {limit n : Nat} {cs : List Char} :
    unsigned? limit cs = some n ↔ Denotes cs n ∧ n ≤ limit := by
  by_cases hsign : ∃ rest, cs = '+' :: rest
  · obtain ⟨ds, rfl⟩ := hsign
    rw [unsigned?, Option.ite_none_right_eq_some, List.all_eq_true, Option.some.injEq]
    constructor
    · rintro ⟨⟨hsome, hall, hlimit⟩, rfl⟩
      exact ⟨.plus hsome hall, hlimit⟩
    · rintro ⟨hdenotes, hlimit⟩
      cases hdenotes with
      | digits _ hall => cases hall '+' List.mem_cons_self
      | plus hsome hall => exact ⟨⟨hsome, hall, hlimit⟩, rfl⟩
  · have hread : unsigned? limit cs =
        if cs ≠ [] ∧ cs.all isDigit ∧ value cs ≤ limit then some (value cs) else none := by
      unfold unsigned?
      dsimp only
      split
      next rest => exact absurd ⟨rest, rfl⟩ hsign
      next => rfl
    rw [hread, Option.ite_none_right_eq_some, List.all_eq_true, Option.some.injEq]
    constructor
    · rintro ⟨⟨hsome, hall, hlimit⟩, rfl⟩
      exact ⟨.digits hsome hall, hlimit⟩
    · rintro ⟨hdenotes, hlimit⟩
      cases hdenotes with
      | digits hsome hall => exact ⟨⟨hsome, hall, hlimit⟩, rfl⟩
      | plus => exact absurd ⟨_, rfl⟩ hsign

/-- A digit is no blank, so trimming keeps it. -/
theorem isBlank_of_isDigit {c : Char} (h : isDigit c = true) : isBlank c = false := by
  rw [isDigit, Bool.and_eq_true, decide_eq_true_eq, decide_eq_true_eq] at h
  have hcode : 48 ≤ c.toNat ∧ c.toNat ≤ 57 := h
  simp only [isBlank, Bool.or_eq_false_iff, Bool.and_eq_false_iff, decide_eq_false_iff_not,
    beq_eq_false_iff_ne]
  omega

/-- A numeral has no blanks at its ends. -/
theorem Denotes.solid {cs : List Char} {n : Nat} (h : Denotes cs n) : cs ≠ [] ∧ Solid cs := by
  have hends {ds : List Char} (hall : ∀ d ∈ ds, isDigit d = true) :
      ∀ d ∈ ds, isBlank d = false := fun d hd => isBlank_of_isDigit (hall d hd)
  cases h with
  | digits hsome hall =>
    exact ⟨hsome, fun c hc => hends hall c (List.mem_of_mem_head? hc),
      fun c hc => hends hall c (List.mem_of_mem_getLast? hc)⟩
  | @plus ds hsome hall =>
    refine ⟨List.cons_ne_nil _ _, fun c hc => ?_, fun c hc => ?_⟩
    · cases hc
      rfl
    · rw [List.getLast?_cons_of_ne_nil hsome] at hc
      exact hends hall c (List.mem_of_mem_getLast? hc)

/-- A numeral with blanks around it is read as its number, up to a limit. -/
theorem unsigned?_trim_eq_some_iff {limit n : Nat} {cs : List Char} :
    unsigned? limit (trim cs) = some n ↔ ∃ core, Padded core cs ∧ Denotes core n ∧ n ≤ limit := by
  rw [unsigned?_eq_some_iff]
  constructor
  · exact fun h => ⟨trim cs, padded_trim cs, h⟩
  · rintro ⟨core, hpadded, hdenotes, hlimit⟩
    rw [hpadded.trim_eq hdenotes.solid.2 hdenotes.solid.1]
    exact ⟨hdenotes, hlimit⟩

end Text.Decimal

namespace Config

open Text (Padded)
open Text.Decimal (Denotes unsigned?_eq_some_iff unsigned?_trim_eq_some_iff)

/-! ## What variables may be -/

/-- The log format that a variable stands for. -/
inductive FormatValue : Option String → LogFormat → Prop
  | unset : FormatValue none .text
  | text : FormatValue (some "text") .text
  | json : FormatValue (some "json") .json

/-- What the switch for the rollback stands for. -/
inductive SwitchValue : Option String → Bool → Prop
  | unset : SwitchValue none true
  | on {s : String} (numeral : Denotes s.toList 1) : SwitchValue (some s) true
  | off {s : String} (numeral : Denotes s.toList 0) : SwitchValue (some s) false

/-- The number of days that a variable stands for. -/
inductive DaysValue : Option String → UInt32 → Prop
  | unset : DaysValue none 0
  | set {s : String} {core : List Char} {n : UInt32} (padded : Padded core s.toList)
      (numeral : Denotes core n.toNat) : DaysValue (some s) n

/-- The configuration that the variables describe. -/
structure Described (look : String → Option String) (c : Config) : Prop where
  format : FormatValue (look "RR_LOG_FORMAT") c.logging.format
  switch : SwitchValue (look "RR_COMPENSATE_ON_FAILURE") c.rollback.compensateOnFailure
  days : DaysValue (look "RR_STAGING_BUCKET_TTL_DAYS") c.staging.ttlDays
  level : c.logging.level = ((look "RR_LOG_LEVEL").or (look "RUST_LOG")).getD "info"
  reader : c.templates.reader = (look "RR_READER_TEMPLATE_PATH").getD ({} : Templates).reader
  writer : c.templates.writer = (look "RR_WRITER_TEMPLATE_PATH").getD ({} : Templates).writer

/-- The error that names the first variable which stands for nothing. -/
inductive Misdescribed (look : String → Option String) : ConfigError → Prop
  | format {s : String} (set : look "RR_LOG_FORMAT" = some s) (bad : ∀ f, ¬FormatValue (some s) f) :
    Misdescribed look (.invalidValue "RR_LOG_FORMAT" s)
  | switch {f : LogFormat} (format : FormatValue (look "RR_LOG_FORMAT") f)
      (bad : ∀ b, ¬SwitchValue (look "RR_COMPENSATE_ON_FAILURE") b) :
    Misdescribed look (.invalidValue "RR_COMPENSATE_ON_FAILURE" "must be 0 or 1")
  | days {f : LogFormat} {b : Bool} {s : String} (format : FormatValue (look "RR_LOG_FORMAT") f)
      (switch : SwitchValue (look "RR_COMPENSATE_ON_FAILURE") b)
      (set : look "RR_STAGING_BUCKET_TTL_DAYS" = some s) (bad : ∀ n, ¬DaysValue (some s) n) :
    Misdescribed look (.invalidValue "RR_STAGING_BUCKET_TTL_DAYS" s)

/-! ## The readers -/

section results

variable {α β ε : Type} {x : Except ε α} {e : ε}

/-- Two readings fail one after the other: the first does, or the second does on what the first
gave. -/
theorem bind_eq_error_iff {g : α → Except ε β} :
    x >>= g = .error e ↔ x = .error e ∨ ∃ a, x = .ok a ∧ g a = .error e := by
  cases x with
  | error e' => simp [bind, Except.bind]
  | ok a => simp [bind, Except.bind]

/-- Where it is known which values there are, and which error is given for lack of one. -/
theorem eq_error_iff_of_ok_iff {Value : α → Prop} {complaint : ε}
    (hok : ∀ a, x = .ok a ↔ Value a) (herror : ∀ e, x = .error e → e = complaint) :
    x = .error e ↔ (∀ a, ¬Value a) ∧ e = complaint := by
  cases x with
  | error e' =>
    have hnone (a : α) : ¬Value a := fun ha => nomatch (hok a).2 ha
    refine ⟨fun h => ⟨hnone, herror e h⟩, fun h => ?_⟩
    rw [h.2, herror e' rfl]
  | ok a => exact ⟨nofun, fun h => absurd ((hok a).1 rfl) (h.1 a)⟩

end results

section readers

variable {value? : Option String} {s : String} {e : ConfigError}

/-- The known formats are looked up by how they are written. -/
theorem lookup_known_eq_some_iff {f : LogFormat} :
    LogFormat.known.lookup s = some f ↔ s = f.render := by
  simp only [LogFormat.known, List.map_cons, List.map_nil, List.lookup_cons, List.lookup_nil]
  cases f <;> grind [LogFormat.render]

/-- The log format is read from its two names, or is the usual one where the variable is not set. -/
theorem formatOf_eq_ok_iff {f : LogFormat} : formatOf value? = .ok f ↔ FormatValue value? f := by
  constructor
  · intro h
    cases value? with
    | none =>
      cases h
      exact .unset
    | some s =>
      unfold formatOf at h
      dsimp only at h
      split at h
      next f' hknown =>
        cases h
        rw [lookup_known_eq_some_iff.1 hknown]
        cases f with
        | text => exact .text
        | json => exact .json
      next => cases h
  · intro h
    cases h <;> rfl

/-- Any other name is reported, together with the variable and the name. -/
theorem formatOf_eq_error_iff : formatOf value? = .error e ↔ ∃ s, value? = some s ∧
    (∀ f, ¬FormatValue (some s) f) ∧ e = .invalidValue "RR_LOG_FORMAT" s := by
  cases value? with
  | none => exact ⟨nofun, nofun⟩
  | some s =>
    simp only [Option.some.injEq, exists_eq_left']
    refine eq_error_iff_of_ok_iff (fun f => formatOf_eq_ok_iff) fun e' he' => ?_
    unfold formatOf at he'
    dsimp only at he'
    split at he'
    next => cases he'
    next =>
      cases he'
      rfl

/-- As it is, the switch is any number of eight bits, and on only if it is one. -/
theorem rollbackOf_eq_ok_iff {b : Bool} : rollbackOf (some s) = .ok b ↔
    ∃ n, Denotes s.toList n ∧ n ≤ 255 ∧ b = decide (n = 1) := by
  have hread : rollbackOf (some s) = .ok b ↔
      ∃ n, Text.Decimal.unsigned? 255 s.toList = some n ∧ b = decide (n = 1) := by
    unfold rollbackOf
    rw [Option.getD_some]
    cases Text.Decimal.unsigned? 255 s.toList with
    | none => simp
    | some n => simp [eq_comm]
  simp only [hread, unsigned?_eq_some_iff, and_assoc]

/-- The switch is at most one, or no number of eight bits at all. -/
def Strict (value? : Option String) : Prop :=
  ∀ s n, value? = some s → Denotes s.toList n → n ≤ 255 → n ≤ 1

/-- A switch that is read as zero or one is strict. -/
theorem Strict.of_read {n : Nat} (hread : Text.Decimal.unsigned? 255 s.toList = some n)
    (hn : n ≤ 1) : Strict (some s) := by
  rintro _ m ⟨⟩ hdenotes hbits
  rw [unsigned?_eq_some_iff.2 ⟨hdenotes, hbits⟩] at hread
  cases hread
  exact hn

/-- A strict switch is read as on or off exactly where it stands for that. -/
theorem Strict.rollbackOf_eq_ok_iff (h : Strict value?) {b : Bool} :
    rollbackOf value? = .ok b ↔ SwitchValue value? b := by
  cases value? with
  | none =>
    constructor
    · intro hread
      cases hread
      exact .unset
    · intro hvalue
      cases hvalue
      rfl
  | some s =>
    rw [Config.rollbackOf_eq_ok_iff]
    constructor
    · rintro ⟨n, hdenotes, hbits, rfl⟩
      rcases Nat.le_one_iff_eq_zero_or_eq_one.1 (h s n rfl hdenotes hbits) with rfl | rfl
      · exact .off hdenotes
      · exact .on hdenotes
    · intro hvalue
      cases hvalue with
      | on hdenotes => exact ⟨1, hdenotes, by decide, rfl⟩
      | off hdenotes => exact ⟨0, hdenotes, by decide, rfl⟩

/-- A strict switch that stands for neither is reported with the name of its variable. -/
theorem Strict.rollbackOf_eq_error_iff (h : Strict value?) :
    rollbackOf value? = .error e ↔ (∀ b, ¬SwitchValue value? b) ∧
      e = .invalidValue "RR_COMPENSATE_ON_FAILURE" "must be 0 or 1" := by
  refine eq_error_iff_of_ok_iff (fun b => h.rollbackOf_eq_ok_iff) fun e' he' => ?_
  unfold rollbackOf at he'
  split at he'
  next => cases he'
  next =>
    cases he'
    rfl

/-- The number of days is read from decimal digits, with blanks around them. -/
theorem ttlDaysOf_eq_ok_iff {n : UInt32} : ttlDaysOf value? = .ok n ↔ DaysValue value? n := by
  constructor
  · intro h
    cases value? with
    | none =>
      cases h
      exact .unset
    | some s =>
      unfold ttlDaysOf at h
      dsimp only at h
      split at h
      next m hread =>
        cases h
        obtain ⟨core, hpadded, hdenotes, hlimit⟩ := unsigned?_trim_eq_some_iff.1 hread
        have hfits : m < UInt32.size := Nat.lt_of_le_pred (by decide) hlimit
        refine .set hpadded ?_
        rw [UInt32.toNat_ofNat_of_lt' hfits]
        exact hdenotes
      next => cases h
  · intro h
    cases h with
    | unset => rfl
    | set hpadded hdenotes =>
      have hlimit : n.toNat ≤ UInt32.size - 1 := Nat.le_pred_of_lt n.toNat_lt_size
      have hread := unsigned?_trim_eq_some_iff.2 ⟨_, hpadded, hdenotes, hlimit⟩
      simp only [ttlDaysOf, hread, UInt32.ofNat_toNat]

/-- What is no number of days is reported, together with the variable and the text. -/
theorem ttlDaysOf_eq_error_iff : ttlDaysOf value? = .error e ↔ ∃ s, value? = some s ∧
    (∀ n, ¬DaysValue (some s) n) ∧ e = .invalidValue "RR_STAGING_BUCKET_TTL_DAYS" s := by
  cases value? with
  | none => exact ⟨nofun, nofun⟩
  | some s =>
    simp only [Option.some.injEq, exists_eq_left']
    refine eq_error_iff_of_ok_iff (fun n => ttlDaysOf_eq_ok_iff) fun e' he' => ?_
    unfold ttlDaysOf at he'
    dsimp only at he'
    split at he'
    next => cases he'
    next =>
      cases he'
      rfl

end readers

/-! ## The configuration -/

/-- The variables are read in their order. -/
theorem ofVariables_eq (look : String → Option String) : ofVariables look =
    formatOf (look "RR_LOG_FORMAT") >>= fun format =>
      rollbackOf (look "RR_COMPENSATE_ON_FAILURE") >>= fun compensateOnFailure =>
        ttlDaysOf (look "RR_STAGING_BUCKET_TTL_DAYS") >>= fun ttlDays =>
          .ok ⟨⟨((look "RR_LOG_LEVEL").or (look "RUST_LOG")).getD "info", format⟩,
            ⟨compensateOnFailure⟩,
            ⟨(look "RR_READER_TEMPLATE_PATH").getD ({} : Templates).reader,
              (look "RR_WRITER_TEMPLATE_PATH").getD ({} : Templates).writer⟩, ⟨ttlDays⟩⟩ := rfl

/-- Configuration has no silent fallback: it is read exactly if every variable is unset or stands
for something, with what they stand for, and otherwise the first that does not is named. The one
gap is a number from two to 255 as the switch for the rollback. -/
theorem ofVariables_strict {look : String → Option String}
    (h : Strict (look "RR_COMPENSATE_ON_FAILURE")) :
    (∀ c, ofVariables look = .ok c ↔ Described look c) ∧
      ∀ e, ofVariables look = .error e ↔ Misdescribed look e := by
  rw [ofVariables_eq]
  constructor
  · intro c
    simp only [bind_eq_ok_iff, formatOf_eq_ok_iff, h.rollbackOf_eq_ok_iff, ttlDaysOf_eq_ok_iff]
    constructor
    · rintro ⟨format, hformat, switch, hswitch, days, hdays, hc⟩
      cases hc
      exact ⟨hformat, hswitch, hdays, rfl, rfl, rfl⟩
    · intro hc
      obtain ⟨⟨level, format⟩, ⟨switch⟩, ⟨reader, writer⟩, ⟨days⟩⟩ := c
      obtain ⟨hformat, hswitch, hdays, rfl, rfl, rfl⟩ := hc
      exact ⟨format, hformat, switch, hswitch, days, hdays, rfl⟩
  · intro e
    simp only [bind_eq_error_iff, formatOf_eq_ok_iff, h.rollbackOf_eq_ok_iff,
      formatOf_eq_error_iff, h.rollbackOf_eq_error_iff, ttlDaysOf_eq_error_iff, reduceCtorEq,
      and_false, exists_false, or_false]
    constructor
    · rintro (⟨s, hset, hbad, rfl⟩ | ⟨f, hformat, ⟨hbad, rfl⟩ | ⟨b, hswitch, s, hset, hbad, rfl⟩⟩)
      · exact .format hset hbad
      · exact .switch hformat hbad
      · exact .days hformat hswitch hset hbad
    · intro he
      cases he with
      | format hset hbad => exact .inl ⟨_, hset, hbad, rfl⟩
      | switch hformat hbad => exact .inr ⟨_, hformat, .inl ⟨hbad, rfl⟩⟩
      | days hformat hswitch hset hbad =>
        exact .inr ⟨_, hformat, .inr ⟨_, hswitch, _, hset, hbad, rfl⟩⟩

/-- The variables of a process that sets these. -/
def setting (vars : List (String × String)) : String → Option String := fun var => vars.lookup var

/-- A switch with a plus sign and leading zeros, and a number of days among blanks, are read. A
number of days with a sign is refused, but only after the format. -/
theorem ofVariables_strict_of_padded :
    let on := [("RR_COMPENSATE_ON_FAILURE", "+001"), ("RR_STAGING_BUCKET_TTL_DAYS", " 007\t")]
    let off := [("RR_COMPENSATE_ON_FAILURE", "00"), ("RR_STAGING_BUCKET_TTL_DAYS", "-1")]
    Strict (setting on "RR_COMPENSATE_ON_FAILURE") ∧
      Strict (setting off "RR_COMPENSATE_ON_FAILURE") ∧
      Described (setting on) { staging := ⟨7⟩ } ∧
      Misdescribed (setting off) (.invalidValue "RR_STAGING_BUCKET_TTL_DAYS" "-1") ∧
      Misdescribed (setting (("RR_LOG_FORMAT", "xml") :: off))
        (.invalidValue "RR_LOG_FORMAT" "xml") := by
  intro on off
  have hon : Strict (setting on "RR_COMPENSATE_ON_FAILURE") :=
    Strict.of_read (s := "+001") (n := 1) (by decide +kernel) (by decide)
  have hoff : Strict (setting off "RR_COMPENSATE_ON_FAILURE") :=
    Strict.of_read (s := "00") (n := 0) (by decide +kernel) (by decide)
  have hboth : Strict (setting (("RR_LOG_FORMAT", "xml") :: off) "RR_COMPENSATE_ON_FAILURE") := hoff
  refine ⟨hon, hoff, ((ofVariables_strict hon).1 _).1 ?_, ((ofVariables_strict hoff).2 _).1 ?_,
    ((ofVariables_strict hboth).2 _).1 ?_⟩
  · decide +kernel
  · decide +kernel
  · decide +kernel

/-- A two is refused in words, but read as no. -/
theorem ofVariables_lenient :
    let look := setting [("RR_COMPENSATE_ON_FAILURE", "2")]
    ofVariables look = .ok { rollback := ⟨false⟩ } ∧
      (∀ b, ¬SwitchValue (look "RR_COMPENSATE_ON_FAILURE") b) ∧
      Misdescribed look (.invalidValue "RR_COMPENSATE_ON_FAILURE" "must be 0 or 1") := by
  intro look
  have hread : Text.Decimal.unsigned? 255 "2".toList = some 2 := by decide +kernel
  have hbad : ∀ b, ¬SwitchValue (some "2") b := by
    intro b hb
    cases hb with
    | on hdenotes =>
      rw [unsigned?_eq_some_iff.2 ⟨hdenotes, by decide⟩] at hread
      cases hread
    | off hdenotes =>
      rw [unsigned?_eq_some_iff.2 ⟨hdenotes, by decide⟩] at hread
      cases hread
  exact ⟨by decide +kernel, hbad, Misdescribed.switch FormatValue.unset hbad⟩

end Config

end ReverseReplication
