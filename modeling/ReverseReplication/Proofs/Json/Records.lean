import ReverseReplication.Json.Record
import ReverseReplication.Proofs.Json.Faithful

/-!
# Records that read back what they write

The codec of a record is faithful if the fields of the record have different names and make up the
structure (`Record.Complete.codec_faithful`). A map may hold more than the members of one record:
the record is followed through members that it knows (`Record.takes_slots`) and members that it does
not know (`Record.takes_others`), in any sequence of such parts. What it passes over may be any
value at all (`Reader.ignore_tokens`).
-/

namespace ReverseReplication.Json

variable {σ ω : Type}

/-! ## Fields -/

/-- Reading what the slot writes of a structure copies this field of it: `copy s t` is `t` with the
field of `s`. -/
structure Slot.Copies (slot : Slot σ) (copy : σ → σ → σ) : Prop where
  written : ∀ s, (slot.write s).Written
  read_write : ∀ s rest, slot.read ((slot.write s).tokens ++ rest) = .ok (copy s, rest)

/-- Reading what the slots write of a structure, one after another, takes `start` of the structure
to `result` of it. -/
inductive Slot.Copying : List (Slot σ) → (σ → σ) → (σ → σ) → Prop
  | nil {start result : σ → σ} (done : ∀ s, start s = result s) : Copying [] start result
  | cons {slot : Slot σ} {slots : List (Slot σ)} {copy : σ → σ → σ} {start result : σ → σ}
      (first : slot.Copies copy) (others : Copying slots (fun s => copy s (start s)) result) :
      Copying (slot :: slots) start result

/-- A field that is required is copied if its codec is faithful. -/
theorem Codec.Faithful.required {α : Type} {c : Codec α} (h : c.Faithful) (name : String)
    (get : σ → α) (set : α → σ → σ) :
    (Slot.required name c get set).Copies fun s => set (get s) where
  written s := h.written (get s)
  read_write s rest := Reader.map_of_ok set (h.read_write (get s) rest)

/-- A field that may be missing is copied as well, for it is always written. -/
theorem Codec.Faithful.maybe {α : Type} {c : Codec α} (h : c.Faithful) (name : String) (get : σ → α)
    (set : α → σ → σ) : (Slot.maybe name c get set).Copies fun s => set (get s) where
  written s := h.written (get s)
  read_write s rest := Reader.map_of_ok set (h.read_write (get s) rest)

/-! ## Passing over values -/

namespace Reader

/-- What is left to pass over behind a value. -/
def ignoreRest (stack : List Bracket) (rest : List Token) : Except ReadError (Unit × List Token) :=
  if stack = [] then .ok ((), rest) else ignoreFrom .after stack rest

mutual

/-- A value of any kind is passed over to its end. -/
theorem ignoreFrom_value (v : Value) (stack : List Bracket) (rest : List Token) :
    ignoreFrom .value stack (v.tokens ++ rest) = ignoreRest stack rest ∧
      ignoreFrom .firstElement stack (v.tokens ++ rest) = ignoreRest stack rest := by
  cases v with
  | array items =>
    have hitems := ignoreFrom_items true items stack rest
    exact ⟨hitems, hitems⟩
  | object members =>
    have hmembers := ignoreFrom_members true members stack rest
    exact ⟨hmembers, hmembers⟩
  | _ => exact ⟨rfl, rfl⟩

/-- The items of a sequence are passed over to the end of the sequence. -/
theorem ignoreFrom_items (first : Bool) (vs : List Value) (stack : List Bracket)
    (rest : List Token) :
    ignoreFrom (if first then .firstElement else .after) (.array :: stack)
      (Value.itemTokens first vs ++ rest) = ignoreRest stack rest := by
  cases vs with
  | nil => cases first <;> rfl
  | cons v vs =>
    have hrest := ignoreFrom_items false vs stack rest
    have hvalue := ignoreFrom_value v (.array :: stack) (Value.itemTokens false vs ++ rest)
    cases first with
    | true =>
      simp only [Value.itemTokens, List.append_assoc]
      exact hvalue.2.trans hrest
    | false =>
      simp only [Value.itemTokens, List.append_assoc, List.cons_append]
      exact hvalue.1.trans hrest

/-- The members of a map are passed over to the end of the map. -/
theorem ignoreFrom_members (first : Bool) (ms : List (String × Value)) (stack : List Bracket)
    (rest : List Token) :
    ignoreFrom (if first then .firstName else .after) (.object :: stack)
      (Value.memberTokens first ms ++ rest) = ignoreRest stack rest := by
  cases ms with
  | nil => cases first <;> rfl
  | cons m ms =>
    have hrest := ignoreFrom_members false ms stack rest
    have hvalue := ignoreFrom_value m.2 (.object :: stack) (Value.memberTokens false ms ++ rest)
    cases first <;>
      simp only [Value.memberTokens, List.append_assoc, List.cons_append] <;>
      exact hvalue.1.trans hrest

end

/-- Any value is passed over. -/
theorem ignore_tokens (v : Value) (rest : List Token) :
    ignore (v.tokens ++ rest) = .ok ((), rest) :=
  (ignoreFrom_value v [] rest).1

end Reader

/-! ## Reading a map -/

namespace Record

variable {r : Record σ} {other : String → ω → Reader ω}

/-- If the names differ, a slot is found under its name. -/
theorem slot?_of_mem (hdistinct : (r.slots.map Slot.name).Nodup) {slot : Slot σ}
    (h : slot ∈ r.slots) : r.slot? slot.name = some slot := by
  obtain ⟨front, back, hslots⟩ := List.append_of_mem h
  rw [slot?, List.find?_eq_some_iff_append]
  refine ⟨decide_eq_true rfl, front, back, hslots, fun earlier hearlier => ?_⟩
  rw [hslots, List.map_append, List.map_cons] at hdistinct
  have hne : earlier.name ≠ slot.name :=
    (List.nodup_append.1 hdistinct).2.2 _ (List.mem_map_of_mem hearlier) _ List.mem_cons_self
  simpa using hne

/-- Under a name that is no slot's, none is found. -/
theorem slot?_eq_none {name : String} (h : name ∉ r.slots.map Slot.name) : r.slot? name = none := by
  rw [slot?, List.find?_eq_none]
  intro slot hslot heq
  exact h (of_decide_eq_true heq ▸ List.mem_map_of_mem hslot)

/-- A record does not know the members of another one that has no field name in common with it. -/
theorem slot?_of_apart {τ : Type} {r' : Record τ}
    (h : ∀ name ∈ r'.slots.map Slot.name, name ∉ r.slots.map Slot.name) (s : τ) :
    ∀ m ∈ r'.members s, r.slot? m.1 = none := by
  intro m hm
  obtain ⟨slot, hslot, rfl⟩ := List.mem_map.1 hm
  exact slot?_eq_none (h slot.name (List.mem_map_of_mem hslot))

/-- Where every slot was seen, none is missing. -/
theorem missing?_of_seen {seen : List String} (h : ∀ slot ∈ r.slots, slot.name ∈ seen) :
    r.missing? seen = none := by
  unfold missing?
  split
  · rfl
  · rw [Option.map_eq_none_iff, List.find?_eq_none]
    intro slot hslot
    simp [h slot hslot]

/-- Members that the record writes are read into its fields. -/
theorem takes_slots {slots : List (Slot σ)} {start result : σ → σ}
    (hcopying : Slot.Copying slots start result)
    (hslots : ∀ slot ∈ slots, r.slot? slot.name = some slot)
    (hdistinct : (slots.map Slot.name).Nodup) {seen : List String}
    (hfresh : ∀ slot ∈ slots, slot.name ∉ seen) (s : σ) (others : ω) :
    Reader.Takes (r.member other) (slots.map fun slot => (slot.name, slot.write s))
      ⟨seen, start s, others⟩ ⟨(slots.map Slot.name).reverse ++ seen, result s, others⟩ := by
  -- Slot by slot, with the names seen so far. `Copying` says what the slots up to here have set.
  induction hcopying generalizing seen with
  | nil done =>
    rw [done s]
    exact .nil
  | @cons slot slots copy start result hfirst _ ih =>
    rw [List.forall_mem_cons] at hslots hfresh
    rw [List.map_cons, List.nodup_cons] at hdistinct
    have hlater : ∀ later ∈ slots, later.name ∉ slot.name :: seen := fun later hmem => by
      rw [List.mem_cons, not_or]
      exact ⟨fun heq => hdistinct.1 (heq ▸ List.mem_map_of_mem hmem), hfresh.2 later hmem⟩
    rw [List.map_cons, List.map_cons, List.reverse_cons, List.append_assoc,
      List.singleton_append]
    refine .cons (fun rest => ?_) (ih hslots.2 hdistinct.2 hlater)
    have hread := hfirst.read_write s rest
    rw [member, hslots.1]
    dsimp only
    rw [if_neg hfresh.1]
    exact Reader.map_of_ok _ hread

/-- Members that the record does not know are read into what is made of the others. -/
theorem takes_others {ms : List (String × Value)} {take : ω → String × Value → ω}
    (hunknown : ∀ m ∈ ms, r.slot? m.1 = none)
    (hother : ∀ m ∈ ms, ∀ o rest, other m.1 o (m.2.tokens ++ rest) = .ok (take o m, rest))
    (p : Progress σ ω) :
    Reader.Takes (r.member other) ms p { p with others := ms.foldl take p.others } := by
  induction ms generalizing p with
  | nil => exact .nil
  | cons m ms ih =>
    rw [List.forall_mem_cons] at hunknown hother
    refine .cons (fun rest => ?_) (ih hunknown.2 hother.2 { p with others := take p.others m })
    rw [member, hunknown.1]
    exact Reader.map_of_ok _ (hother.1 p.others rest)

/-- A written map is read by its members, unless a field is missing. -/
theorem reader_eq {ms : List (String × Value)} {start : ω} {p : Progress σ ω}
    (h : Reader.Takes (r.member other) ms ⟨[], r.blank, start⟩ p)
    (hmissing : r.missing? p.seen = none) (rest : List Token) :
    r.reader other start ((Value.object ms).tokens ++ rest) = .ok ((p.value, p.others), rest) := by
  rw [reader, h.members_eq r.expected rest]
  dsimp only
  rw [finish, hmissing]
  rfl

/-! ## Complete records -/

/-- A record whose fields have different names and make up the structure. -/
structure Complete (r : Record σ) : Prop where
  distinct : (r.slots.map Slot.name).Nodup
  copying : Slot.Copying r.slots (fun _ => r.blank) id

/-- All that the slots write can be written. -/
theorem written_members {start result : σ → σ} (h : Slot.Copying r.slots start result) (s : σ) :
    ∀ m ∈ r.members s, m.2.Written := by
  unfold members
  generalize r.slots = slots at h
  induction h with
  | nil => exact fun m hm => nomatch hm
  | cons first _ ih => exact List.forall_mem_cons.2 ⟨first.written s, ih⟩

/-- The members of a record with different names are read into its fields. -/
theorem takes_members (hdistinct : (r.slots.map Slot.name).Nodup) {start result : σ → σ}
    (h : Slot.Copying r.slots start result) (s : σ) (others : ω) :
    Reader.Takes (r.member other) (r.members s) ⟨[], start s, others⟩
      ⟨(r.slots.map Slot.name).reverse ++ [], result s, others⟩ :=
  takes_slots h (fun _ => slot?_of_mem hdistinct) hdistinct (fun _ _ => List.not_mem_nil) s others

/-- When all slots have been read, none is missing. -/
theorem missing?_all : r.missing? ((r.slots.map Slot.name).reverse ++ []) = none :=
  missing?_of_seen fun _ hslot => by
    rw [List.append_nil, List.mem_reverse]
    exact List.mem_map_of_mem hslot

/-- A structure is read back if its slots are complete. -/
theorem Complete.codec_faithful (h : r.Complete) : r.codec.Faithful where
  written s := Value.written_object (written_members h.copying s)
  read_write s rest :=
    have htakes : Reader.Takes (r.member ignoreOther) (r.members s) ⟨[], r.blank, ()⟩ _ :=
      takes_members h.distinct h.copying s ()
    Reader.map_of_ok Prod.fst (reader_eq htakes missing?_all rest)

end Record

end ReverseReplication.Json
