import ReverseReplication.Json.Variant
import ReverseReplication.Proofs.Json.Integers
import ReverseReplication.Proofs.Json.Layout

/-!
# Codecs that read back what they write

A codec is `Codec.Faithful` if it reads every value back from the tokens that it writes, and leaves
alone what follows them. The codecs of the simple types are, and those that are built from faithful
ones: sequences, sets and tables, and values that may be `null`. So a value is decoded from its
text, without spaces (`Faithful.roundTrips`) and over several lines (`Faithful.decode_pretty`).

A map is read member by member; `Reader.Takes` says where this leads.
-/

namespace ReverseReplication.Json

open ReverseReplication.Text (symbols utf8)

variable {α β σ : Type}

/-- A codec that reads back what it writes, whatever follows. -/
structure Codec.Faithful (c : Codec α) : Prop where
  written : ∀ a, (c.write a).Written
  read_write : ∀ a rest, c.read ((c.write a).tokens ++ rest) = .ok (a, rest)

/-- Every value is decoded from its text without spaces. -/
def Codec.RoundTrips (c : Codec α) : Prop := ∀ a, c.decode (utf8 (c.encode a)) = .ok a

namespace Codec.Faithful

variable {c : Codec α}

/-- A text from which the tokens of the written value are read is decoded as that value. -/
theorem decode_of_tokens (h : c.Faithful) {a : α} {s : String}
    (htokens : Json.tokens (symbols (utf8 s)) = (c.write a).tokens) :
    c.decode (utf8 s) = .ok a := by
  have hread := h.read_write a []
  rw [List.append_nil] at hread
  rw [decode, Reader.bytes, Reader.document, htokens, hread]

/-- A faithful codec reads back what it writes without spaces. -/
theorem roundTrips (h : c.Faithful) : c.RoundTrips := fun a =>
  h.decode_of_tokens (Value.tokens_compact (h.written a))

/-- A faithful codec reads back what it writes over many lines, too. -/
theorem decode_pretty (h : c.Faithful) (a : α) : c.decode (utf8 (c.write a).pretty) = .ok a :=
  h.decode_of_tokens (Value.tokens_pretty (h.written a))

/-- It takes a value apart just as it reads its text. -/
theorem ofValue_write (h : c.Faithful) (a : α) : c.ofValue (c.write a) = .ok a := by
  have hread := h.read_write a []
  rw [List.append_nil] at hread
  rw [ofValue, Reader.document, hread]

end Codec.Faithful

/-! ## Readers -/

/-- What is read may be changed by a function after the reading. -/
theorem Reader.map_of_ok {read : Reader α} {ts rest : List Token} {a : α} (f : α → β)
    (h : read ts = .ok (a, rest)) : Reader.map f read ts = .ok (f a, rest) := by
  rw [map, h]

/-! ## Single tokens -/

namespace Codec

/-- A value of one token can be written if the token can. -/
theorem written_of_token {v : Value} {t : Token} (htokens : v.tokens = [t]) (h : t.Written) :
    v.Written := by
  intro t' ht'
  rw [htokens, List.mem_singleton] at ht'
  rw [ht']
  exact h

/-- Texts are read back, whatever characters they hold. -/
theorem text_faithful : text.Faithful where
  written _ := written_of_token rfl rfl
  read_write _ _ := rfl

/-- Both truth values are read back. -/
theorem bool_faithful : bool.Faithful where
  written _ := written_of_token rfl trivial
  read_write _ _ := rfl

/-- Every integer can be written as a number. -/
theorem written_int (n : Int) : (Value.int n).Written := written_of_token rfl ⟨n, rfl⟩

/-- Integers of 32 bits are read back, for they are within the bounds of their reader. -/
theorem int32_faithful : int32.Faithful where
  written n := written_int n.toInt
  read_write n rest := by
    have hmin := n.le_toInt
    have hmax := n.toInt_lt
    refine Reader.integer_ofInt (by omega) (by omega) ?_ rest
    rw [if_pos ⟨n.minValue_le_toInt, n.toInt_le⟩, Int32.ofInt_toInt]

/-- Integers of 64 bits are read back as well. -/
theorem int64_faithful : int64.Faithful where
  written n := written_int n.toInt
  read_write n rest := by
    have hmin := n.le_toInt
    have hmax := n.toInt_lt
    refine Reader.integer_ofInt (by omega) (by omega) ?_ rest
    rw [if_pos ⟨n.minValue_le_toInt, n.toInt_le⟩, Int64.ofInt_toInt]

/-- So are integers of 32 bits without a sign. -/
theorem uint32_faithful : uint32.Faithful where
  written n := written_int n.toNat
  read_write n rest := by
    have hmax := n.toNat_lt
    refine Reader.integer_ofInt (by omega) (by omega) ?_ rest
    rw [if_pos ⟨Int.natCast_nonneg _, Int.ofNat_lt.2 n.toNat_lt_size⟩, Int.toNat_natCast,
      UInt32.ofNat_toNat]

/-- A codec for other values than it writes is faithful if nothing is lost on the way there and
back. -/
theorem Faithful.wrap {c : Codec α} (h : c.Faithful) {into : α → β} {out : β → α}
    (hinto : ∀ b, into (out b) = b) : (c.wrap into out).Faithful where
  written b := h.written (out b)
  read_write b rest := by
    have hread := Reader.map_of_ok into (h.read_write (out b) rest)
    rw [hinto] at hread
    exact hread

end Codec

/-- An enumeration is read back if each of its values is known by its name. -/
theorem Variants.codec_faithful {v : Variants α} (h : ∀ a, v.known.lookup (v.name a) = some a) :
    v.codec.Faithful where
  written _ := Codec.written_of_token rfl rfl
  read_write a rest := by
    show (v.ofName (v.name a)).map (·, rest) = _
    rw [ofName, h]
    rfl

/-! ## Sequences -/

namespace Value

/-- A sequence has a token for each of its items, at least. -/
theorem length_le_itemTokens (first : Bool) (vs : List Value) :
    vs.length ≤ (itemTokens first vs).length := by
  induction vs generalizing first with
  | nil => exact Nat.zero_le _
  | cons v vs ih =>
    have hrest := ih false
    have hvalue : v.tokens ≠ [] := by cases v <;> exact List.cons_ne_nil _ _
    have hpositive := List.length_pos_iff.2 hvalue
    cases first <;> simp [itemTokens] <;> omega

/-- A map has a token for each of its members, at least. -/
theorem length_le_memberTokens (first : Bool) (ms : List (String × Value)) :
    ms.length ≤ (memberTokens first ms).length := by
  induction ms generalizing first with
  | nil => exact Nat.zero_le _
  | cons m ms ih =>
    have hrest := ih false
    cases first <;> simp [memberTokens] <;> omega

/-- A sequence can be written if its items can. -/
theorem written_array {items : List Value} (h : ∀ v ∈ items, v.Written) :
    (array items).Written := by
  have hitems : ∀ first, ∀ t ∈ itemTokens first items, t.Written := by
    induction items with
    | nil => simp [itemTokens, Token.Written]
    | cons v vs ih =>
      rw [List.forall_mem_cons] at h
      rintro (_ | _) <;>
        simp only [itemTokens, List.cons_append, List.forall_mem_cons, List.forall_mem_append]
      · exact ⟨trivial, h.1, ih h.2 false⟩
      · exact ⟨h.1, ih h.2 false⟩
  exact List.forall_mem_cons.2 ⟨trivial, hitems true⟩

/-- A map can be written if the values of its members can. -/
theorem written_object {members : List (String × Value)} (h : ∀ m ∈ members, m.2.Written) :
    (object members).Written := by
  have hmembers : ∀ first, ∀ t ∈ memberTokens first members, t.Written := by
    induction members with
    | nil => simp [memberTokens, Token.Written]
    | cons m ms ih =>
      rw [List.forall_mem_cons] at h
      rintro (_ | _) <;>
        simp only [memberTokens, List.cons_append, List.forall_mem_cons, List.forall_mem_append]
      · exact ⟨trivial, rfl, trivial, h.1, ih h.2 false⟩
      · exact ⟨rfl, trivial, h.1, ih h.2 false⟩
  exact List.forall_mem_cons.2 ⟨trivial, hmembers true⟩

end Value

/-- The elements of a written sequence are read back, as long as the fuel is above their number. -/
theorem Reader.elementsFrom_write {c : Codec α} (h : c.Faithful) (first : Bool) (as : List α)
    {fuel : Nat} (hfuel : as.length < fuel) (rest : List Token) :
    elementsFrom c.read first fuel (Value.itemTokens first (as.map c.write) ++ rest) =
      .ok (as, rest) := by
  induction as generalizing first fuel with
  | nil =>
    obtain ⟨fuel, rfl⟩ := Nat.exists_eq_add_one_of_ne_zero (Nat.ne_of_gt hfuel)
    cases first <;> rfl
  | cons a as ih =>
    obtain ⟨fuel, rfl⟩ := Nat.exists_eq_add_one_of_ne_zero (Nat.ne_of_gt (Nat.zero_lt_of_lt hfuel))
    have hrest := map_of_ok (a :: ·) (ih false (Nat.lt_of_succ_lt_succ hfuel))
    have hread := h.read_write a (Value.itemTokens false (as.map c.write) ++ rest)
    cases first with
    | false =>
      simp only [List.map_cons, Value.itemTokens, List.cons_append, List.append_assoc,
        elementsFrom, hread, hrest]
    | true =>
      -- An element is read unless the sequence is closed at once, and no value begins like that.
      obtain ⟨t, ts, htokens, hclose⟩ :
          ∃ t ts, (c.write a).tokens = t :: ts ∧ t ≠ .closeBracket := by
        cases c.write a <;> exact ⟨_, _, rfl, nofun⟩
      simp only [List.map_cons, Value.itemTokens, List.append_assoc]
      rw [htokens, List.cons_append] at hread ⊢
      rw [elementsFrom, hread]
      · exact hrest
      · exact hclose

/-- A list is read back if its items are, in their order. -/
theorem Codec.Faithful.list {c : Codec α} (h : c.Faithful) : (Codec.list c).Faithful where
  written as := Value.written_array fun v hv => by
    obtain ⟨a, -, rfl⟩ := List.mem_map.1 hv
    exact h.written a
  read_write as rest := by
    have hlength : as.length ≤ (Value.itemTokens true (as.map c.write) ++ rest).length := by
      have hitems := Value.length_le_itemTokens true (as.map c.write)
      rw [List.length_map] at hitems
      rw [List.length_append]
      exact Nat.le_add_right_of_le hitems
    exact Reader.elementsFrom_write h true as (Nat.lt_succ_of_le hlength) rest

/-- A set of texts is read back, since it is written as the list of its members in order. -/
theorem Codec.textSet_faithful : textSet.Faithful :=
  text_faithful.list.wrap fun t => by
    have hentries : t.keys.map (·, ()) = t.entries := by
      rw [Table.keys, List.map_map]
      exact List.map_id _
    rw [hentries, Table.ofList_entries]

/-! ## Maps -/

/-- Read one after another, the members take `s` to `s'`. -/
inductive Reader.Takes (member : String → σ → Reader σ) : List (String × Value) → σ → σ → Prop
  | nil {s : σ} : Takes member [] s s
  | cons {name : String} {v : Value} {ms : List (String × Value)} {s s' s'' : σ}
      (first : ∀ rest, member name s (.colon :: v.tokens ++ rest) = .ok (s', rest))
      (others : Takes member ms s' s'') : Takes member ((name, v) :: ms) s s''

namespace Reader.Takes

variable {member : String → σ → Reader σ} {ms ms' : List (String × Value)} {s s' s'' : σ}

/-- Members that are read one after another may be read in two goes. -/
theorem append (h : Takes member ms s s') (h' : Takes member ms' s' s'') :
    Takes member (ms ++ ms') s s'' := by
  induction h with
  | nil => exact h'
  | cons first _ ih => exact .cons first (ih h')

/-- A reader that comes to the end of a map has taken all members. -/
theorem membersFrom_eq (h : Takes member ms s s') (first : Bool) {fuel : Nat}
    (hfuel : ms.length < fuel) (rest : List Token) :
    membersFrom member first fuel s (Value.memberTokens first ms ++ rest) = .ok (s', rest) := by
  induction h generalizing first fuel with
  | nil =>
    obtain ⟨fuel, rfl⟩ := Nat.exists_eq_add_one_of_ne_zero (Nat.ne_of_gt hfuel)
    cases first <;> rfl
  | @cons name v ms s s' s'' hfirst _ ih =>
    obtain ⟨fuel, rfl⟩ := Nat.exists_eq_add_one_of_ne_zero (Nat.ne_of_gt (Nat.zero_lt_of_lt hfuel))
    have hmember := hfirst (Value.memberTokens false ms ++ rest)
    rw [List.cons_append] at hmember
    have hrest := ih false (Nat.lt_of_succ_lt_succ hfuel)
    cases first <;>
      simp only [Value.memberTokens, List.cons_append, List.append_assoc, membersFrom, memberName,
        hmember, hrest]

/-- A written map is read by its members. -/
theorem members_eq (h : Takes member ms s s') (expected : String) (rest : List Token) :
    members expected member s ((Value.object ms).tokens ++ rest) = .ok (s', rest) := by
  have hlength : ms.length ≤ (Value.memberTokens true ms ++ rest).length := by
    rw [List.length_append]
    exact Nat.le_add_right_of_le (Value.length_le_memberTokens true ms)
  exact h.membersFrom_eq true (Nat.lt_succ_of_le hlength) rest

end Reader.Takes

/-- Members are read into a table, whether their names differ or not. -/
theorem Codec.textTable_read (es : List (String × String)) (rest : List Token) :
    textTable.read ((Value.object (es.map fun e => (e.1, .text e.2))).tokens ++ rest) =
      .ok (Table.ofList es, rest) := by
  have htakes : ∀ (es : List (String × String)) (t : Table String String),
      Reader.Takes (fun name t => (Reader.afterColon text.read).map (t.insert name))
        (es.map fun e => (e.1, .text e.2)) t (es.foldl (fun t e => t.insert e.1 e.2) t) := by
    intro es
    induction es with
    | nil => exact fun _ => .nil
    | cons e es ih => exact fun t => .cons (fun _ => rfl) (ih _)
  exact (htakes es .empty).members_eq "a map" rest

/-- A map of texts is read back. -/
theorem Codec.textTable_faithful : textTable.Faithful where
  written t := Value.written_object fun m hm => by
    obtain ⟨e, -, rfl⟩ := List.mem_map.1 hm
    exact text_faithful.written e.2
  read_write t rest := by
    have hread := textTable_read t.entries rest
    rw [t.ofList_entries] at hread
    exact hread

/-! ## Null -/

/-- A codec that never writes `null`. -/
def Codec.NeverNull (c : Codec α) : Prop := ∀ a, c.write a ≠ .null

namespace Codec.Faithful

variable {c : Codec α}

/-- What is there is read as being there, since it is not written as `null`. -/
theorem optional_some (h : c.Faithful) (hnull : c.NeverNull) (a : α) (rest : List Token) :
    c.optional.read ((c.write a).tokens ++ rest) = .ok (some a, rest) := by
  have hskip : c.optional.read ((c.write a).tokens ++ rest) =
      c.read.map some ((c.write a).tokens ++ rest) := by
    cases hwrite : c.write a with
    | null => exact absurd hwrite (hnull a)
    | _ => rfl
  rw [hskip, Reader.map_of_ok some (h.read_write a rest)]

/-- What need not be there is read back, whether it is there or not. -/
theorem optional (h : c.Faithful) (hnull : c.NeverNull) : c.optional.Faithful where
  written
    | some a => h.written a
    | none => written_of_token rfl trivial
  read_write
    | some a, rest => h.optional_some hnull a rest
    | none, _ => rfl

/-- With a value to stand for `null`, whatever is written is read back. -/
theorem nullAs (h : c.Faithful) (hnull : c.NeverNull) (blank : α) :
    (Codec.nullAs blank c).Faithful where
  written a := h.written a
  read_write a rest := Reader.map_of_ok _ (h.optional_some hnull a rest)

end Codec.Faithful

end ReverseReplication.Json
