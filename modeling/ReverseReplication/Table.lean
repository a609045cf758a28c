/-!
# Tables: finite maps in key order

A `Table κ α` sends finitely many keys to values. It is held as its entries in strictly ascending
key order, so a table has one representation: two tables that answer every look-up alike are
equal (`Table.ext_get?`). Everything the library stores under a name (job records, buckets,
labels, launch parameters, environment variables) is a table, and a set of strings is a table
without values.

The laws are the look-up equations `get?_empty`, `get?_insert`, `get?_erase` and `get?_filter`;
after them no proof opens the representation.
-/

namespace ReverseReplication

/-- A finite map, held as its entries in strictly ascending key order. -/
structure Table (κ α : Type) [Ord κ] where
  /-- The entries, least key first. -/
  entries : List (κ × α)
  /-- No two entries share a key, and they stand in order. -/
  ascending : entries.Pairwise (fun a b => compare a.1 b.1 = .lt)

namespace Table

variable {κ α : Type} [Ord κ]

/-! ## Entry lists -/

/-- Puts `(k, v)` into its place, over an entry of the same key. -/
def insertEntry (k : κ) (v : α) : List (κ × α) → List (κ × α)
  | [] => [(k, v)]
  | e :: rest =>
    match compare k e.1 with
    | .lt => (k, v) :: e :: rest
    | .eq => (k, v) :: rest
    | .gt => e :: insertEntry k v rest

/-- The value beside the first entry whose key is `k`. -/
def lookup (k : κ) : List (κ × α) → Option α
  | [] => none
  | e :: rest => if compare k e.1 = .eq then some e.2 else lookup k rest

/-- Inserting brings in one entry, and no others. -/
theorem mem_insertEntry {k : κ} {v : α} {e : κ × α} {es : List (κ × α)}
    (h : e ∈ insertEntry k v es) : e = (k, v) ∨ e ∈ es := by
  induction es with
  | nil => simpa [insertEntry] using h
  | cons hd rest ih =>
    rw [insertEntry] at h
    split at h <;> simp only [List.mem_cons] at h ⊢ <;> grind

/-- A key that none of the entries has is not found. -/
theorem lookup_eq_none {k : κ} {es : List (κ × α)}
    (h : ∀ e ∈ es, compare k e.1 ≠ .eq) : lookup k es = none := by
  induction es with
  | nil => rfl
  | cons hd rest ih =>
    rw [lookup, if_neg (h hd (by simp))]
    exact ih fun e he => h e (by simp [he])

/-- Filtering by keys hides some keys, and leaves the others as they are. -/
theorem lookup_filter [Std.LawfulEqOrd κ] (k : κ) (p : κ → Bool) (es : List (κ × α)) :
    lookup k (es.filter fun e => p e.1) = if p k then lookup k es else none := by
  induction es with
  | nil => simp [lookup]
  | cons hd rest ih =>
    rw [List.filter_cons]
    by_cases hk : compare k hd.1 = .eq
    · have : k = hd.1 := Std.LawfulEqOrd.eq_of_compare hk
      by_cases hp : p k <;> simp_all [lookup]
    · by_cases hp : p hd.1 <;> simp_all [lookup]

/-- The key that was inserted has the new value; all others keep theirs. -/
theorem lookup_insertEntry [Std.LawfulEqOrd κ] (k k' : κ) (v : α) (es : List (κ × α)) :
    lookup k' (insertEntry k v es) = if compare k' k = .eq then some v else lookup k' es := by
  induction es with
  | nil => simp [insertEntry, lookup]
  | cons hd rest ih =>
    rw [insertEntry]
    split
    next => simp [lookup]
    next heq =>
      have : k = hd.1 := Std.LawfulEqOrd.eq_of_compare heq
      by_cases h : compare k' k = .eq <;> simp_all [lookup]
    next hgt =>
      rw [lookup, lookup, ih]
      by_cases h : compare k' hd.1 = .eq
      · have : k' = hd.1 := Std.LawfulEqOrd.eq_of_compare h
        subst this
        have : compare hd.1 k ≠ .eq := by
          intro hc
          have := Std.LawfulEqOrd.eq_of_compare hc
          simp_all
        simp_all
      · simp [h]

/-- Inserting keeps the entries in strictly ascending order. -/
theorem pairwise_insertEntry [Std.TransOrd κ] [Std.LawfulEqOrd κ] (k : κ) (v : α)
    {es : List (κ × α)} (h : es.Pairwise (fun a b => compare a.1 b.1 = .lt)) :
    (insertEntry k v es).Pairwise (fun a b => compare a.1 b.1 = .lt) := by
  induction es with
  | nil => simp [insertEntry]
  | cons hd rest ih =>
    have ⟨hhd, hrest⟩ := List.pairwise_cons.1 h
    rw [insertEntry]
    split
    next hlt =>
      refine List.pairwise_cons.2 ⟨fun e he => ?_, h⟩
      rcases List.mem_cons.1 he with rfl | he
      · exact hlt
      · exact Std.TransCmp.lt_trans hlt (hhd e he)
    next heq =>
      refine List.pairwise_cons.2 ⟨fun e he => ?_, hrest⟩
      have : k = hd.1 := Std.LawfulEqOrd.eq_of_compare heq
      simpa [this] using hhd e he
    next hgt =>
      refine List.pairwise_cons.2 ⟨fun e he => ?_, ih hrest⟩
      rcases mem_insertEntry he with rfl | he
      · exact Std.OrientedCmp.lt_of_gt hgt
      · exact hhd e he

/-- Entry lists in order are determined by what `lookup` answers. -/
theorem entries_eq_of_lookup [Std.TransOrd κ] [Std.LawfulEqOrd κ] {es fs : List (κ × α)}
    (he : es.Pairwise (fun a b => compare a.1 b.1 = .lt))
    (hf : fs.Pairwise (fun a b => compare a.1 b.1 = .lt))
    (h : ∀ k, lookup k es = lookup k fs) : es = fs := by
  induction es generalizing fs with
  | nil =>
    cases fs with
    | nil => rfl
    | cons f fs => simpa [lookup] using h f.1
  | cons e es ih =>
    have ⟨he₁, he₂⟩ := List.pairwise_cons.1 he
    cases fs with
    | nil => simpa [lookup] using h e.1
    | cons f fs =>
      have ⟨hf₁, hf₂⟩ := List.pairwise_cons.1 hf
      have absent : ∀ {k : κ} {gs : List (κ × α)}, (∀ g ∈ gs, compare k g.1 = .lt) →
          lookup k gs = none := fun hg => lookup_eq_none fun g hm => by simp [hg g hm]
      have key : e.1 = f.1 := by
        match hc : compare e.1 f.1 with
        | .eq => exact Std.LawfulEqOrd.eq_of_compare hc
        | .lt =>
          have := h e.1
          rw [lookup, lookup, if_pos (by simp), if_neg (by simp [hc]),
            absent fun g hg => Std.TransCmp.lt_trans hc (hf₁ g hg)] at this
          simp at this
        | .gt =>
          have hc' := Std.OrientedCmp.lt_of_gt hc
          have := h f.1
          rw [lookup, lookup, if_neg (by simp [hc']), if_pos (by simp),
            absent fun g hg => Std.TransCmp.lt_trans hc' (he₁ g hg)] at this
          simp at this
      have value : e.2 = f.2 := by
        have := h e.1
        simpa [lookup, key] using this
      have rest : ∀ k, lookup k es = lookup k fs := by
        intro k
        by_cases hk : compare k e.1 = .eq
        · have : k = e.1 := Std.LawfulEqOrd.eq_of_compare hk
          subst this
          rw [absent he₁, absent fun g hg => key ▸ hf₁ g hg]
        · have := h k
          rw [lookup, lookup, if_neg hk, if_neg (key ▸ hk)] at this
          exact this
      rw [ih he₂ hf₂ rest, Prod.ext key value]

/-! ## Operations -/

/-- The table with no entries. -/
def empty : Table κ α := ⟨[], .nil⟩

instance : EmptyCollection (Table κ α) := ⟨empty⟩

instance : Inhabited (Table κ α) := ⟨empty⟩

instance [DecidableEq κ] [DecidableEq α] : DecidableEq (Table κ α) := fun s t =>
  match decEq s.entries t.entries with
  | .isTrue h => .isTrue (by cases s; cases t; simp_all)
  | .isFalse h => .isFalse fun e => h (e ▸ rfl)

/-- The value stored under `k`. -/
def get? (t : Table κ α) (k : κ) : Option α := lookup k t.entries

/-- Is anything stored under `k`? -/
def contains (t : Table κ α) (k : κ) : Bool := (t.get? k).isSome

def isEmpty (t : Table κ α) : Bool := t.entries.isEmpty

def size (t : Table κ α) : Nat := t.entries.length

/-- The keys, least first. -/
def keys (t : Table κ α) : List κ := t.entries.map (·.1)

/-- Keeps the entries whose key passes the test. -/
def filter (p : κ → Bool) (t : Table κ α) : Table κ α :=
  ⟨t.entries.filter fun e => p e.1, t.ascending.filter _⟩

/-- Drops the entry under `k`, if there is one. -/
def erase (t : Table κ α) (k : κ) : Table κ α := t.filter fun k' => compare k' k != .eq

/-- Stores `v` under `k`, over what stood there. -/
def insert [Std.TransOrd κ] [Std.LawfulEqOrd κ] (t : Table κ α) (k : κ) (v : α) : Table κ α :=
  ⟨insertEntry k v t.entries, pairwise_insertEntry k v t.ascending⟩

/-- The table of a list of entries; of two entries with one key the later counts. -/
def ofList [Std.TransOrd κ] [Std.LawfulEqOrd κ] (es : List (κ × α)) : Table κ α :=
  es.foldl (fun t e => t.insert e.1 e.2) empty

/-! ## Look-up equations -/

@[simp] theorem get?_empty (k : κ) : (empty : Table κ α).get? k = none := rfl

/-- A filtered table holds what it held under the keys that are kept. -/
@[simp] theorem get?_filter [Std.LawfulEqOrd κ] (t : Table κ α) (p : κ → Bool) (k : κ) :
    (t.filter p).get? k = if p k then t.get? k else none :=
  lookup_filter k p t.entries

/-- An erased key is gone, and all others are as they were. -/
theorem get?_erase [Std.TransOrd κ] [Std.LawfulEqOrd κ] [DecidableEq κ] (t : Table κ α)
    (k k' : κ) : (t.erase k).get? k' = if k' = k then none else t.get? k' := by
  rw [erase, get?_filter]
  by_cases h : k' = k
  · simp [h]
  · have : compare k' k ≠ .eq := fun hc => h (Std.LawfulEqOrd.eq_of_compare hc)
    simp [h, this]

/-- An inserted key has the new value, and all others are as they were. -/
theorem get?_insert [Std.TransOrd κ] [Std.LawfulEqOrd κ] [DecidableEq κ] (t : Table κ α)
    (k k' : κ) (v : α) : (t.insert k v).get? k' = if k' = k then some v else t.get? k' := by
  rw [get?, insert, lookup_insertEntry]
  by_cases h : k' = k
  · simp [h]
  · have : compare k' k ≠ .eq := fun hc => h (Std.LawfulEqOrd.eq_of_compare hc)
    simp [h, this, get?]

/-- A table is what it answers. -/
theorem ext_get? [Std.TransOrd κ] [Std.LawfulEqOrd κ] {s t : Table κ α}
    (h : ∀ k, s.get? k = t.get? k) : s = t := by
  have := entries_eq_of_lookup s.ascending t.ascending h
  cases s
  cases t
  simp_all

/-- Taking away what was just put under a fresh key restores the table. -/
theorem erase_insert [Std.TransOrd κ] [Std.LawfulEqOrd κ] [DecidableEq κ] {t : Table κ α}
    {k : κ} {v : α} (h : t.get? k = none) : (t.insert k v).erase k = t := by
  refine ext_get? fun k' => ?_
  rw [get?_erase, get?_insert]
  by_cases hk : k' = k <;> simp [hk, h]

/-! ## Rebuilding -/

/-- An entry whose key comes after all others is put at the end. -/
theorem insertEntry_last [Std.OrientedOrd κ] {k : κ} (v : α) {es : List (κ × α)}
    (h : ∀ e ∈ es, compare e.1 k = .lt) : insertEntry k v es = es ++ [(k, v)] := by
  induction es with
  | nil => rfl
  | cons e es ih =>
    have hgt : compare k e.1 = .gt := Std.OrientedCmp.gt_of_lt (h e List.mem_cons_self)
    rw [insertEntry, hgt, List.cons_append, ih fun e' he' => h e' (List.mem_cons_of_mem e he')]

/-- Entries in ascending order are put one behind the other. -/
theorem entries_foldl_insert [Std.TransOrd κ] [Std.LawfulEqOrd κ] {t : Table κ α}
    {es : List (κ × α)} (h : (t.entries ++ es).Pairwise fun a b => compare a.1 b.1 = .lt) :
    (es.foldl (fun t e => t.insert e.1 e.2) t).entries = t.entries ++ es := by
  induction es generalizing t with
  | nil => rw [List.append_nil, List.foldl_nil]
  | cons e es ih =>
    have hlast : (t.insert e.1 e.2).entries = t.entries ++ [e] :=
      insertEntry_last e.2 fun e' he' => (List.pairwise_append.1 h).2.2 e' he' e List.mem_cons_self
    rw [List.foldl_cons, ih, hlast, List.append_assoc, List.singleton_append]
    rw [hlast, List.append_assoc, List.singleton_append]
    exact h

/-- A table is rebuilt from its entries. -/
theorem ofList_entries [Std.TransOrd κ] [Std.LawfulEqOrd κ] (t : Table κ α) :
    ofList t.entries = t := by
  have hentries : (ofList t.entries).entries = t.entries := entries_foldl_insert t.ascending
  cases t
  rw [mk.injEq, hentries]

/-- Of the entries that are put into a table, the last of its key counts. -/
theorem get?_foldl_insert [Std.TransOrd κ] [Std.LawfulEqOrd κ] [DecidableEq κ]
    (es : List (κ × α)) (t : Table κ α) (k : κ) :
    (es.foldl (fun t e => t.insert e.1 e.2) t).get? k =
      ((es.reverse.find? fun e => k = e.1).map Prod.snd).or (t.get? k) := by
  induction es generalizing t with
  | nil => rfl
  | cons e rest ih =>
    rw [List.foldl_cons, ih, get?_insert, List.reverse_cons, List.find?_append]
    cases rest.reverse.find? fun e => k = e.1 with
    | some e' => rfl
    | none => by_cases hk : k = e.1 <;> simp [hk]

/-- Of several entries with one key in a list, the last one counts. -/
theorem get?_ofList [Std.TransOrd κ] [Std.LawfulEqOrd κ] [DecidableEq κ] (es : List (κ × α))
    (k : κ) : (ofList es).get? k = (es.reverse.find? fun e => k = e.1).map Prod.snd := by
  rw [ofList, get?_foldl_insert, get?_empty, Option.or_none]

end Table

end ReverseReplication
