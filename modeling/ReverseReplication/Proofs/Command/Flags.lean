import Mathlib.Data.List.Basic
import ReverseReplication.Pipeline.Launch
import ReverseReplication.Proofs.Separators

/-!
# Flags and lists in a command

A command is a text with flags behind it, and each flag begins in the same way. Where no flag begins
inside a value, the values can be told from each other again: a text ends where the next flag begins
(`append_inj_of_unflagged`), so a run of flags can be read in one way only (`written_injective`).
Likewise for the items of a list with commas between them (`intercalate_comma_injective`), and for
the two sides of an assignment (`assignment_injective`).
-/

namespace ReverseReplication.Launch

/-! ## Texts without flags -/

/-- What every flag begins with. -/
def lead : List Char := [' ', '-', '-']

/-- No flag begins inside the text. -/
def Unflagged (s : String) : Prop := ¬lead <:+: s.toList

instance (s : String) : Decidable (Unflagged s) := inferInstanceAs (Decidable ¬_)

/-- The end of a command, or its next flag. -/
def Resumes (cs : List Char) : Prop := cs = [] ∨ lead <+: cs

/-- A flag that begins inside a text before the end of a command, or before its next flag, has its
whole beginning there: no two beginnings overlap. -/
theorem lead_prefix_of_resumes {cs rest : List Char} (hne : cs ≠ []) (hboth : Resumes (cs ++ rest))
    (hrest : Resumes rest) : lead <+: cs := by
  have hlead : lead <+: cs ++ rest := hboth.resolve_left (by simp [hne])
  have hspace : ∀ tail, ¬('-' :: tail <+: rest) := by
    intro tail htail
    rcases hrest with rfl | ⟨more, rfl⟩ <;> simp [lead, List.cons_prefix_cons] at htail
  match cs with
  | [] => exact absurd rfl hne
  | [_] => exact absurd (List.cons_prefix_cons.1 hlead).2 (hspace _)
  | [_, _] => exact absurd (List.cons_prefix_cons.1 (List.cons_prefix_cons.1 hlead).2).2 (hspace _)
  | _ :: _ :: _ :: _ => simpa [lead, List.cons_prefix_cons] using hlead

/-- A text ends where the next flag begins. -/
theorem append_inj_of_unflagged {s s' : String} {rest rest' : List Char} (hs : Unflagged s)
    (hs' : Unflagged s') (hrest : Resumes rest) (hrest' : Resumes rest')
    (h : s.toList ++ rest = s'.toList ++ rest') : s = s' ∧ rest = rest' := by
  have hnil : ∀ {t u : String} {more r r' : List Char}, Unflagged u → Resumes r → Resumes r' →
      u.toList = t.toList ++ more → r = more ++ r' → more = [] := by
    intro t u more r r' hu hr hr' hsplit hreach
    by_contra hne
    rw [hreach] at hr
    have hlead := lead_prefix_of_resumes hne hr hr'
    exact hu (hlead.isInfix.trans ⟨t.toList, [], by rw [hsplit, List.append_nil]⟩)
  rcases List.append_eq_append_iff.1 h with ⟨more, hsplit, hreach⟩ | ⟨more, hsplit, hreach⟩
  · obtain rfl := hnil hs' hrest hrest' hsplit hreach
    rw [List.append_nil, String.toList_inj] at hsplit
    exact ⟨hsplit.symm, hreach⟩
  · obtain rfl := hnil hs hrest' hrest hsplit hreach
    rw [List.append_nil, String.toList_inj] at hsplit
    exact ⟨hsplit, hreach.symm⟩

/-- No flag begins inside a list whose items are joined by another character. -/
theorem Unflagged.append {s t u : String} {c : Char} (hs : Unflagged s) (ht : Unflagged t)
    (hc : c ∉ lead) (hu : u.toList = s.toList ++ c :: t.toList) : Unflagged u := by
  intro hinside
  rw [hu, List.infix_append_iff] at hinside
  rcases hinside with hinside | hinside | ⟨front, back, hlead, ⟨before, hfront⟩, hback⟩
  · exact hs hinside
  · rcases List.infix_cons_iff.1 hinside with hprefix | hinside
    · exact hc ((List.cons_prefix_cons.1 hprefix).1 ▸ List.mem_cons_self)
    · exact ht hinside
  · cases back with
    | nil =>
      rw [List.append_nil] at hlead
      exact hs ⟨before, [], by rw [hlead, List.append_nil, hfront]⟩
    | cons b back =>
      obtain ⟨rfl, -⟩ := List.cons_prefix_cons.1 hback
      exact hc (by rw [hlead]; simp)

/-- An equals sign does not make two texts look like the begin of a flag. -/
theorem unflagged_append_equals {s t : String} (hs : Unflagged s) (ht : Unflagged t) :
    Unflagged (s ++ "=" ++ t) :=
  hs.append ht (c := '=') (by decide) (by simp)

/-- Nor do commas between items. -/
theorem unflagged_intercalate {items : List String} (h : ∀ s ∈ items, Unflagged s) :
    Unflagged (",".intercalate items) := by
  induction items with
  | nil => decide
  | cons s rest ih =>
    obtain ⟨hs, hrest⟩ := List.forall_mem_cons.1 h
    cases rest with
    | nil => simpa using hs
    | cons t rest => exact hs.append (ih hrest) (c := ',') (by decide) (by simp)

/-! ## Lists and assignments -/

/-- Lists whose items hold no comma can be told from each other. -/
theorem intercalate_comma_injective {items items' : List String}
    (h : ∀ s ∈ items, ',' ∉ s.toList) (h' : ∀ s ∈ items', ',' ∉ s.toList) (hne : items ≠ [])
    (hne' : items' ≠ []) (heq : ",".intercalate items = ",".intercalate items') :
    items = items' := by
  have hsplit : ∀ {items : List String}, (∀ s ∈ items, ',' ∉ s.toList) → items ≠ [] →
      (",".intercalate items).toList.splitOn ',' = items.map String.toList := by
    intro items h hne
    rw [String.toList_intercalate]
    exact List.splitOn_intercalate ',' (by simpa using h) (by simpa using hne)
  have hmap : items.map String.toList = items'.map String.toList := by
    rw [← hsplit h hne, ← hsplit h' hne', heq]
  exact (List.map_inj_right fun _ _ => String.toList_inj.1).1 hmap

/-- Assignments whose keys hold no equals sign can be told from each other. -/
theorem assignment_injective {e e' : String × String} (h : '=' ∉ e.1.toList)
    (h' : '=' ∉ e'.1.toList) (heq : e.1 ++ "=" ++ e.2 = e'.1 ++ "=" ++ e'.2) : e = e' := by
  have hchars : e.1.toList ++ '=' :: e.2.toList = e'.1.toList ++ '=' :: e'.2.toList := by
    simpa using congrArg String.toList heq
  obtain ⟨hkey, hvalue⟩ := Text.parts_inj h h' hchars
  exact Prod.ext (String.toList_inj.1 hkey) (String.toList_inj.1 hvalue)

/-- If no name has an equals sign, assignments tell their names and values apart. -/
theorem map_assignment_injective {es es' : List (String × String)}
    (h : ∀ e ∈ es, '=' ∉ e.1.toList) (h' : ∀ e ∈ es', '=' ∉ e.1.toList)
    (heq : es.map (fun e => e.1 ++ "=" ++ e.2) = es'.map fun e => e.1 ++ "=" ++ e.2) :
    es = es' := by
  induction es generalizing es' with
  | nil =>
    rw [List.map_nil, eq_comm, List.map_eq_nil_iff] at heq
    exact heq.symm
  | cons e rest ih =>
    obtain ⟨e', rest', rfl, hhead, hrest⟩ := List.map_eq_cons_iff.1 heq.symm
    obtain ⟨he, hes⟩ := List.forall_mem_cons.1 h
    obtain ⟨he', hes'⟩ := List.forall_mem_cons.1 h'
    rw [assignment_injective he he' hhead.symm, ih hes hes' hrest.symm]

/-! ## Runs of flags -/

/-- A flag that is given. -/
structure Flag where
  /-- The name, with what stands between it and the value. -/
  name : String
  value : String

/-- The flags as they stand in a command. -/
def written : List Flag → List Char
  | [] => []
  | f :: rest => lead ++ (f.name.toList ++ (f.value.toList ++ written rest))

/-- The names that flags have. -/
def flagNames : List String := [
  "project=", "region=", "template-file-gcs-location=", "num-workers=", "max-workers=",
  "worker-machine-type=", "service-account-email=", "network=", "subnetwork=", "dataflow-kms-key=",
  "additional-experiments=", "additional-user-labels=", "enable-streaming-engine", "parameters "]

/-- The name of the flag that a command ends with. -/
def lastName : String := "parameters "

/-- No name continues another one. -/
theorem flagNames_prefixFree : ∀ a ∈ flagNames, ∀ b ∈ flagNames, a.toList <+: b.toList → a = b := by
  decide

/-- The flags can be read: there is no other flag in the value of one that is followed by others. -/
structure Legible (flags : List Flag) : Prop where
  named : ∀ f ∈ flags, f.name ∈ flagNames
  unflagged : ∀ f ∈ flags, f.name ≠ lastName → Unflagged f.value
  last : flags.Pairwise fun f _ => f.name ≠ lastName

/-- What is written of flags is empty, or begins as a flag does. -/
theorem resumes_written (flags : List Flag) : Resumes (written flags) := by
  cases flags with
  | nil => exact .inl rfl
  | cons f rest => exact .inr (List.prefix_append lead _)

variable {flags flags' : List Flag} {f f' : Flag}

/-- What stands behind the first flag is legible, too. -/
theorem Legible.tail (h : Legible (f :: flags)) : Legible flags where
  named := fun g hg => h.named g (List.mem_cons_of_mem f hg)
  unflagged := fun g hg => h.unflagged g (List.mem_cons_of_mem f hg)
  last := (List.pairwise_cons.1 h.last).2

/-- The last flag is the last. -/
theorem Legible.eq_nil (h : Legible (f :: flags)) (hname : f.name = lastName) : flags = [] := by
  cases flags with
  | nil => rfl
  | cons g rest => exact absurd hname ((List.pairwise_cons.1 h.last).1 g List.mem_cons_self)

/-- Flags that can be read begin with the same one where they are written alike. -/
theorem Legible.head_eq (h : Legible (f :: flags)) (h' : Legible (f' :: flags'))
    (heq : written (f :: flags) = written (f' :: flags')) :
    f = f' ∧ written flags = written flags' := by
  have hbehind := List.append_cancel_left heq
  have hname : f.name = f'.name := by
    have hn := h.named f List.mem_cons_self
    have hn' := h'.named f' List.mem_cons_self
    have hfits := List.prefix_append f.name.toList (f.value.toList ++ written flags)
    rw [hbehind] at hfits
    rcases List.prefix_or_prefix_of_prefix hfits (List.prefix_append _ _) with hprefix | hprefix
    · exact flagNames_prefixFree _ hn _ hn' hprefix
    · exact (flagNames_prefixFree _ hn' _ hn hprefix).symm
  rw [hname] at hbehind
  have hvalues := List.append_cancel_left hbehind
  obtain ⟨hvalue, hrest⟩ : f.value = f'.value ∧ written flags = written flags' := by
    by_cases hlast : f.name = lastName
    · rw [h.eq_nil hlast, h'.eq_nil (hname ▸ hlast)] at hvalues ⊢
      exact ⟨String.toList_inj.1 (by simpa [written] using hvalues), rfl⟩
    · exact append_inj_of_unflagged (h.unflagged f List.mem_cons_self hlast)
        (h'.unflagged f' List.mem_cons_self (hname ▸ hlast)) (resumes_written flags)
        (resumes_written flags') hvalues
  refine ⟨?_, hrest⟩
  cases f
  cases f'
  rw [Flag.mk.injEq]
  exact ⟨hname, hvalue⟩

/-- Flags that can be read are known from how they are written. -/
theorem written_injective (h : Legible flags) (h' : Legible flags')
    (heq : written flags = written flags') : flags = flags' := by
  induction flags generalizing flags' with
  | nil =>
    cases flags' with
    | nil => rfl
    | cons f' rest' => cases heq
  | cons f rest ih =>
    cases flags' with
    | nil => cases heq
    | cons f' rest' =>
      obtain ⟨hhead, hrest⟩ := h.head_eq h' heq
      rw [hhead, ih h.tail h'.tail hrest]

/-! ## Optional flags -/

/-- The flags that have a value. -/
def given (slots : List (String × Option String)) : List Flag :=
  slots.filterMap fun s => s.2.map (Flag.mk s.1)

/-- What stands in a command for a flag that may be given. -/
def shown (name : String) (value? : Option String) : List Char :=
  value?.elim [] fun value => lead ++ (name.toList ++ value.toList)

/-- A flag that is not given is not written, and the others follow. -/
theorem written_given_cons (name : String) (value? : Option String)
    (slots : List (String × Option String)) :
    written (given ((name, value?) :: slots)) = shown name value? ++ written (given slots) := by
  cases value? <;> simp [given, shown, written]

/-- The flags that are given are those that have a value. -/
theorem mem_given {slots : List (String × Option String)} {f : Flag} :
    f ∈ given slots ↔ (f.name, some f.value) ∈ slots := by
  unfold given
  rw [List.mem_filterMap]
  constructor
  · rintro ⟨⟨name, value?⟩, hmem, hf⟩
    obtain ⟨value, rfl, rfl⟩ := Option.map_eq_some_iff.1 hf
    exact hmem
  · intro hmem
    exact ⟨_, hmem, rfl⟩

/-- A name that no flag has does not begin the flags. -/
theorem given_ne_cons {slots : List (String × Option String)} {name : String}
    (hfresh : name ∉ slots.map Prod.fst) (value : String) (rest : List Flag) :
    given slots ≠ ⟨name, value⟩ :: rest := by
  intro heq
  have hmem : (⟨name, value⟩ : Flag) ∈ given slots := heq ▸ List.mem_cons_self
  exact hfresh (List.mem_map.2 ⟨_, mem_given.1 hmem, rfl⟩)

/-- Whether a flag is given, and with which value, is known from the flags that are. -/
theorem given_injective {slots slots' : List (String × Option String)}
    (hnames : slots.map Prod.fst = slots'.map Prod.fst) (hnodup : (slots.map Prod.fst).Nodup)
    (heq : given slots = given slots') : slots = slots' := by
  induction slots generalizing slots' with
  | nil =>
    rw [List.map_nil, eq_comm, List.map_eq_nil_iff] at hnames
    exact hnames.symm
  | cons s rest ih =>
    obtain ⟨⟨_, value?'⟩, rest', rfl, rfl, hrest⟩ := List.map_eq_cons_iff.1 hnames.symm
    obtain ⟨name, value?⟩ := s
    obtain ⟨hfresh, hdistinct⟩ := List.nodup_cons.1 hnodup
    have hfresh' : name ∉ rest'.map Prod.fst := hrest ▸ hfresh
    cases value? with
    | none =>
      cases value?' with
      | none => rw [ih hrest.symm hdistinct heq]
      | some value' => exact absurd heq (given_ne_cons hfresh value' _)
    | some value =>
      cases value?' with
      | none => exact absurd heq.symm (given_ne_cons hfresh' value _)
      | some value' =>
        obtain ⟨hflag, hmore⟩ := List.cons_eq_cons.1 heq
        rw [ih hrest.symm hdistinct hmore, (Flag.mk.inj hflag).2]

end ReverseReplication.Launch
