import ReverseReplication.Json.Value
import ReverseReplication.Proofs.Json.Spelling

/-!
# The two layouts of a value

A value is written without spaces or over several lines. Both are texts of the value, so a reader of
tokens cannot tell them apart: it is given the tokens of the value in either case
(`Value.tokens_compact`, `Value.tokens_pretty`).
-/

namespace ReverseReplication.Json

open ReverseReplication.Text (symbols utf8 symbols_utf8)

namespace Value

/-- Every token of the value is one that values are written with. -/
def Written (v : Value) : Prop := ∀ t ∈ v.tokens, t.Written

/-- The tokens of a value are read off each of its texts. -/
theorem tokens_of_typeset {v : Value} {s : String} (h : Typeset s.toList v.tokens) :
    Json.tokens (symbols (utf8 s)) = v.tokens := by
  rw [symbols_utf8, tokens_eq_of_typeset h]

/-! ## Without spaces -/

/-- A value without spaces is a typesetting of its tokens. -/
theorem typeset_compact {v : Value} (hv : v.Written) : Typeset v.compact.toList v.tokens := by
  have htext : Typeset (v.tokens.flatMap Token.spell ++ []) (v.tokens ++ []) := .written hv .nil
  rw [List.append_nil, List.append_nil] at htext
  rw [compact, spell, String.toList_ofList]
  exact htext

/-- The tokens of a value are read off its text without spaces. -/
theorem tokens_compact {v : Value} (hv : v.Written) :
    Json.tokens (symbols (utf8 v.compact)) = v.tokens :=
  tokens_of_typeset (typeset_compact hv)

/-! ## Over several lines -/

/-- A new line and its indentation are blanks. -/
theorem isSpace_of_mem_newLine {depth : Nat} : ∀ c ∈ newLine depth, Token.isSpace c = true := by
  intro c hc
  rcases List.mem_cons.1 hc with rfl | hc
  · rfl
  · rw [List.eq_of_mem_replicate hc]
    rfl

/-- A new line may begin before anything. -/
theorem typeset_newLine (depth : Nat) {cs : List Char} {ts : List Token} (rest : Typeset cs ts) :
    Typeset (newLine depth ++ cs) ts :=
  .blanks isSpace_of_mem_newLine rest

mutual

/-- A value over many lines, at any depth, is a typesetting of its tokens. -/
theorem typeset_prettyChars (depth : Nat) (v : Value) {cs : List Char} {ts : List Token}
    (hv : ∀ t ∈ v.tokens, t.Written) (rest : Typeset cs ts) :
    Typeset (v.prettyChars depth ++ cs) (v.tokens ++ ts) := by
  cases v with
  | array items =>
    cases items with
    | nil =>
      show Typeset (['['] ++ ([']'] ++ cs)) _
      exact .token (.mark .openBracket) (.token (.mark .closeBracket) rest)
    | cons v vs =>
      simp only [tokens, itemTokens, prettyChars, List.forall_mem_cons, List.forall_mem_append,
        List.append_assoc, List.cons_append] at hv ⊢
      have items := typeset_prettyItems depth vs hv.2.2 rest
      have value := typeset_prettyChars (depth + 1) v hv.2.1 items
      exact .token (.mark .openBracket) (typeset_newLine _ value)
  | object members =>
    cases members with
    | nil =>
      show Typeset (['{'] ++ (['}'] ++ cs)) _
      exact .token (.mark .openBrace) (.token (.mark .closeBrace) rest)
    | cons m ms =>
      simp only [tokens, memberTokens, prettyChars, List.forall_mem_cons, List.forall_mem_append,
        List.append_assoc, List.cons_append] at hv ⊢
      have members := typeset_prettyMembers depth ms hv.2.2.2.2 rest
      have value := typeset_prettyChars (depth + 1) m.2 hv.2.2.2.1 members
      have colon := Typeset.token (.mark .colon) (.blank (c := ' ') rfl value)
      exact .token (.mark .openBrace) (typeset_newLine _ (.token hv.2.1.spelled colon))
  | _ =>
    simp only [tokens, List.forall_mem_cons, List.cons_append, List.nil_append] at hv ⊢
    exact .token hv.1.spelled rest

/-- So are the items of a sequence, each on its own line. -/
theorem typeset_prettyItems (depth : Nat) (vs : List Value) {cs : List Char} {ts : List Token}
    (hvs : ∀ t ∈ itemTokens false vs, t.Written) (rest : Typeset cs ts) :
    Typeset (prettyItems depth vs ++ cs) (itemTokens false vs ++ ts) := by
  cases vs with
  | nil =>
    simp only [itemTokens, prettyItems, List.append_assoc, List.cons_append, List.nil_append]
    exact typeset_newLine depth (.token (.mark .closeBracket) rest)
  | cons v vs =>
    simp only [itemTokens, prettyItems, List.forall_mem_cons, List.forall_mem_append,
      List.append_assoc, List.cons_append] at hvs ⊢
    have items := typeset_prettyItems depth vs hvs.2.2 rest
    have value := typeset_prettyChars (depth + 1) v hvs.2.1 items
    exact .token (.mark .comma) (typeset_newLine _ value)

/-- So are the members of a map, each on its own line. -/
theorem typeset_prettyMembers (depth : Nat) (ms : List (String × Value)) {cs : List Char}
    {ts : List Token} (hms : ∀ t ∈ memberTokens false ms, t.Written) (rest : Typeset cs ts) :
    Typeset (prettyMembers depth ms ++ cs) (memberTokens false ms ++ ts) := by
  cases ms with
  | nil =>
    simp only [memberTokens, prettyMembers, List.append_assoc, List.cons_append, List.nil_append]
    exact typeset_newLine depth (.token (.mark .closeBrace) rest)
  | cons m ms =>
    simp only [memberTokens, prettyMembers, List.forall_mem_cons, List.forall_mem_append,
      List.append_assoc, List.cons_append] at hms ⊢
    have members := typeset_prettyMembers depth ms hms.2.2.2.2 rest
    have value := typeset_prettyChars (depth + 1) m.2 hms.2.2.2.1 members
    have colon := Typeset.token (.mark .colon) (.blank (c := ' ') rfl value)
    exact .token (.mark .comma) (typeset_newLine _ (.token hms.2.1.spelled colon))

end

/-- A value over many lines is a typesetting of its tokens. -/
theorem typeset_pretty {v : Value} (hv : v.Written) : Typeset v.pretty.toList v.tokens := by
  have htext : Typeset (v.prettyChars 0 ++ []) (v.tokens ++ []) := v.typeset_prettyChars 0 hv .nil
  rw [List.append_nil, List.append_nil] at htext
  rw [pretty, String.toList_ofList]
  exact htext

/-- The tokens of a value are read off its text over several lines. -/
theorem tokens_pretty {v : Value} (hv : v.Written) :
    Json.tokens (symbols (utf8 v.pretty)) = v.tokens :=
  tokens_of_typeset (typeset_pretty hv)

end Value

end ReverseReplication.Json
