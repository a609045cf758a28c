import ReverseReplication.Text.Pattern.Token

/-!
# Faults of patterns

Whether a pattern can be used (`Pattern.fault?`). A pattern is read in one pass that keeps what is
open around the place: the groups, and the classes within the innermost. What a pattern matches is
of no interest here.

A pattern may hold no brace outside of a class unless a backslash stands before it: a count of
repetitions is not provided for. Its parts nest at most `maxDepth` deep, where a group, a
repetition, a class, several items in a row and several alternatives are a level each.
-/

namespace ReverseReplication.Text.Pattern

/-- What is wrong with a pattern. -/
inductive Fault where
  | malformed
  /-- It asks for the boundary of a word whose characters go beyond ASCII. -/
  | wordBoundary
  deriving DecidableEq, Repr

def Fault.message : Fault → String
  | .malformed => "error building NFA"
  | .wordBoundary =>
    "unsupported regex feature for DFAs: cannot build DFAs for regexes with Unicode word "
      ++ "boundaries; switch to ASCII word boundaries, or heuristically enable Unicode word "
      ++ "boundaries or use a different regex engine"

/-- How deep the parts of a pattern may nest. -/
def maxDepth : Nat := 250

/-! ## What has been read -/

/-- The items of a group so far, by how deep they nest. -/
structure Items where
  /-- The number of items since the last bar. -/
  count : Nat := 0
  /-- The depth of the last item, if it may be repeated. -/
  last : Option Nat := none
  /-- The depth of the deepest item since the last bar. -/
  deepest : Nat := 0
  /-- The depth of the deepest alternative that has ended, if there is one. -/
  ended : Option Nat := none
  deriving DecidableEq, Repr

namespace Items

/-- Adds an item of some depth. -/
def add (depth : Nat) (i : Items) : Items :=
  { i with count := i.count + 1, last := some depth, deepest := max i.deepest depth }

/-- Adds a change of flags, which cannot be repeated. -/
def addChange (i : Items) : Items :=
  { i with count := i.count + 1, last := none }

/-- Repeats the last item. -/
def repeatLast? (i : Items) : Option Items :=
  i.last.map fun depth =>
    { i with last := some (depth + 1), deepest := max i.deepest (depth + 1) }

/-- The depth of several items together; a single one is no deeper for that. -/
def together (count deepest : Nat) : Nat := if count ≤ 1 then deepest else deepest + 1

/-- Ends an alternative. -/
def alternate (i : Items) : Items :=
  { ended := some (max (i.ended.getD 0) (together i.count i.deepest)) }

/-- The depth of the whole. -/
def depth (i : Items) : Nat :=
  match i.ended with
  | none => together i.count i.deepest
  | some d => max d (together i.count i.deepest) + 1

end Items

/-- What may come next in a class. -/
inductive Phase where
  /-- Nothing has been read: a circumflex negates the class. -/
  | opened
  /-- After the circumflex; here too a closing bracket is a member. -/
  | negated
  /-- After minus signs that lead the class, which are members. -/
  | dashes
  | body
  deriving DecidableEq, Repr

/-- A class that is open. -/
structure Class where
  phase : Phase := .opened
  /-- The number of members since the last operator. -/
  count : Nat := 0
  /-- The depth of the deepest of these members. -/
  deepest : Nat := 0
  /-- The depth of what stands before the last operator, if there is one. -/
  left : Option Nat := none
  deriving DecidableEq, Repr

namespace Class

/-- Adds a member of some depth. -/
def add (phase : Phase) (depth : Nat) (k : Class) : Class :=
  { k with phase := phase, count := k.count + 1, deepest := max k.deepest depth }

/-- The depth of the members, brackets apart. -/
def inside (k : Class) : Nat :=
  match k.left with
  | none => Items.together k.count k.deepest
  | some d => max d (Items.together k.count k.deepest) + 1

/-- Takes an operator: an intersection, a difference or a symmetric difference. -/
def operate (k : Class) : Class := { phase := .body, left := some k.inside }

end Class

/-- A pattern up to some place. -/
structure State where
  flags : Flags := {}
  /-- The items of the innermost open group. -/
  items : Items := {}
  /-- The groups around it, innermost first, with the flags that hold again at its end. -/
  around : List (Items × Flags) := []
  /-- The open classes, innermost first. -/
  classes : List Class := []
  /-- The names of groups so far. -/
  names : List (List Char) := []
  /-- Has a boundary of words beyond ASCII been asked for? -/
  wordBoundary : Bool := false
  deriving DecidableEq, Repr

namespace State

/-! ## Reading -/

/-- Opens a group. -/
def openGroup (flags : Flags) (s : State) : State :=
  { s with flags := flags, items := {}, around := (s.items, s.flags) :: s.around }

/-- Takes what follows an opening parenthesis. -/
def openWith (s : State) : Opening → Option State
  | .group => some (s.openGroup s.flags)
  | .named name =>
    if s.names.contains name then none
    else some (openGroup s.flags { s with names := name :: s.names })
  | .flagged change => some (s.openGroup (s.flags.apply change))
  | .change change =>
    some { s with flags := s.flags.apply change, items := s.items.addChange }

/-- Closes a group. -/
def closeGroup? (s : State) : Option State :=
  match s.around with
  | [] => none
  | (items, flags) :: around =>
    some { s with flags := flags, items := items.add (s.items.depth + 1), around := around }

/-- Adds an atom. -/
def addAtom? (s : State) (a : Atom) : Option State :=
  if a.isItem s.flags then
    some { s with
      items := s.items.add 0
      wordBoundary := s.wordBoundary || (a = .wordBoundary && s.flags.unicode) }
  else none

/-- Takes an item, or a part of a group, that begins with `c`. -/
def itemStep (s : State) (c : Char) (cs : List Char) : Option (State × List Char) :=
  match c with
  | '(' => do
    let (opening, rest) ← opening? (skipBlanks s.flags cs)
    return (← s.openWith opening, rest)
  | ')' => s.closeGroup?.map (·, cs)
  | '|' => some ({ s with items := s.items.alternate }, cs)
  | '[' => some ({ s with classes := [{}] }, cs)
  | '?' | '*' | '+' =>
    s.items.repeatLast?.map fun items =>
      ({ s with items := items }, if cs.head? = some '?' then cs.drop 1 else cs)
  | '\x7b' => none
  | '\\' => do
    let (a, rest) ← escaped? s.flags cs
    return (← s.addAtom? a, rest)
  | '.' => (s.addAtom? .any).map (·, cs)
  | '^' | '$' => (s.addAtom? .anchor).map (·, cs)
  | _ => (s.addAtom? (.literal c false)).map (·, cs)

/-- Closes the class `k` within the classes `outer`. -/
def closeClass (s : State) (k : Class) : List Class → State
  | [] => { s with items := s.items.add (k.inside + 1), classes := [] }
  | parent :: outer => { s with classes := parent.add .body (k.inside + 1) :: outer }

/-- Takes a part of the class `k`, within the classes `outer`, that begins with `c`. -/
def classStep (s : State) (k : Class) (outer : List Class) (c : Char) (cs : List Char) :
    Option (State × List Char) :=
  let isFirst := k.phase = .opened ∨ k.phase = .negated
  if c = '^' ∧ k.phase = .opened then
    if s.flags.unicode then
      some ({ s with classes := { k with phase := .negated } :: outer }, cs)
    else none
  else if c = '-' ∧ k.phase ≠ .body then
    (member? s.flags c cs).map fun r =>
      ({ s with classes := k.add .dashes 0 :: outer }, r.2)
  else if c = ']' ∧ isFirst then
    (member? s.flags c cs).map fun r => ({ s with classes := k.add .body 0 :: outer }, r.2)
  else if c = ']' then some (s.closeClass k outer, cs)
  else if c = '[' then
    match namedClass? cs with
    | some (negated, rest) =>
      if isNamedMember s.flags negated then
        some ({ s with classes := k.add .body 0 :: outer }, rest)
      else none
    | none => some ({ s with classes := {} :: { k with phase := .body } :: outer }, cs)
  else if (c = '&' ∨ c = '-' ∨ c = '~') ∧ cs.head? = some c then
    some ({ s with classes := k.operate :: outer }, cs.drop 1)
  else
    (range? s.flags c cs).map fun rest => ({ s with classes := k.add .body 0 :: outer }, rest)

/-- Takes what begins with `c`; gives what follows it. -/
def step (s : State) (c : Char) (cs : List Char) : Option (State × List Char) :=
  if s.flags.verbose && (isBlank c || c == '#') then some (s, skipBlanks s.flags (c :: cs))
  else
    match s.classes with
    | [] => s.itemStep c cs
    | k :: outer => s.classStep k outer c cs

/-- Reads a pattern on, passing over so many characters that have been taken. -/
def run : Nat → State → List Char → Option State
  | _, s, [] => some s
  | 0, s, c :: cs => (s.step c cs).bind fun (s, rest) => run (cs.length - rest.length) s cs
  | taken + 1, s, _ :: cs => run taken s cs

/-- Is the pattern whole: is nothing open, and nothing too deep? -/
def isWhole (s : State) : Bool :=
  s.around.isEmpty && s.classes.isEmpty && s.items.depth ≤ maxDepth

end State

/-- What is wrong with a pattern. -/
def fault? (cs : List Char) : Option Fault :=
  match State.run 0 {} cs with
  | none => some .malformed
  | some s =>
    if !s.isWhole then some .malformed
    else if s.wordBoundary then some .wordBoundary
    else none

end ReverseReplication.Text.Pattern
