import ReverseReplication.Text.Alphanumeric
import ReverseReplication.Text.Blank

/-!
# Tokens of patterns

A pattern describes texts: characters that stand for themselves, classes of characters, groups,
alternatives and repetitions. Here are the pieces that it is cut into: flags, escapes, the openings
of groups and the named classes. A reader takes its piece off the front and gives back what
follows; it gives nothing where no such piece stands.

No table of the cases and kinds of characters beyond ASCII is at hand. So while classes hold
characters (the flag `unicode`), nothing can be matched without regard to case, and the classes of
digits, blanks and word characters cannot be used. While they hold bytes, what matches has to stay
ASCII, which leaves out every class that is negated.
-/

namespace ReverseReplication.Text.Pattern

/-! ## Flags -/

/-- How a part of a pattern is read. -/
structure Flags where
  /-- A letter stands for both of its cases. -/
  ignoreCase : Bool := false
  /-- Classes hold characters, and not bytes. -/
  unicode : Bool := true
  /-- Blanks and comments between items are passed over. -/
  verbose : Bool := false
  deriving DecidableEq, Repr

namespace Flags

/-- The letters that name flags; `i`, `u` and `x` are those of the structure. -/
def letters : List Char := ['i', 'm', 's', 'U', 'u', 'R', 'x']

/-- Is it a change of flags? Its letters differ, and a minus sign, of which there is at most one,
has letters behind it. -/
def isChange (cs : List Char) : Bool :=
  cs.all (fun c => c == '-' || letters.contains c) && cs.eraseDups.length == cs.length
    && cs.getLast? != some '-'

/-- What a change makes of the flag of a letter: letters behind the minus sign switch off. -/
def setting (change : List Char) (letter : Char) (before : Bool) : Bool :=
  if (change.takeWhile (· != '-')).contains letter then true
  else if change.contains letter then false
  else before

/-- The flags after a change. -/
def apply (change : List Char) (f : Flags) : Flags where
  ignoreCase := setting change 'i' f.ignoreCase
  unicode := setting change 'u' f.unicode
  verbose := setting change 'x' f.verbose

end Flags

/-- Passes over blanks and comments; a comment lasts from a number sign to the end of its line. -/
def passBlanks (inComment : Bool) : List Char → List Char
  | [] => []
  | c :: cs =>
    if inComment then passBlanks (c != '\n') cs
    else if isBlank c then passBlanks false cs
    else if c = '#' then passBlanks true cs
    else c :: cs

/-- Passes over what does not count between two items. -/
def skipBlanks (f : Flags) (cs : List Char) : List Char :=
  if f.verbose then passBlanks false cs else cs

/-! ## Atoms -/

/-- The smallest parts of a pattern. -/
inductive Atom where
  /-- A character that stands for itself; `isByte` if it was given as a byte of two hexadecimal
  digits. -/
  | literal (c : Char) (isByte : Bool)
  /-- Any character but the end of a line. -/
  | any
  /-- The digits, the blanks or the word characters, or all others. -/
  | kind (negated : Bool)
  /-- A begin or an end of a word, or a place that is neither. -/
  | wordBoundary
  /-- A begin or an end of a line or of the whole. -/
  | anchor
  deriving DecidableEq, Repr

/-- May it stand outside of a class? -/
def Atom.isItem (f : Flags) : Atom → Bool
  | .literal c isByte => if f.unicode then !f.ignoreCase else !(isByte && 127 < c.toNat)
  | .any => f.unicode
  | .kind negated => !f.unicode && !negated
  | .wordBoundary | .anchor => true

/-- May it stand in a class? -/
def Atom.isMember (f : Flags) : Atom → Bool
  | .literal c _ => if f.unicode then !f.ignoreCase else c.toNat < 128
  | .kind negated => !f.unicode && !negated
  | .any | .wordBoundary | .anchor => false

/-- The value of a hexadecimal digit. -/
def hexDigit? (c : Char) : Option Nat :=
  let low := c.toLower
  if c.isDigit then some (c.toNat - '0'.toNat)
  else if 'a' ≤ low ∧ low ≤ 'f' then some (low.toNat - 'a'.toNat + 10)
  else none

/-- Reads so many hexadecimal digits behind those that have the value `n`. -/
def hexFrom (f : Flags) : Nat → Nat → List Char → Option (Nat × List Char)
  | 0, n, cs => some (n, cs)
  | count + 1, n, cs =>
    match skipBlanks f cs with
    | [] => none
    | c :: rest => (hexDigit? c).bind fun d => hexFrom f count (16 * n + d) rest

/-- Reads a character that is given by so many hexadecimal digits. -/
def hexLiteral? (f : Flags) (count : Nat) (cs : List Char) : Option (Atom × List Char) :=
  (hexFrom f count 0 cs).bind fun (n, rest) =>
    if n.isValidChar then some (.literal (.ofNat n) (count = 2), rest) else none

/-- Reads what follows a backslash. Signs stand for themselves; letters have meanings of their own,
and digits have none. A property of characters, such as `\pL`, is never known. -/
def escaped? (f : Flags) : List Char → Option (Atom × List Char)
  | [] => none
  | c :: cs =>
    match c with
    | 'x' => hexLiteral? f 2 cs
    | 'u' => hexLiteral? f 4 cs
    | 'U' => hexLiteral? f 8 cs
    | 'd' | 's' | 'w' => some (.kind false, cs)
    | 'D' | 'S' | 'W' => some (.kind true, cs)
    | 'b' | 'B' | '<' | '>' => some (.wordBoundary, cs)
    | 'A' | 'z' => some (.anchor, cs)
    | 'a' => some (.literal '\x07' false, cs)
    | 'f' => some (.literal '\x0c' false, cs)
    | 't' => some (.literal '\t' false, cs)
    | 'n' => some (.literal '\n' false, cs)
    | 'r' => some (.literal '\r' false, cs)
    | 'v' => some (.literal '\x0b' false, cs)
    | _ => if c.toNat < 128 && !c.isAlphanum then some (.literal c false, cs) else none

/-! ## Groups -/

/-- How a group opens, or what stands in place of one. -/
inductive Opening where
  | group
  | named (name : List Char)
  /-- A group with flags of its own. -/
  | flagged (change : List Char)
  /-- No group: the flags change up to the end of the group around. -/
  | change (change : List Char)
  deriving DecidableEq, Repr

/-- Is it a name for a group? A letter or an underscore leads it. -/
def isName : List Char → Bool
  | [] => false
  | c :: cs =>
    (c == '_' || isAlphabetic c)
      && cs.all fun c => ['_', '.', '[', ']'].contains c || isAlphanumeric c

/-- Reads a name and the angle bracket after it. -/
def named? (cs : List Char) : Option (Opening × List Char) :=
  let name := cs.takeWhile (· != '>')
  match cs.drop name.length with
  | _ :: rest => if isName name then some (.named name, rest) else none
  | [] => none

/-- Reads a change of flags, with a colon where a group begins, or a parenthesis. -/
def flagged? (cs : List Char) : Option (Opening × List Char) :=
  let change := cs.takeWhile fun c => c != ':' && c != ')'
  if !Flags.isChange change then none
  else
    match cs.drop change.length with
    | ':' :: rest => some (.flagged change, rest)
    | _ :: rest => if change = [] then none else some (.change change, rest)
    | [] => none

/-- Reads what follows an opening parenthesis. Looking ahead or behind is not provided for. -/
def opening? : List Char → Option (Opening × List Char)
  | '?' :: '<' :: cs | '?' :: 'P' :: '<' :: cs => named? cs
  | '?' :: cs => flagged? cs
  | cs => some (.group, cs)

/-! ## Named classes -/

/-- The names of classes of ASCII characters. -/
def classNames : List String :=
  ["alnum", "alpha", "ascii", "blank", "cntrl", "digit", "graph", "lower", "print", "punct",
    "space", "upper", "word", "xdigit"]

/-- Reads what follows a bracket in a class, if a named class stands there; tells whether it is
negated. -/
def namedClass? : List Char → Option (Bool × List Char)
  | ':' :: cs =>
    let negated := cs.head? == some '^'
    let cs := if negated then cs.drop 1 else cs
    let name := cs.takeWhile (· != ':')
    match cs.drop name.length with
    | ':' :: ']' :: rest =>
      if classNames.contains (.ofList name) then some (negated, rest) else none
    | _ => none
  | _ => none

/-- May a named class stand in a class? -/
def isNamedMember (f : Flags) (negated : Bool) : Bool :=
  if f.unicode then !f.ignoreCase else !negated

/-! ## Members of classes -/

/-- Reads a member of a class that begins with `c`. -/
def member? (f : Flags) (c : Char) (cs : List Char) : Option (Atom × List Char) :=
  let read := if c = '\\' then escaped? f cs else some (.literal c false, cs)
  read.filter fun r => r.1.isMember f

/-- The character that decides whether a minus sign before `cs` makes a range. Blanks are looked
past, and a number sign, but not the comment that it begins. -/
def ahead? (f : Flags) (cs : List Char) : Option Char :=
  if !f.verbose then cs.head?
  else
    match cs.dropWhile isBlank with
    | '#' :: rest => (rest.dropWhile isBlank).head?
    | rest => rest.head?

/-- Reads a member or a range of a class that begins with `c`. A minus sign that is seen before the
end of the class, or before another minus sign, makes no range. -/
def range? (f : Flags) (c : Char) (cs : List Char) : Option (List Char) :=
  (member? f c cs).bind fun (first, rest) =>
    match skipBlanks f rest with
    | '-' :: after =>
      if ahead? f after = some ']' ∨ ahead? f after = some '-' then some ('-' :: after)
      else
        match skipBlanks f after with
        | [] => none
        | d :: ds =>
          (member? f d ds).bind fun (last, rest) =>
            match first, last with
            | .literal a _, .literal b _ => if a ≤ b then some rest else none
            | _, _ => none
    | rest => some rest

end ReverseReplication.Text.Pattern
