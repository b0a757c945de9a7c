import ItemTable.Pattern
import ItemTable.Pattern.Brackets

set_option autoImplicit false

/-! # Reading patterns

The full notation: alternatives, repetition with `*`, `+`, `?` and counts in braces, lazy by a
question mark after that and giving nothing back by a plus sign, sets in brackets, groups with and
without name, flags, look-around, references to groups, anchors and escapes. `Pattern.read?` is
`none` for a text that is no pattern, such as one with an open group or a repetition of an anchor.
-/

namespace ItemTable

namespace Pattern

/-- What flags say about the pattern after them. -/
structure Flags where
  caseless : Bool := false
  lines : Bool := false
  dotAll : Bool := false
  swapped : Bool := false
  spaced : Bool := false

namespace Flags

/-- Flags with one of them set, if the letter is that of a flag. -/
def set? (flags : Flags) (letter : Char) (value : Bool) : Option Flags :=
  match letter with
  | 'i' => some { flags with caseless := value }
  | 'm' => some { flags with lines := value }
  | 's' => some { flags with dotAll := value }
  | 'U' => some { flags with swapped := value }
  | 'x' => some { flags with spaced := value }
  | 'u' => if value then some flags else none
  | _ => none

end Flags

/-- What a reading knows after a part of the text. -/
structure Reading where
  rest : List Char
  flags : Flags := {}
  /-- How many groups have been opened. -/
  groups : Nat := 0
  names : List (String × Nat) := []
  /-- Whether a group was referred to by its number. -/
  byNumber : Bool := false

/-- The text after a comment in parentheses. -/
def skipRemark? : List Char → Option (List Char)
  | [] => none
  | ')' :: rest => some rest
  | '\\' :: _ :: rest => skipRemark? rest
  | _ :: rest => skipRemark? rest

/-- The text from the first character on that is neither blank nor in a comment, looking at `fuel`
characters at most. -/
def skipSpace? (spaced : Bool) : Nat → List Char → Option (List Char)
  | 0, cs => some cs
  | fuel + 1, cs =>
    match cs with
    | '(' :: '?' :: '#' :: rest => (skipRemark? rest).bind (skipSpace? spaced fuel)
    | c :: rest =>
      if !spaced then some (c :: rest)
      else if c = '#' then skipSpace? spaced fuel ((rest.dropWhile (· != '\n')).drop 1)
      else if c = ' ' ∨ c = '\t' ∨ c = '\n' ∨ c = '\r' then skipSpace? spaced fuel rest
      else some (c :: rest)
    | [] => some []

namespace Reading

/-- The reading with the text from the next character on that counts. -/
def skip? (r : Reading) : Option Reading :=
  (skipSpace? r.flags.spaced r.rest.length r.rest).map fun rest => { r with rest := rest }

/-- The reading after a part of the text. -/
def after (r : Reading) (rest : List Char) : Reading := { r with rest := rest }

/-- One character of a set, whatever its case if a flag says so. -/
def chars (r : Reading) (set : CharSet) : Pattern := .chars (set.withCase r.flags.caseless)

end Reading

/-- Counts in braces after the opening brace, and the text after them. A missing low count is zero.
-/
def readCounts? (spaced : Bool) (cs : List Char) : Option (Nat × Option Nat × List Char) := do
  let skip (cs : List Char) := skipSpace? spaced cs.length cs
  let cs ← skip cs
  let (low, rest) := splitDigits cs
  if low.isEmpty && cs.head? != some ',' then none
  else
    let rest ← skip rest
    match rest with
    | '\x7d' :: rest => some (digitsValue low, some (digitsValue low), rest)
    | ',' :: rest =>
      let (high, rest) := splitDigits (← skip rest)
      match ← skip rest with
      | '\x7d' :: rest =>
        some (digitsValue low, if high.isEmpty then none else some (digitsValue high), rest)
      | _ => none
    | _ => none

/-- Whether a pattern may be repeated: it is neither empty nor only a place in the text. -/
def isRepeatable : Pattern → Bool
  | .empty | .start _ | .stop _ | .edge _ | .wordEnd _ | .ahead _ _ | .behind _ _ => false
  | _ => true

/-- The repetition that follows a pattern, if any. -/
def readRepeat? (p : Pattern) (r : Reading) : Option (Pattern × Reading) := do
  let r ← r.skip?
  let counts :=
    match r.rest with
    | '?' :: rest => some (0, some 1, rest)
    | '*' :: rest => some (0, none, rest)
    | '+' :: rest => some (1, none, rest)
    | '\x7b' :: rest => readCounts? r.flags.spaced rest
    | _ => none
  match counts with
  | none => some (p, r)
  | some (low, high, rest) =>
    if !isRepeatable p then none
    else
      let r ← (r.after rest).skip?
      let (isLazy, rest) :=
        match r.rest with
        | '?' :: rest => (true, rest)
        | rest => (false, rest)
      let node := Pattern.repeated p low high (isLazy == r.flags.swapped)
      match rest with
      | '+' :: rest => some (.once node, r.after rest)
      | rest => some (node, r.after rest)

/-- The characters that stand for a control or for themselves after a backslash. -/
def readLiteralEscape? (inBrackets : Bool) (c : Char) : Option Char :=
  match c with
  | 'a' => some (Char.ofNat 7)
  | 'b' => some (Char.ofNat 8)
  | 'f' => some (Char.ofNat 12)
  | 'n' => some '\n'
  | 'r' => some '\r'
  | 't' => some '\t'
  | 'v' => some (Char.ofNat 11)
  | 'e' => some (Char.ofNat 27)
  | c =>
    if !c.isAlpha || (inBrackets && "kAzBKG".toList.contains c) then some c else none

/-- A name up to a closing mark: letters, digits and underscores. -/
def readName? (close : Char) (cs : List Char) : Option (String × List Char) :=
  let isNamePart (c : Char) : Bool := c = '_' || CharSet.isAlphanumeric c
  let name := cs.takeWhile isNamePart
  match cs.dropWhile isNamePart with
  | c :: rest => if c = close ∧ name ≠ [] then some (String.ofList name, rest) else none
  | [] => none

/-- A reference by name or number, up to a closing mark. -/
def readNamedReference? (r : Reading) (close : Char) (cs : List Char) :
    Option (Pattern × Reading) := do
  let (name, rest) ← readName? close cs
  let number ← (r.names.find? (·.1 == name)).map (·.2) |>.or
    (if name.toList.all Char.isDigit then some (digitsValue name.toList) else none)
  if r.groups < number then none else some (.back number, r.after rest)

/-- Such a reference, or one to a group so many before the next one. -/
def readReference? (r : Reading) (close : Char) : List Char → Option (Pattern × Reading)
  | '-' :: cs => do
    let (name, rest) ← readName? close cs
    let distance := digitsValue name.toList
    if !name.toList.all Char.isDigit || r.groups + 1 < distance then none
    else some (.back (if distance = 0 then 0 else r.groups + 1 - distance), r.after rest)
  | cs => readNamedReference? r close cs

/-- A reference by a number alone, which has to be less than half the pattern's size. -/
def readNumberedReference? (size : Nat) (r : Reading) (cs : List Char) :
    Option (Pattern × Reading) :=
  let (digits, rest) := splitDigits cs
  let number := digitsValue digits
  if number < size / 2 ∧ number ≤ r.groups then
    some (.back number, { r.after rest with byNumber := true })
  else none

/-- An escape outside of brackets, after its backslash. -/
def readPlaceOrEscape? (size : Nat) (r : Reading) : List Char → Option (Pattern × Reading)
  | [] => none
  | 'k' :: '\'' :: rest => readReference? r '\'' rest
  | 'k' :: '<' :: rest => readReference? r '>' rest
  | 'A' :: rest => some (.start false, r.after rest)
  | 'z' :: rest => some (.stop false, r.after rest)
  | 'b' :: '\x7b' :: _ => none
  | 'b' :: rest => some (.edge true, r.after rest)
  | 'B' :: '\x7b' :: _ => none
  | 'B' :: rest => some (.edge false, r.after rest)
  | '<' :: rest => some (.wordEnd true, r.after rest)
  | '>' :: rest => some (.wordEnd false, r.after rest)
  | 'h' :: rest => some (.chars (.table ⟨[hexDigits], [], false⟩), r.after rest)
  | 'H' :: rest => some (.chars (.table ⟨[hexDigits], [], true⟩), r.after rest)
  | 'p' :: rest =>
    (readProperty? r.flags.caseless false rest).map fun (set, rest) => (.chars set, r.after rest)
  | 'P' :: rest =>
    (readProperty? r.flags.caseless true rest).map fun (set, rest) => (.chars set, r.after rest)
  | 'K' :: rest => some (.once .empty, r.after rest)
  | 'G' :: rest => some (.once (.start false), r.after rest)
  | c :: rest =>
    if c.isDigit then readNumberedReference? size r (c :: rest)
    else if "dDwWsS".toList.contains c then some (r.chars (.shorthand c), r.after rest)
    else
      match codeLength? c with
      | some count => (readCode? count rest).map fun (c, rest) => (r.chars (.single c), r.after rest)
      | none => (readLiteralEscape? false c).map fun c => (r.chars (.single c), r.after rest)
where
  /-- Hexadecimal digits of ASCII. -/
  hexDigits : Runs := [(0x30, 0x39, 1), (0x41, 0x46, 1), (0x61, 0x66, 1)]

/-- A character after a backslash where it may mean something. -/
def quoted (c : Char) : List Char :=
  if "\\.+*?()|[]\x7b\x7d^$#&-~".toList.contains c then ['\\', c] else [c]

/-- An escape in brackets as the notation of sets has it, after its backslash. -/
def bracketEscape? : List Char → Option (List Char × List Char)
  | [] => none
  | 'h' :: rest => some ("[0-9A-Fa-f]".toList, rest)
  | 'H' :: rest => some ("[^0-9A-Fa-f]".toList, rest)
  | 'p' :: '\x7b' :: rest => property 'p' rest
  | 'P' :: '\x7b' :: rest => property 'P' rest
  | 'p' :: c :: rest => some (['\\', 'p', c], rest)
  | 'P' :: c :: rest => some (['\\', 'P', c], rest)
  | c :: rest =>
    if c.isDigit then none
    else if "dDwWsS".toList.contains c then some (['\\', c], rest)
    else
      match codeLength? c with
      | some count => (readCode? count rest).map fun (c, rest) => (quoted c, rest)
      | none => (readLiteralEscape? true c).map fun c => (quoted c, rest)
where
  /-- A property with its braces. -/
  property (letter : Char) (cs : List Char) : Option (List Char × List Char) :=
    match cs.dropWhile (· != '\x7d') with
    | _ :: rest =>
      some (['\\', letter, '\x7b'] ++ cs.takeWhile (· != '\x7d') ++ ['\x7d'], rest)
    | [] => none

/-- The text of a set after its opening bracket, up to the bracket that closes it, in the notation
of sets; `nested` brackets are to be closed. -/
def bracketText? : Nat → Nat → List Char → Option (List Char × List Char)
  | 0, _, _ => none
  | fuel + 1, nested, cs =>
    match cs with
    | [] => none
    | '\\' :: rest => do
      let (part, rest) ← bracketEscape? rest
      let (text, rest) ← bracketText? fuel nested rest
      some (part ++ text, rest)
    | '[' :: rest => (bracketText? fuel (nested + 1) rest).map fun (text, rest) => ('[' :: text, rest)
    | ']' :: rest =>
      match nested with
      | 0 => some ([']'], rest)
      | n + 1 => (bracketText? fuel n rest).map fun (text, rest) => (']' :: text, rest)
    | c :: rest => (bracketText? fuel nested rest).map fun (text, rest) => (c :: text, rest)

/-- A set after its opening bracket. -/
def readSet? (r : Reading) (cs : List Char) : Option (Pattern × Reading) := do
  let (caret, cs) :=
    match cs with
    | '^' :: rest => (['^'], rest)
    | cs => ([], cs)
  let (first, cs) :=
    match cs with
    | ']' :: rest => ([']'], rest)
    | cs => ([], cs)
  let (text, rest) ← bracketText? (cs.length + 1) 0 cs
  let text := caret ++ first ++ text
  match readBrackets r.flags.caseless false (2 * text.length + 2) text with
  | .ok (set, _, []) => some (.chars set, r.after rest)
  | _ => none

/-- The pattern of parts one after the other. -/
def ofParts : List Pattern → Pattern
  | [] => .empty
  | [p] => p
  | parts => .seq parts

/-- The pattern, if nothing is left but a closing parenthesis, and the reading after that. -/
def close? (p : Pattern) (r : Reading) : Option (Pattern × Reading) := do
  let r ← r.skip?
  match r.rest with
  | ')' :: rest => some (p, r.after rest)
  | _ => none

/-- How deep groups may be nested. -/
def depthLimit : Nat := 64

/-- What the opening of a group says about its body. -/
inductive GroupKind
  | numbered
  | named (name : String)
  | once
  | ahead (wanted : Bool)
  | behind (wanted : Bool)
  /-- No group but flags; with a body they hold in it alone. -/
  | flags (inner : Flags) (hasBody : Bool)
  /-- No group but a reference by name. -/
  | reference
  /-- No group but a choice by a test in parentheses. -/
  | choice

/-- Flags up to a colon or a closing parenthesis. `negated` says that a hyphen was read, and `empty`
that nothing else was. -/
def readFlags? (flags : Flags) (negated empty : Bool) :
    List Char → Option (GroupKind × List Char)
  | [] => none
  | ')' :: rest => if empty then none else some (.flags flags false, rest)
  | ':' :: rest => if negated && empty then none else some (.flags flags true, rest)
  | '-' :: rest => if negated then none else readFlags? flags true empty rest
  | c :: rest => (flags.set? c !negated).bind fun flags => readFlags? flags negated false rest

/-- The opening of a group, after its parenthesis. -/
def readKind? (flags : Flags) : List Char → Option (GroupKind × List Char)
  | '?' :: '=' :: rest => some (.ahead true, rest)
  | '?' :: '!' :: rest => some (.ahead false, rest)
  | '?' :: '<' :: '=' :: rest => some (.behind true, rest)
  | '?' :: '<' :: '!' :: rest => some (.behind false, rest)
  | '?' :: '<' :: rest => (readName? '>' rest).map fun (name, rest) => (.named name, rest)
  | '?' :: 'P' :: '<' :: rest => (readName? '>' rest).map fun (name, rest) => (.named name, rest)
  | '?' :: 'P' :: '=' :: rest => some (.reference, rest)
  | '?' :: '>' :: rest => some (.once, rest)
  | '?' :: '(' :: rest => some (.choice, rest)
  | '?' :: rest => readFlags? flags false true rest
  | rest => some (.numbered, rest)

/-- The reading at the body of a group that is numbered. -/
def Reading.opened (r : Reading) (name : Option String) (rest : List Char) : Reading :=
  let number := r.groups + 1
  { r with
    rest := rest
    groups := number
    names := (name.map fun n => (n, number)).toList ++ r.names }

/-- The choice by a test between the first alternative of the body and the others. -/
def choose (test body : Pattern) : Pattern :=
  match body with
  | .alt [.empty, .empty] => test
  | .alt [yes, no] => .choice test yes no
  | .alt (yes :: others) => .choice test yes (.alt others)
  | body => .choice test body .empty

/-- A reference as a test: whether the group has matched. -/
def asTest : Pattern → Pattern
  | .back number => .known number
  | p => p

mutual
/-- Alternatives, up to a closing parenthesis or the end. -/
def readChoice? (size : Nat) : Nat → Nat → Reading → Option (Pattern × Reading)
  | 0, _, _ => none
  | fuel + 1, depth, r => do
    let (p, r) ← readParts? size fuel depth [] r
    let r ← r.skip?
    match r.rest with
    | '|' :: _ => do
      let (branches, r) ← readBranches? size fuel depth [p] r
      some (.alt branches, r)
    | _ => if r.byNumber && !r.names.isEmpty then none else some (p, r)

/-- The alternatives after `branches`, which are latest first. -/
def readBranches? (size : Nat) : Nat → Nat → List Pattern → Reading →
    Option (List Pattern × Reading)
  | 0, _, _, _ => none
  | fuel + 1, depth, branches, r =>
    match r.rest with
    | '|' :: rest => do
      let (p, r) ← readParts? size fuel depth [] (r.after rest)
      let r ← r.skip?
      readBranches? size fuel depth (p :: branches) r
    | _ => some (branches.reverse, r)

/-- Patterns one after the other, after `parts`, which are latest first. -/
def readParts? (size : Nat) : Nat → Nat → List Pattern → Reading → Option (Pattern × Reading)
  | 0, _, _, _ => none
  | fuel + 1, depth, parts, r => do
    let (p, next) ← readAtom? size fuel depth r
    let (p, next) ← readRepeat? p next
    if next.rest.length = r.rest.length then some (ofParts parts.reverse, next)
    else
      match p with
      | .empty => readParts? size fuel depth parts next
      | p => readParts? size fuel depth (p :: parts) next

/-- One pattern without repetition. -/
def readAtom? (size : Nat) : Nat → Nat → Reading → Option (Pattern × Reading)
  | 0, _, _ => none
  | fuel + 1, depth, r => do
    let r ← r.skip?
    match r.rest with
    | [] => some (.empty, r)
    | '.' :: rest =>
      some (.chars (if r.flags.dotAll then .any else .anyButNewline), r.after rest)
    | '^' :: rest => some (.start r.flags.lines, r.after rest)
    | '$' :: rest => some (.stop r.flags.lines, r.after rest)
    | '(' :: rest => readGroup? size fuel (depth + 1) (r.after rest)
    | '\\' :: rest => readPlaceOrEscape? size r rest
    | '[' :: rest => readSet? r rest
    | c :: rest =>
      if c = '+' ∨ c = '*' ∨ c = '?' ∨ c = '|' ∨ c = ')' then some (.empty, r)
      else some (r.chars (.single c), r.after rest)

/-- A group after its parenthesis. -/
def readGroup? (size : Nat) : Nat → Nat → Reading → Option (Pattern × Reading)
  | 0, _, _ => none
  | fuel + 1, depth, r => do
    if depthLimit ≤ depth then none
    else
      let r ← r.skip?
      let (kind, rest) ← readKind? r.flags r.rest
      match kind with
      | .reference => readNamedReference? r ')' rest
      | .flags inner false => some (.empty, { r with rest := rest, flags := inner })
      | .flags inner true => do
        let (p, after) ← readChoice? size fuel depth { r with rest := rest, flags := inner }
        close? p { after with flags := r.flags }
      | .numbered => do
        let (p, after) ← readChoice? size fuel depth (r.opened none rest)
        close? (.group (r.groups + 1) p) after
      | .named name => do
        let (p, after) ← readChoice? size fuel depth (r.opened (some name) rest)
        close? (.group (r.groups + 1) p) after
      | .once => do
        let (p, after) ← readChoice? size fuel depth (r.after rest)
        close? (.once p) after
      | .choice => do
        let (test, next) ← readTest? size fuel depth (r.after rest)
        let (test, next) ← close? test next
        let (body, after) ← readChoice? size fuel depth next
        if after.rest.length = next.rest.length then
          match test with
          | .back number => close? (.known number) after
          | _ => none
        else close? (choose (asTest test) body) after
      | .ahead wanted => do
        let (p, after) ← readChoice? size fuel depth (r.after rest)
        close? (.ahead wanted p) after
      | .behind wanted => do
        let (p, after) ← readChoice? size fuel depth (r.after rest)
        close? (.behind wanted p) after

/-- What a choice depends on: a group or a pattern. -/
def readTest? (size : Nat) : Nat → Nat → Reading → Option (Pattern × Reading)
  | 0, _, _ => none
  | fuel + 1, depth, r =>
    match r.rest with
    | '\'' :: rest => readReference? r '\'' rest
    | '<' :: rest => readReference? r '>' rest
    | c :: _ =>
      if c.isDigit then readNumberedReference? size r r.rest else readChoice? size fuel depth r
    | [] => none
end

/-- The pattern of a whole text and the number of its groups. A call reads a character or hands its
text to the next kind, so seven calls for each character are enough. -/
def read? (text : String) : Option (Pattern × Nat) :=
  let cs := text.toList
  match readChoice? text.utf8ByteSize (7 * cs.length + 7) 0 { rest := cs } with
  | some (p, r) => if r.rest.isEmpty then some (p, r.groups) else none
  | none => none

end Pattern

end ItemTable
