/-
QueryCache.Pattern.Reader — patterns as they are written.

`Pattern.read` reads a regular expression: alternatives, groups, counted
and uncounted repetitions, bracketed sets, escapes, and flags that hold to
the end of their group.  There are no back-references and no look-around.
A text that breaks the grammar, that nests deeper than `nestingLimit`, that
could match something other than characters, or whose machines would be
too large is no pattern.

The reader walks the text once.  Its functions take the characters still
to read and return those that are left; a count of steps, the length of
the text at the start, bounds the recursion, since every step consumes a
character.
-/
import QueryCache.Pattern.Bracketed
import QueryCache.Pattern.Search

namespace QueryCache.Pattern

/-! ## 1. Groups and flags -/

/-- What the reader remembers: the flags, and of the groups before their
number and their names. -/
structure ReadState where
  flags : Flags
  groups : Nat
  names : List Text

/-- A part of the pattern with the depth of its nesting. -/
structure Part where
  pattern : Pattern
  depth : Nat
  /-- A repetition may follow. -/
  repeatable : Bool := true

/-- The flags of a group up to its `:` or `)`: the letters read so far
guard against repetition, `off` says that a hyphen came before. -/
def readFlags : (flags : Flags) → (seen : List Char) → (off : Bool) → Text → Option (Flags × Text)
  | _, _, _, [] => none
  | flags, seen, off, c :: rest =>
    if c = ':' ∨ c = ')' then
      if seen.head? = some '-' then none else some (flags, c :: rest)
    else if seen.contains c then none
    else
      let on := !off
      match c with
      | '-' => readFlags flags (c :: seen) true rest
      | 'i' => readFlags { flags with ignoreCase := on } (c :: seen) off rest
      | 'm' => readFlags { flags with multiLine := on } (c :: seen) off rest
      | 's' => readFlags { flags with dotAll := on } (c :: seen) off rest
      | 'u' => readFlags { flags with unicode := on } (c :: seen) off rest
      | 'R' => readFlags { flags with anyLineEnd := on } (c :: seen) off rest
      | 'x' => readFlags { flags with verbose := on } (c :: seen) off rest
      | 'U' => readFlags { flags with swapGreed := on } (c :: seen) off rest
      | _ => none

/-- The name of a group up to its `>`. -/
def readGroupName (text : Text) : Option (Text × Text) := do
  let (name, rest) ← Text.splitOnce '>' text
  match name with
  | [] => none
  | first :: others =>
    let inName (c : Char) : Bool :=
      c == '_' || c == '.' || c == '[' || c == ']' || Unicode.isAlphanumeric c
    if (first == '_' || Unicode.isAlphabetic first) && others.all inName then some (name, rest)
    else none

/-- What an opening parenthesis begins. -/
inductive GroupStart where
  /-- A group with its number, if it is counted, read with this state. -/
  | group (index : Option Nat) (state : ReadState)
  /-- Flags for the rest of the enclosing group. -/
  | flags (flags : Flags)

/-- A counted group. -/
def ReadState.count (state : ReadState) : GroupStart :=
  .group (some (state.groups + 1)) { state with groups := state.groups + 1 }

/-- What stands after an opening parenthesis. -/
def readGroupStart (state : ReadState) (text : Text) : Option (GroupStart × Text) :=
  let named (rest : Text) : Option (GroupStart × Text) := do
    let (name, rest) ← readGroupName rest
    if state.names.contains name then none
    else some (ReadState.count { state with names := name :: state.names }, rest)
  match state.flags.skip text with
  | '?' :: '=' :: _ => none
  | '?' :: '!' :: _ => none
  | '?' :: '<' :: '=' :: _ => none
  | '?' :: '<' :: '!' :: _ => none
  | '?' :: 'P' :: '<' :: rest => named rest
  | '?' :: '<' :: rest => named rest
  | '?' :: rest => do
    let (flags, after) ← readFlags state.flags [] false rest
    match after with
    | ':' :: after => some (.group none { state with flags }, after)
    | _ :: after =>
      -- an empty list of flags is a repetition of nothing
      if rest.head? = some ')' then none else some (.flags flags, after)
    | [] => none
  | text => some (state.count, text)

/-! ## 2. Repetitions -/

/-- A decimal count of at most 32 bits, blanks around it allowed. -/
def readCount (flags : Flags) (fuel : Nat) (text : Text) : Option (Nat × Text) :=
  let text := text.dropWhile Unicode.isBlank
  let rec digits : Nat → Text → Text × Text
    | fuel + 1, c :: rest =>
      if Text.isDigit c then
        let (more, rest) := digits fuel (flags.skip rest)
        (c :: more, rest)
      else ([], c :: rest)
    | _, text => ([], text)
  let (digits, rest) := digits fuel text
  let value := Text.digitsValue digits
  if digits.isEmpty ∨ 0x100000000 ≤ value then none else some (value, rest.dropWhile Unicode.isBlank)

/-- A mark that asks for few rounds. -/
def readLazyMark : Text → Bool × Text
  | '?' :: rest => (true, rest)
  | text => (false, text)

/-- How often a part is repeated. -/
structure Counts where
  min : Nat
  max : Option Nat
  /-- The repetition is marked as lazy. -/
  marked : Bool

/-- A count in braces, after the opening one. -/
def readCounts (flags : Flags) (fuel : Nat) (text : Text) : Option (Counts × Text) := do
  let (least, rest) ← readCount flags fuel (flags.skip text)
  let counted (most : Option Nat) (rest : Text) : Counts × Text :=
    let (marked, rest) := readLazyMark (flags.skip rest)
    (⟨least, most, marked⟩, rest)
  match rest with
  | '\x7d' :: rest => some (counted (some least) rest)
  | ',' :: rest =>
    match flags.skip rest with
    | '\x7d' :: rest => some (counted none rest)
    | rest => do
      let (most, rest) ← readCount flags fuel rest
      match rest with
      | '\x7d' :: rest => if least ≤ most then some (counted (some most) rest) else none
      | _ => none
  | _ => none

/-- A part repeated. -/
def Part.rounds (part : Part) (flags : Flags) (counts : Counts) : Option Part :=
  if part.repeatable then
    some {
      pattern := repeated part.pattern counts.min counts.max (counts.marked != flags.swapGreed)
      depth := part.depth + 1 }
  else none

/-! ## 3. Alternatives -/

/-- The greatest depth among parts. -/
def maxDepth (parts : List Part) : Nat :=
  (parts.map (·.depth)).foldl max 0

/-- A sequence of parts. -/
def sequenceOf (parts : List Part) : Part :=
  match parts with
  | [] => ⟨.empty, 0, true⟩
  | [part] => { part with repeatable := true }
  | _ => ⟨concat (parts.map (·.pattern)), 1 + maxDepth parts, true⟩

/-- One of several sequences. -/
def alternativesOf (first : Part) (others : List Part) : Part :=
  match others with
  | [] => first
  | _ => ⟨oneOf ((first :: others).map (·.pattern)), 1 + maxDepth (first :: others), true⟩

/-- A group being read: its finished alternatives and the parts of the
current one, each the last one first. -/
structure GroupFrame where
  alternatives : List Part
  parts : List Part

/-- The whole of a group. -/
def GroupFrame.close (frame : GroupFrame) : Part :=
  match (sequenceOf frame.parts.reverse :: frame.alternatives).reverse with
  | [] => ⟨.empty, 0, true⟩
  | first :: others => alternativesOf first others

/-- Reads up to the parenthesis that closes the group, or to the end of
the pattern; the closing parenthesis is left.  At most `room` groups may
stand inside each other. -/
def readGroup : (fuel : Nat) → (room : Nat) → ReadState → GroupFrame → Text →
    Option (Part × ReadState × Text)
  | 0, _, _, _, _ => none
  | fuel + 1, room, state, frame, text =>
    let flags := state.flags
    let push (part : Part) (rest : Text) : Option (Part × ReadState × Text) :=
      readGroup fuel room state { frame with parts := part :: frame.parts } rest
    let pushPattern (pattern : Option Pattern) (rest : Text) : Option (Part × ReadState × Text) :=
      match pattern with
      | some pattern => push ⟨pattern, 0, true⟩ rest
      | none => none
    let again (counts : Counts) (rest : Text) : Option (Part × ReadState × Text) :=
      match frame.parts with
      | [] => none
      | part :: parts =>
        match part.rounds flags counts with
        | some part => readGroup fuel room state { frame with parts := part :: parts } rest
        | none => none
    let marked (min : Nat) (max : Option Nat) (text : Text) : Option (Part × ReadState × Text) :=
      let (marked, rest) := readLazyMark text
      again ⟨min, max, marked⟩ rest
    match flags.skip text with
    | [] => some (frame.close, state, [])
    | ')' :: rest => some (frame.close, state, ')' :: rest)
    | '|' :: rest =>
      readGroup fuel room state ⟨sequenceOf frame.parts.reverse :: frame.alternatives, []⟩ rest
    | '(' :: rest =>
      match readGroupStart state rest, room with
      | none, _ => none
      | some (.flags flags, rest), _ =>
        readGroup fuel room { state with flags }
          { frame with parts := ⟨.empty, 0, false⟩ :: frame.parts } rest
      | some (.group _ _, _), 0 => none
      | some (.group index inner, rest), room + 1 =>
        match readGroup fuel room inner ⟨[], []⟩ rest with
        | some (part, inner, ')' :: rest) =>
          let pattern := match index with
            | some index => .group index part.pattern
            | none => part.pattern
          readGroup fuel (room + 1) { inner with flags }
            { frame with parts := ⟨pattern, part.depth + 1, true⟩ :: frame.parts } rest
        | _ => none
    | '[' :: rest =>
      match readBracketed flags fuel rest with
      | some (part, rest) => push ⟨flags.setPattern part.set, part.depth, true⟩ rest
      | none => none
    | '?' :: rest => marked 0 (some 1) rest
    | '*' :: rest => marked 0 none rest
    | '+' :: rest => marked 1 none rest
    | '\x7b' :: rest =>
      match readCounts flags fuel rest with
      | some (counts, rest) => again counts rest
      | none => none
    | '.' :: rest => pushPattern flags.dot? rest
    | '^' :: rest => push ⟨.assert flags.start, 0, true⟩ rest
    | '$' :: rest => push ⟨.assert flags.stop, 0, true⟩ rest
    | '\\' :: rest =>
      match readEscape flags fuel rest with
      | none => none
      | some (.char c, rest) => pushPattern (flags.charPattern? c false) rest
      | some (.byte c, rest) => pushPattern (flags.charPattern? c true) rest
      | some (.set set, rest) => push ⟨flags.setPattern set, 0, true⟩ rest
      | some (.assertion condition, rest) => push ⟨.assert condition, 0, true⟩ rest
    | c :: rest => pushPattern (flags.charPattern? c false) rest

/-! ## 4. The whole pattern -/

/-- The pattern that a text writes. -/
def read (ignoreCase : Bool) (text : Text) : Option Pattern :=
  match readGroup (text.length + 1) nestingLimit ⟨{ ignoreCase }, 0, []⟩ ⟨[], []⟩ text with
  | some (part, _, []) =>
    if part.depth ≤ nestingLimit ∧ part.pattern.isSearchable then some part.pattern else none
  | _ => none

/-- Some stretch of the value matches the written pattern; what is no
pattern matches nothing. -/
def occurs (ignoreCase : Bool) (pattern value : Text) : Bool :=
  match read ignoreCase pattern with
  | some pattern => pattern.occursIn value
  | none => false

end QueryCache.Pattern
