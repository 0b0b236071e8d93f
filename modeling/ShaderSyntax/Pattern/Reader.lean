import ShaderSyntax.Pattern.Basic

/-!
# Reading patterns

The written form of patterns: literals, `.`, classes with ranges, negation and nesting, groups,
choices, the repetitions `*`, `+`, `?` and counted ones, each lazy with a `?` behind, and escapes.
A text that is not well formed is no pattern: a group or class that is not closed or not opened, a
repetition of nothing, a reversed range or count, a backslash at the end, an unknown escape.

Branches of a choice that all begin with the same parts are read as those parts with a choice of the
rests behind them; so the way through the common parts is preferred over the order of the branches.
-/

set_option autoImplicit false

namespace ShaderSyntax.Pattern

/-- A character that means something other than itself outside a class. -/
def isOperator (c : Char) : Bool :=
  ['(', ')', '[', '\x7b', '|', '*', '+', '?', '.', '^', '$', '\\'].contains c

/-- An ASCII character that stands for itself behind a backslash. -/
def isEscapable (c : Char) : Bool :=
  c.toNat < 128 && !c.isAlphanum && c ≠ '<' && c ≠ '>'

/-- The control character that a letter behind a backslash stands for. -/
def control? (c : Char) : Option Char :=
  if c = 'n' then some '\n'
  else if c = 'r' then some '\r'
  else if c = 't' then some '\t'
  else if c = 'a' then some '\x07'
  else if c = 'v' then some '\x0b'
  else if c = 'f' then some '\x0c'
  else none

/-- What an escape stands for: a character or a set. -/
inductive Escaped where
  | char (c : Char)
  | set (chars : CharSet)

/-- Reads an escape behind its backslash. -/
def readEscape : List Char → Option (Escaped × List Char)
  | [] => none
  | c :: rest =>
    if isEscapable c then some (.char c, rest)
    else if c = 's' then some (.set .blanks, rest)
    else if c = 'S' then some (.set (.complement .blanks), rest)
    else (control? c).map (.char ·, rest)

/-- The set an escape stands for. -/
def Escaped.toSet : Escaped → CharSet
  | .char c => .single c
  | .set chars => chars

/-- Reads one character or escape of a class. -/
def readMember : List Char → Option (Escaped × List Char)
  | [] => none
  | '\\' :: rest => readEscape rest
  | c :: rest => some (.char c, rest)

/-- Reads a member of a class with the end of its range, if it starts one. A hyphen before the
closing bracket or before another hyphen does not make a range. -/
def readRange (text : List Char) : Option (CharSet × List Char) :=
  match readMember text with
  | none => none
  | some (low, rest) =>
    match rest with
    | [] => none
    | '-' :: ']' :: _ => some (low.toSet, rest)
    | '-' :: '-' :: _ => some (low.toSet, rest)
    | '-' :: rest =>
      match low, readMember rest with
      | .char low, some (.char high, rest) =>
        if low ≤ high then some (.range low high, rest) else none
      | _, _ => none
    | _ => some (low.toSet, rest)

/-- Reads the hyphens and the closing bracket that stand for themselves at the start of a class. -/
def readLeading (chars : CharSet) (fresh : Bool) : List Char → CharSet × List Char
  | '-' :: rest => readLeading (.union chars (.single '-')) false rest
  | ']' :: rest => if fresh then (.union chars (.single ']'), rest) else (chars, ']' :: rest)
  | text => (chars, text)

mutual

/-- Reads a class behind its opening bracket. -/
def readClass (depth : Nat) (text : List Char) : Option (CharSet × List Char) :=
  match depth with
  | 0 => none
  | depth + 1 =>
    match text with
    | '^' :: text =>
      let (chars, rest) := readLeading .none true text
      (readMembers depth chars rest).map fun read => (.complement read.1, read.2)
    | text =>
      let (chars, rest) := readLeading .none true text
      readMembers depth chars rest

/-- Reads the members of a class up to its closing bracket. -/
def readMembers (depth : Nat) (chars : CharSet) (text : List Char) :
    Option (CharSet × List Char) :=
  match depth with
  | 0 => none
  | depth + 1 =>
    match text with
    | [] => none
    | ']' :: rest => some (chars, rest)
    | '[' :: rest =>
      match readClass depth rest with
      | none => none
      | some (inner, rest) => readMembers depth (.union chars inner) rest
    | '&' :: '&' :: _ => none
    | '-' :: '-' :: _ => none
    | '~' :: '~' :: _ => none
    | text =>
      match readRange text with
      | none => none
      | some (range, rest) => readMembers depth (.union chars range) rest

end

/-- Reads a decimal number, at least one digit. -/
def readCount (text : List Char) : Option (Nat × List Char) :=
  let digits := text.takeWhile Char.isDigit
  if digits.isEmpty then none
  else some (digits.foldl (fun n c => 10 * n + (c.toNat - 48)) 0, text.dropWhile Char.isDigit)

/-- A repetition: how many at least, how many more at most, `none` for no bound. -/
structure Repetition where
  least : Nat
  extra : Option Nat

/-- Reads the counts of a repetition behind the opening brace. -/
def readCounts (text : List Char) : Option (Repetition × List Char) :=
  match readCount text with
  | none => none
  | some (least, rest) =>
    match rest with
    | '\x7d' :: rest => some (⟨least, some 0⟩, rest)
    | ',' :: '\x7d' :: rest => some (⟨least, none⟩, rest)
    | ',' :: rest =>
      match readCount rest with
      | some (most, '\x7d' :: rest) =>
        if least ≤ most then some (⟨least, some (most - least)⟩, rest) else none
      | _ => none
    | _ => none

/-- Reads a repetition operator; `some none` when there is none. -/
def readRepetition (text : List Char) : Option (Option Repetition × List Char) :=
  match text with
  | '*' :: rest => some (some ⟨0, none⟩, rest)
  | '+' :: rest => some (some ⟨1, none⟩, rest)
  | '?' :: rest => some (some ⟨0, some 1⟩, rest)
  | '\x7b' :: rest => (readCounts rest).map fun read => (some read.1, read.2)
  | text => some (none, text)

/-- A part of a branch: a literal, a class, a group or a repetition. Groups have numbers of their
own unless they are marked otherwise, so a part with a numbered group is like no other. -/
structure Part where
  pattern : Pattern
  numbered : Bool

/-- The part of a pattern, if there is something in it. -/
def Part.ofPattern (pattern : Pattern) (numbered : Bool) : List Part :=
  if pattern = .empty then [] else [⟨pattern, numbered⟩]

/-- Whether two parts are alike. -/
def Part.alike (first second : Part) : Bool :=
  !first.numbered && !second.numbered && first.pattern = second.pattern

/-- The pattern of parts in a row. -/
def join : List Part → Pattern
  | [] => .empty
  | [part] => part.pattern
  | part :: parts => .seq part.pattern (join parts)

/-- A part with a numbered group is among the parts. -/
def isNumbered (parts : List Part) : Bool :=
  parts.any Part.numbered

/-- A pattern repeated. -/
def Repetition.apply (repetition : Repetition) (greedy : Bool) (body : Pattern) : Pattern :=
  match repetition with
  | ⟨least, none⟩ => atLeast greedy body least
  | ⟨0, some 1⟩ => opt greedy body
  | ⟨least, some extra⟩ => repeated greedy body least extra

/-- Parts in a row repeated; once leaves them as they are. -/
def Repetition.applyAll (repetition : Repetition) (greedy : Bool) (parts : List Part) : List Part :=
  match repetition with
  | ⟨1, some 0⟩ => parts
  | repetition => Part.ofPattern (repetition.apply greedy (join parts)) (isNumbered parts)

/-- Applies the repetitions that follow parts in a row. -/
def readRepetitions (depth : Nat) (parts : List Part) (text : List Char) :
    Option (List Part × List Char) :=
  match depth with
  | 0 => none
  | depth + 1 =>
    match readRepetition text with
    | none => none
    | some (none, rest) => some (parts, rest)
    | some (some repetition, '?' :: rest) =>
      readRepetitions depth (repetition.applyAll false parts) rest
    | some (some repetition, rest) => readRepetitions depth (repetition.applyAll true parts) rest

/-- The parts that two branches begin with. -/
def commonParts : List Part → List Part → List Part
  | first :: firsts, second :: seconds =>
    if first.alike second then first :: commonParts firsts seconds else []
  | _, _ => []

/-- The choice between two or more patterns. -/
def choice (first : Pattern) : List Pattern → Pattern
  | [] => first
  | second :: others => .alt first (choice second others)

/-- The parts of a choice. Branches of two parts or more share what all of them begin with. -/
def choose (first : List Part) (others : List (List Part)) : List Part :=
  let common := if (first :: others).all (2 ≤ ·.length) then others.foldl commonParts first else []
  let rests := others.map fun branch => join (branch.drop common.length)
  if others.isEmpty then first
  else common ++ Part.ofPattern (choice (join (first.drop common.length)) rests)
    ((first :: others).any isNumbered)

/-- The characters behind the name of a group, which ends at `>`. -/
def skipName (text : List Char) : Option (List Char) :=
  match text.dropWhile fun c => c.isAlphanum || c = '_' with
  | '>' :: rest => if text.takeWhile (· ≠ '>') = [] then none else some rest
  | _ => none

/-- Whether a group has a number, and the characters behind what it opens with: nothing, a mark that
it has none, or a name. -/
def skipOpening : List Char → Option (Bool × List Char)
  | '?' :: ':' :: rest => some (false, rest)
  | '?' :: 'P' :: '<' :: rest => (skipName rest).map (true, ·)
  | '?' :: '<' :: rest => (skipName rest).map (true, ·)
  | '?' :: _ => none
  | text => some (true, text)

mutual

/-- Reads branches up to the end of the text or a closing parenthesis. -/
def readBranches (depth : Nat) (text : List Char) :
    Option ((List Part × List (List Part)) × List Char) :=
  match depth with
  | 0 => none
  | depth + 1 =>
    match readBranch depth text with
    | none => none
    | some (first, '|' :: rest) =>
      (readBranches depth rest).map fun read => ((first, read.1.1 :: read.1.2), read.2)
    | some (first, rest) => some ((first, []), rest)

/-- Reads what stands between two bars. -/
def readBranch (depth : Nat) (text : List Char) : Option (List Part × List Char) :=
  match depth with
  | 0 => none
  | depth + 1 =>
    match text with
    | [] => some ([], [])
    | '|' :: _ => some ([], text)
    | ')' :: _ => some ([], text)
    | text =>
      match readAtom depth text with
      | none => none
      | some (atom, rest) =>
        match readRepetitions (rest.length + 1) atom rest with
        | none => none
        | some (first, rest) =>
          (readBranch depth rest).map fun read => (first ++ read.1, read.2)

/-- Reads a literal, an escape, a class or a group. -/
def readAtom (depth : Nat) (text : List Char) : Option (List Part × List Char) :=
  match depth with
  | 0 => none
  | depth + 1 =>
    match text with
    | [] => none
    | '.' :: rest => some ([⟨.set .anyInLine, false⟩], rest)
    | '\\' :: rest =>
      (readEscape rest).map fun read => ([⟨.set read.1.toSet, false⟩], read.2)
    | '[' :: rest =>
      (readClass (2 * rest.length + 2) rest).map fun read => ([⟨.set read.1, false⟩], read.2)
    | '(' :: rest =>
      match skipOpening rest with
      | none => none
      | some (numbered, rest) =>
        match readBranches depth rest with
        | some ((first, others), ')' :: rest) =>
          let parts := choose first others
          some (if numbered then [⟨join parts, true⟩] else parts, rest)
        | _ => none
    | c :: rest => if isOperator c then none else some ([⟨.set (.single c), false⟩], rest)

end

/-- The pattern that a whole text spells, if it spells one. -/
def read? (text : String) : Option Pattern :=
  let chars := text.toList
  match readBranches (3 * chars.length + 3) chars with
  | some ((first, others), []) => some (join (choose first others))
  | _ => none

end ShaderSyntax.Pattern
