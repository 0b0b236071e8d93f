/-!
# Patterns of names

What scripts compare words with: a star stands for any text, a question mark for any character,
brackets for one of some characters, and a backslash makes the next character stand for itself.
-/

set_option autoImplicit false

namespace ShaderSyntax.Host

/-- A piece of a pattern. -/
inductive GlobPiece where
  | char (c : Char)
  | any
  | anyText
  | oneOf (negated : Bool) (ranges : List (Char × Char))
  deriving DecidableEq, Repr

/-- The ranges between brackets. -/
def globRanges : List Char → List (Char × Char)
  | low :: '-' :: high :: rest => (low, high) :: globRanges rest
  | c :: rest => (c, c) :: globRanges rest
  | [] => []

/-- Splits the content of brackets off the front; a closing bracket that comes first belongs to
it. -/
def globBrackets? : List Char → Option (List Char × List Char)
  | [] => none
  | c :: rest =>
    let content := rest.takeWhile (· ≠ ']')
    match rest.drop content.length with
    | _ :: rest => some (c :: content, rest)
    | [] => none

/-- Behind a bracket expression less of the pattern is left. -/
theorem length_globBrackets_lt {text content rest : List Char}
    (h : globBrackets? text = some (content, rest)) : rest.length < text.length := by
  cases text with
  | nil => simp [globBrackets?] at h
  | cons c tail =>
    simp only [globBrackets?] at h
    split at h
    · next behind hbehind =>
      cases h
      have hlength := congrArg List.length hbehind
      simp only [List.length_drop, List.length_cons] at hlength ⊢
      omega
    · cases h

/-- The pieces of a pattern. -/
def globPieces (text : List Char) : List GlobPiece :=
  match text with
  | [] => []
  | '\\' :: c :: rest => .char c :: globPieces rest
  | c :: rest =>
    if c = '*' then .anyText :: globPieces rest
    else if c = '?' then .any :: globPieces rest
    else if c = '[' then
      let negated := rest.head? = some '!'
      match h : globBrackets? (if negated then rest.drop 1 else rest) with
      | none => .char c :: globPieces rest
      | some (content, behind) =>
        have : behind.length < rest.length + 1 := by
          have hlt := length_globBrackets_lt h
          split at hlt
          · simp only [List.length_drop] at hlt
            omega
          · omega
        .oneOf negated (globRanges content) :: globPieces behind
    else .char c :: globPieces rest
termination_by text.length
decreasing_by
  all_goals simp only [List.length_cons]
  all_goals omega

/-- Whether a text matches the pieces of a pattern. -/
def matchesPieces : List GlobPiece → List Char → Bool
  | [], text => text.isEmpty
  | .anyText :: pieces, text => anySuffix (matchesPieces pieces) text
  | _ :: _, [] => false
  | .char d :: pieces, c :: rest => c = d && matchesPieces pieces rest
  | .any :: pieces, _ :: rest => matchesPieces pieces rest
  | .oneOf negated ranges :: pieces, c :: rest =>
    (ranges.any fun range => range.1 ≤ c && c ≤ range.2) != negated && matchesPieces pieces rest
where
  /-- Whether some end of a text passes a test. -/
  anySuffix (test : List Char → Bool) : List Char → Bool
    | [] => test []
    | c :: rest => test (c :: rest) || anySuffix test rest

/-- Whether a text matches a pattern. -/
def globMatches (pattern text : String) : Bool :=
  matchesPieces (globPieces pattern.toList) text.toList

end ShaderSyntax.Host
