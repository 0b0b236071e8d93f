import ShaderSyntax.Macro.Table

/-!
# Macro expansion

A pass scans a line from left to right: where a macro applies, the longest one is replaced by its
body, and the scan goes on behind the name; elsewhere a character is kept. A line is rewritten pass
by pass until a pass changes nothing. Two limits keep expansion finite: a pass takes at most so many
steps, and a line gets at most a number of passes. A line that runs into one of them stays as far as
it was expanded.

The main statement says that a line that settled is a fixed point of a pass (`pass_of_settled`).
-/

set_option autoImplicit false

namespace ShaderSyntax

/-- The limits of macro expansion that a line can run into. -/
inductive ExpansionLimit where
  /-- The steps of one pass. -/
  | steps
  /-- The passes over one line. -/
  | passes
  deriving DecidableEq, Repr

/-- The unit in which a limit is counted. -/
def ExpansionLimit.unit : ExpansionLimit → String
  | .steps => "steps"
  | .passes => "passes"

/-- What a pass makes of a line, and whether it came to the line's end. -/
structure Pass where
  text : List Char
  finished : Bool
  deriving DecidableEq, Repr

/-- A pass with text in front of what it wrote. -/
def Pass.after (front : List Char) (pass : Pass) : Pass :=
  ⟨front ++ pass.text, pass.finished⟩

/-- What a line is expanded to, and the limit that stopped the expansion, if one did. -/
structure Expansion where
  text : List Char
  stopped : Option ExpansionLimit
  deriving DecidableEq, Repr

namespace MacroTable

/-- One pass over a line in at most `steps` steps; what it does not reach is kept. -/
def pass (table : MacroTable) : Nat → List Char → Pass
  | _, [] => ⟨[], true⟩
  | 0, text => ⟨text, false⟩
  | steps + 1, c :: rest =>
    match table.longest? (c :: rest) with
    | some m => (pass table steps ((c :: rest).drop m.name.length)).after m.body
    | none => (pass table steps rest).after [c]

/-- Passes over a line, at most `passes` of them, until one changes nothing. -/
def settle (table : MacroTable) (steps : Nat) : Nat → List Char → Expansion
  | 0, line => ⟨line, some .passes⟩
  | passes + 1, line =>
    let next := table.pass steps line
    if next.finished then
      if next.text = line then ⟨line, none⟩ else settle table steps passes next.text
    else ⟨next.text, some .steps⟩

/-- Expands the macros in a line; without macros there is nothing to limit. -/
def expandLine (table : MacroTable) (steps passes : Nat) (line : List Char) : Expansion :=
  if table.isEmpty then ⟨line, none⟩ else table.settle steps passes line

/-- A pass over a line that settled changes nothing. -/
theorem pass_of_settled {table : MacroTable} {steps passes : Nat} {line : List Char}
    (h : (table.settle steps passes line).stopped = none) :
    table.pass steps (table.settle steps passes line).text =
      ⟨(table.settle steps passes line).text, true⟩ := by
  induction passes generalizing line with
  | zero => simp [settle] at h
  | succ passes ih =>
    rw [settle] at h ⊢
    by_cases finished : (table.pass steps line).finished = true
    · by_cases same : (table.pass steps line).text = line
      · simp only [finished, same, if_true] at h ⊢
        cases result : table.pass steps line with
        | mk text flag => simp_all
      · simp only [finished, same, if_true, if_false] at h ⊢
        exact ih h
    · simp [finished] at h

end MacroTable

end ShaderSyntax
