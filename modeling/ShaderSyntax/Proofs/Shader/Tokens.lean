import ShaderSyntax.Proofs.Token.Munch
import ShaderSyntax.Proofs.Token.Partition
import ShaderSyntax.Shader.Tokens

/-!
# Shader tokens by maximal munch

The rules for shader tokens are tried in their order, and many of them overlap: comments begin like
a division, numbers of one kind like numbers of another, long operators like short ones. Their order
is such that the first rule that matches takes the longest beginning of the text that any rule fits
(`munches_of_read`), so the same lexemes come out of the longest match over the rules in any order.
-/

set_option autoImplicit false

namespace ShaderSyntax.Shader

/-- A computation that evaluates to some value of its result has a result. -/
theorem exists_ok_of_evaluated {ε α β : Type} {outcome : Except ε α} {f : α → β} {value : β}
    (evaluated : outcome.toOption.map f = some value) :
    ∃ result, outcome = .ok result ∧ f result = value := by
  cases outcome with
  | error fault => cases evaluated
  | ok result => exact ⟨result, rfl, Option.some.inj evaluated⟩

/-- The shader rules prefer their longest matches, and a rule fits nothing that goes on from what an
earlier rule fits. -/
theorem orderly_lexer {lexer : Lexer} (made : Shader.lexer = .ok lexer) : lexer.Orderly := by
  have checked : (Shader.lexer.toOption.all fun lexer => Lexer.areOrderly 300 lexer.entries) =
      true := by
    decide +kernel
  rw [made] at checked
  exact Lexer.orderly_of_check checked

/-- The shader lexer takes the longest beginning of a text that any shader rule fits. -/
theorem lexeme?_eq_some_iff {lexer : Lexer} (made : Shader.lexer = .ok lexer)
    {text rest : List Char} {lexeme : Lexeme} :
    lexer.lexeme? text = some (lexeme, rest) ↔
      lexeme.Munches tokenRules text ∧ lexeme.text ≠ [] ∧ lexeme.text ++ rest = text :=
  Lexer.lexeme?_eq_some_iff made (orderly_lexer made)

/-- What the shader lexer takes is the longest beginning of the text that any shader rule fits. So
each lexeme of a shader text, kept or discarded, is the longest one at its place. No other rule fits
it, and the longest match over the rules in any order is this lexeme with its rule. -/
theorem munches_of_read {lexer : Lexer} (made : Shader.lexer = .ok lexer) (text : List Char) :
    (∀ lexeme rest, lexer.lexeme? text = some (lexeme, rest) ↔
      lexeme.Munches tokenRules text ∧ lexeme.text ≠ [] ∧ lexeme.text ++ rest = text) ∧
    ∀ i piece, (lexer.read text).pieces[i]? = some piece →
      piece.lexeme.Munches tokenRules (text.drop ((lexer.read text).before i).length) ∧
      (∀ rule ∈ tokenRules, rule.Fits piece.lexeme.text → rule = piece.lexeme.rule) ∧
      ∀ rules : List TokenRule, rules.Perm tokenRules → ∀ other : Lexeme,
        other.Munches rules (text.drop ((lexer.read text).before i).length) ↔
          other = piece.lexeme := by
  refine ⟨fun lexeme rest => lexeme?_eq_some_iff made, fun i piece read => ?_⟩
  obtain ⟨taken, filled, -⟩ := (lexer.partitions_read text).taken i piece read
  have munches := ((lexeme?_eq_some_iff made).mp taken).1
  refine ⟨munches, ?_, ?_⟩
  · intro rule listed fits
    exact Lexer.rule_eq_of_lexeme? made (orderly_lexer made) taken listed fits
  · intro rules same other
    constructor
    · intro longest
      exact Lexer.eq_of_munches made (orderly_lexer made) taken (longest.of_perm same)
    · rintro rfl
      exact munches.of_perm same.symm

/-- A hexadecimal constant that looks like one with an exponent, behind a comment that its first
stars do not close; the rules listed the other way round have the same longest match. -/
theorem munches_of_read_hexadecimal :
    ∃ lexer piece, Shader.lexer = .ok lexer ∧
      (lexer.read "/* **/0x1e5u+1".toList).pieces[1]? = some piece ∧
      piece.lexeme.text = "0x1e5u".toList ∧ piece.lexeme.rule.kind = "UINTCONSTANT" ∧
      piece.lexeme.Munches tokenRules "0x1e5u+1".toList ∧
      (∀ rule ∈ tokenRules, rule.Fits "0x1e5u".toList → rule = piece.lexeme.rule) ∧
      ∀ other : Lexeme,
        other.Munches tokenRules.reverse "0x1e5u+1".toList ↔ other = piece.lexeme := by
  have evaluated :
      (Shader.lexer.toOption.map fun lexer =>
        let reading := lexer.read "/* **/0x1e5u+1".toList
        (reading.pieces[1]?.map fun piece => (piece.lexeme.text, piece.lexeme.rule.kind),
          "/* **/0x1e5u+1".toList.drop (reading.before 1).length)) =
        some (some ("0x1e5u".toList, "UINTCONSTANT"), "0x1e5u+1".toList) := by
    decide +kernel
  cases made : Shader.lexer with
  | error fault => simp [made, Except.toOption] at evaluated
  | ok lexer =>
    simp only [made, Except.toOption, Option.map_some, Option.some.injEq,
      Prod.mk.injEq] at evaluated
    obtain ⟨at_1, ahead⟩ := evaluated
    obtain ⟨piece, read, same⟩ := Option.map_eq_some_iff.mp at_1
    obtain ⟨text, kind⟩ := Prod.mk.inj same
    obtain ⟨munches, only, any_order⟩ := (munches_of_read made _).2 1 piece read
    rw [ahead] at munches any_order
    rw [text] at only
    exact ⟨lexer, piece, rfl, read, text, kind, munches, only,
      any_order _ (List.reverse_perm tokenRules)⟩

end ShaderSyntax.Shader
