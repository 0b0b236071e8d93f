import ShaderSyntax.Cache.Named
import ShaderSyntax.Host.Format

/-!
# Arithmetic of scripts

Whole numbers of 64 bits with a sign, variables, and operators of ten strengths, with choices and
assignments around them. A text is cut into tokens, the tokens are read as an expression, and the
expression is worked out: of a choice only the side that is taken, so the other side neither fails
nor assigns. A variable stands for the number that its value spells, zero if it has none. Results
wrap around.
-/

set_option autoImplicit false

namespace ShaderSyntax.Host

/-- Why an expression has no value. -/
inductive ArithmeticFault where
  | noOperand
  | noEnd
  | noColon
  | noBracket
  | byZero
  | noNumber (text : String)
  deriving DecidableEq, Repr

/-- The message of a fault of an expression. -/
def ArithmeticFault.message (expression : String) : ArithmeticFault → String
  | .noOperand => within "expecting primary"
  | .noEnd => within "expecting EOF"
  | .noColon => within "expecting ':'"
  | .noBracket => within "expecting ')'"
  | .byZero => within "division by zero"
  | .noNumber text => "Illegal number: " ++ text
where
  /-- A reason with the expression that it is about. -/
  within (reason : String) : String :=
    "arithmetic expression: " ++ reason ++ ": \"" ++ expression ++ "\""

/-- An operator in front of its operand. -/
inductive UnaryOperator where
  | minus
  | complement
  | negation
  deriving DecidableEq, Repr

/-- An operator between its operands. -/
inductive BinaryOperator where
  | either
  | both
  | bitOr
  | bitXor
  | bitAnd
  | equal
  | unequal
  | atMost
  | atLeast
  | less
  | greater
  | shiftLeft
  | shiftRight
  | plus
  | minus
  | times
  | quotient
  | remainder
  deriving DecidableEq, Repr

/-- What an operator between operands is written as. -/
def BinaryOperator.mark : BinaryOperator → String
  | .either => "||"
  | .both => "&&"
  | .bitOr => "|"
  | .bitXor => "^"
  | .bitAnd => "&"
  | .equal => "=="
  | .unequal => "!="
  | .atMost => "<="
  | .atLeast => ">="
  | .less => "<"
  | .greater => ">"
  | .shiftLeft => "<<"
  | .shiftRight => ">>"
  | .plus => "+"
  | .minus => "-"
  | .times => "*"
  | .quotient => "/"
  | .remainder => "%"

/-- The operators between operands by strength, the weakest first. -/
def operatorLevels : List (List BinaryOperator) := [
  [.either], [.both], [.bitOr], [.bitXor], [.bitAnd], [.equal, .unequal],
  [.atMost, .atLeast, .less, .greater], [.shiftLeft, .shiftRight], [.plus, .minus],
  [.times, .quotient, .remainder]]

/-- The operators that an assignment may apply. -/
def assignedOperators : List BinaryOperator := [
  .bitOr, .bitXor, .bitAnd, .shiftLeft, .shiftRight, .plus, .minus, .times, .quotient, .remainder]

/-- An expression of whole numbers. -/
inductive Expression where
  | number (value : Int)
  | parameter (name : String)
  | unary (operator : UnaryOperator) (operand : Expression)
  | binary (operator : BinaryOperator) (left right : Expression)
  | choice (condition yes no : Expression)
  /-- Gives a variable a value, or applies an operator to its value and another. -/
  | assign (name : String) (operator : Option BinaryOperator) (value : Expression)
  deriving DecidableEq, Repr

/-- A token of an expression. -/
inductive ArithmeticToken where
  | number (value : Int)
  | name (name : String)
  | mark (text : String)
  deriving DecidableEq, Repr

/-- The marks of more than one character, longer ones before those they start with. -/
def longMarks : List String := [
  "<<=", ">>=", "||", "&&", "==", "!=", "<=", ">=", "<<", ">>", "|=", "^=", "&=", "+=", "-=",
  "*=", "/=", "%="]

/-- Cuts a text into tokens. `steps` bounds the characters read. -/
def cutArithmetic : Nat → List Char → List ArithmeticToken
  | 0, _ => []
  | _ + 1, [] => []
  | steps + 1, c :: rest =>
    if c = ' ' || c = '\t' || c = '\n' then cutArithmetic steps rest
    else if c.isDigit then
      match leadingWhole? (c :: rest) with
      | some (value, rest) => .number (wordWithin true value).1 :: cutArithmetic steps rest
      | none => []
    else if c.isAlpha || c = '_' then
      let name := (c :: rest).takeWhile fun c => c.isAlphanum || c = '_'
      .name (String.ofList name) :: cutArithmetic steps ((c :: rest).drop name.length)
    else
      match longMarks.find? fun mark => mark.toList.isPrefixOf (c :: rest) with
      | some mark => .mark mark :: cutArithmetic steps ((c :: rest).drop mark.length)
      | none => .mark (String.singleton c) :: cutArithmetic steps rest

/-- The operator that an assignment with some mark applies, if the mark is that of one. -/
def assignedOperator? (mark : String) : Option (Option BinaryOperator) :=
  if mark = "=" then some none
  else (assignedOperators.find? fun operator => operator.mark ++ "=" = mark).map some

/-- Tokens that are fewer than some others. -/
abbrev FewerTokens (tokens : List ArithmeticToken) :=
  { rest : List ArithmeticToken // rest.length < tokens.length }

mutual

/-- Reads a number, a variable, an expression in brackets, or an operator in front of one. -/
def readOperand (tokens : List ArithmeticToken) :
    Except ArithmeticFault (Expression × FewerTokens tokens) :=
  match tokens with
  | [] => .error .noOperand
  | .number value :: rest => .ok (.number value, ⟨rest, Nat.lt_succ_self _⟩)
  | .name name :: rest => .ok (.parameter name, ⟨rest, Nat.lt_succ_self _⟩)
  | .mark mark :: rest =>
    if mark = "(" then
      match readAssignment rest with
      | .error fault => .error fault
      | .ok (inside, ⟨behind, short⟩) =>
        if behind.head? = some (.mark ")") then
          .ok (inside, ⟨behind.drop 1, by
            simp only [List.length_drop, List.length_cons]
            omega⟩)
        else .error .noBracket
    else if mark = "+" || mark = "-" || mark = "!" || mark = "~" then
      match readOperand rest with
      | .error fault => .error fault
      | .ok (operand, ⟨behind, short⟩) =>
        let whole :=
          if mark = "-" then .unary .minus operand
          else if mark = "!" then .unary .negation operand
          else if mark = "~" then .unary .complement operand
          else operand
        .ok (whole, ⟨behind, Nat.lt_succ_of_lt short⟩)
    else .error .noOperand
termination_by (tokens.length, 0)
decreasing_by
  · exact Prod.Lex.left _ _ (Nat.lt_succ_self _)
  · exact Prod.Lex.left _ _ (Nat.lt_succ_self _)

/-- Reads operands joined by operators of some levels. -/
def readLevels (levels : List (List BinaryOperator)) (tokens : List ArithmeticToken) :
    Except ArithmeticFault (Expression × FewerTokens tokens) :=
  match levels with
  | [] => readOperand tokens
  | level :: stronger =>
    match readLevels stronger tokens with
    | .error fault => .error fault
    | .ok (left, ⟨rest, short⟩) =>
      match readJoined level stronger left rest with
      | .error fault => .error fault
      | .ok (whole, ⟨behind, within⟩) => .ok (whole, ⟨behind, Nat.lt_of_le_of_lt within short⟩)
termination_by (tokens.length, levels.length + 1)
decreasing_by
  · exact Prod.Lex.right _ (Nat.succ_pos _)
  · exact Prod.Lex.right _ (Nat.lt_succ_self _)
  · exact Prod.Lex.left _ _ short

/-- Reads what is joined by operators of a level to what stands left of it. -/
def readJoined (level : List BinaryOperator) (stronger : List (List BinaryOperator))
    (left : Expression) (tokens : List ArithmeticToken) :
    Except ArithmeticFault
      (Expression × { rest : List ArithmeticToken // rest.length ≤ tokens.length }) :=
  match tokens with
  | .mark mark :: rest =>
    match level.find? fun operator => operator.mark = mark with
    | none => .ok (left, ⟨.mark mark :: rest, Nat.le_refl _⟩)
    | some operator =>
      match readLevels stronger rest with
      | .error fault => .error fault
      | .ok (right, ⟨behind, short⟩) =>
        match readJoined level stronger (.binary operator left right) behind with
        | .error fault => .error fault
        | .ok (whole, ⟨last, within⟩) => .ok (whole, ⟨last, by
            simp only [List.length_cons]
            omega⟩)
  | tokens => .ok (left, ⟨tokens, Nat.le_refl _⟩)
termination_by (tokens.length, 0)
decreasing_by
  · exact Prod.Lex.left _ _ (Nat.lt_succ_self _)
  · exact Prod.Lex.left _ _ (Nat.lt_succ_of_lt short)

/-- Reads an expression with or without a choice. -/
def readChosen (tokens : List ArithmeticToken) :
    Except ArithmeticFault (Expression × FewerTokens tokens) :=
  match readLevels operatorLevels tokens with
  | .error fault => .error fault
  | .ok (condition, ⟨rest, short⟩) =>
    if rest.head? = some (.mark "?") then
      match readAssignment (rest.drop 1) with
      | .error fault => .error fault
      | .ok (yes, ⟨behind, shorter⟩) =>
        if behind.head? = some (.mark ":") then
          match readChosen (behind.drop 1) with
          | .error fault => .error fault
          | .ok (no, ⟨last, shortest⟩) => .ok (.choice condition yes no, ⟨last, by
              simp only [List.length_drop] at shorter shortest
              omega⟩)
        else .error .noColon
    else .ok (condition, ⟨rest, short⟩)
termination_by (tokens.length, 20)
decreasing_by
  · exact Prod.Lex.right _ (by simp [operatorLevels])
  · exact Prod.Lex.left _ _ (by
      simp only [List.length_drop]
      omega)
  · exact Prod.Lex.left _ _ (by
      simp only [List.length_drop] at shorter ⊢
      omega)

/-- Reads an expression with or without an assignment. -/
def readAssignment (tokens : List ArithmeticToken) :
    Except ArithmeticFault (Expression × FewerTokens tokens) :=
  match tokens with
  | .name name :: .mark mark :: rest =>
    match assignedOperator? mark with
    | some operator =>
      match readAssignment rest with
      | .error fault => .error fault
      | .ok (value, ⟨behind, short⟩) => .ok (.assign name operator value, ⟨behind, by
          simp only [List.length_cons]
          omega⟩)
    | none => readChosen (.name name :: .mark mark :: rest)
  | tokens => readChosen tokens
termination_by (tokens.length, 21)
decreasing_by
  · exact Prod.Lex.left _ _ (by
      simp only [List.length_cons]
      omega)
  · exact Prod.Lex.right _ (by omega)
  · exact Prod.Lex.right _ (by omega)

end

/-- Reads the expression that makes up a whole text. -/
def Expression.ofText (text : String) : Except ArithmeticFault Expression :=
  match readAssignment (cutArithmetic text.length text.toList) with
  | .error fault => .error fault
  | .ok (whole, ⟨rest, _⟩) => if rest.isEmpty then .ok whole else .error .noEnd

/-- A number wrapped around to 64 bits with a sign. -/
def wrapWord (value : Int) : Int := value.bmod (Nat.pow 2 64)

/-- One for true and zero for false. -/
def truth (condition : Bool) : Int := if condition then 1 else 0

/-- What an operator in front makes of a number. -/
def UnaryOperator.apply (value : Int) : UnaryOperator → Int
  | .minus => wrapWord (-value)
  | .complement => -value - 1
  | .negation => truth (value = 0)

/-- What an operator makes of two numbers. -/
def BinaryOperator.apply (operator : BinaryOperator) (a b : Int) : Except ArithmeticFault Int :=
  let word (f : UInt64 → UInt64 → UInt64) : Int :=
    wrapWord (f (UInt64.ofInt a) (UInt64.ofInt b)).toNat
  match operator with
  | .either => .ok (truth (a ≠ 0 || b ≠ 0))
  | .both => .ok (truth (a ≠ 0 && b ≠ 0))
  | .bitOr => .ok (word (· ||| ·))
  | .bitXor => .ok (word (· ^^^ ·))
  | .bitAnd => .ok (word (· &&& ·))
  | .equal => .ok (truth (a = b))
  | .unequal => .ok (truth (a ≠ b))
  | .atMost => .ok (truth (a ≤ b))
  | .atLeast => .ok (truth (a ≥ b))
  | .less => .ok (truth (a < b))
  | .greater => .ok (truth (a > b))
  | .shiftLeft => .ok (word (· <<< ·))
  | .shiftRight => .ok (Int.shiftRight a (b % 64).toNat)
  | .plus => .ok (wrapWord (a + b))
  | .minus => .ok (wrapWord (a - b))
  | .times => .ok (wrapWord (a * b))
  | .quotient => if b = 0 then .error .byZero else .ok (wrapWord (a.tdiv b))
  | .remainder => if b = 0 then .error .byZero else .ok (a.tmod b)

/-- The number that a variable's value spells; blanks alone are zero. -/
def settingNumber (settings : Named String) (name : String) : Except ArithmeticFault Int :=
  let text := (settings.get? name).getD ""
  let (value, rest) := (leadingWhole? text.toList).getD (0, text.toList)
  if rest.all isLeadingBlank && !(wordWithin true value).2 then .ok value
  else .error (.noNumber text)

namespace Expression

/-- Works out an expression, given the values of the variables; gives also their values
afterwards. -/
def evaluate : Expression → Named String → Except ArithmeticFault (Int × Named String)
  | .number value, settings => .ok (value, settings)
  | .parameter name, settings => (settingNumber settings name).map (·, settings)
  | .unary operator operand, settings =>
    (operand.evaluate settings).map fun result => (operator.apply result.1, result.2)
  | .binary operator left right, settings =>
    match left.evaluate settings with
    | .error fault => .error fault
    | .ok (a, settings) =>
      if operator = .both && a = 0 then .ok (0, settings)
      else if operator = .either && a ≠ 0 then .ok (1, settings)
      else
        match right.evaluate settings with
        | .error fault => .error fault
        | .ok (b, settings) => (operator.apply a b).map (·, settings)
  | .choice condition yes no, settings =>
    match condition.evaluate settings with
    | .error fault => .error fault
    | .ok (value, settings) => if value ≠ 0 then yes.evaluate settings else no.evaluate settings
  | .assign name operator value, settings =>
    match value.evaluate settings with
    | .error fault => .error fault
    | .ok (value, settings) =>
      let result : Except ArithmeticFault Int := match operator with
        | none => .ok value
        | some operator =>
          match settingNumber settings name with
          | .error fault => .error fault
          | .ok old => operator.apply old value
      result.map fun result => (result, settings.put name (toString result))

end Expression

/-- Works out a text, given the values of the variables. -/
def evaluateArithmetic (text : String) (settings : Named String) :
    Except ArithmeticFault (Int × Named String) :=
  match Expression.ofText text with
  | .error fault => .error fault
  | .ok whole => whole.evaluate settings

end ShaderSyntax.Host
