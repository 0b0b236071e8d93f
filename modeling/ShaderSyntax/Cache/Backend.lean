import ShaderSyntax.Cache.Named
import ShaderSyntax.Tables.Basic

/-!
# Stores and compilers

What a table cache works with. A store keeps records by name, a compiler turns a rendered grammar
into tables; both may fail, and both act on a state of their own, which is handed through.
-/

set_option autoImplicit false

namespace ShaderSyntax

/-- What a store answers to the question for a record. -/
inductive StoreReply where
  | record (text : String)
  | absent
  | failed
  deriving DecidableEq, Repr

/-- A place for records by name. -/
structure TableStore (σ : Type) where
  load : String → σ → StoreReply × σ
  /-- Keeps a record under a name; says whether it did. -/
  store : String → String → σ → Bool × σ

/-- What turns a rendered grammar into tables; a failure is the compiler's message. -/
abbrev GrammarCompiler (σ : Type) := String → σ → Except String TableBundle × σ

/-- A store and a compiler with a state in common. -/
structure Backend (σ : Type) where
  store : TableStore σ
  compile : GrammarCompiler σ

/-- The store that keeps its records in a map and never fails. -/
def TableStore.memory : TableStore (Named String) where
  load name records :=
    (match records.get? name with
      | some text => .record text
      | none => .absent, records)
  store name text records := (true, records.put name text)

end ShaderSyntax
