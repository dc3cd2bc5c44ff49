import SchemaCheck.Pattern.Reader
import SchemaCheck.Pattern.Search
import SchemaCheck.Pattern.Size

namespace SchemaCheck

namespace Pattern

def compile? (source : String) : Option Expr :=
  (Expr.read? source.toList).bind fun e => if e.isTooLarge then none else some e

end Pattern

structure Pattern where
  source : String
  expr : Pattern.Expr
  compiles : Pattern.compile? source = some expr

namespace Pattern

def ofSource? (source : String) : Option Pattern :=
  match h : compile? source with
  | some expr => some ⟨source, expr, h⟩
  | none => none

def isMatch (p : Pattern) (text : String) : Bool := p.expr.foundIn text.toList

theorem ofSource?_source (p : Pattern) : ofSource? p.source = some p := by
  obtain ⟨source, expr, h⟩ := p
  unfold ofSource?
  split
  · rename_i e he
    simp only [Option.some.injEq, Pattern.mk.injEq, true_and]
    exact Option.some.inj (he.symm.trans h)
  · rename_i he
    exact absurd (he.symm.trans h) (by simp)

end Pattern

end SchemaCheck
