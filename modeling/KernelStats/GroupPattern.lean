import KernelStats.Pattern.Reading

/-!
# Group patterns

The name of a statistics group is a regular expression in which the whole of a name must match. Its
text is put between anchors before it is read, so that a parenthesis in it can close the group of the
anchors. An id without any sign of the pattern language is `literal?`: it stands for one name only.
-/

namespace KernelStats

def anchored (id : String) : String := "^(?:" ++ id ++ ")$"

structure GroupPattern where
  source : String
  expr : Pattern.Expr
  reads : Pattern.Expr.ofText? (anchored source) = some expr

namespace GroupPattern

def ofText? (id : String) : Option GroupPattern :=
  match h : Pattern.Expr.ofText? (anchored id) with
  | some expr => some ⟨id, expr, h⟩
  | none => none

def isSyntax (c : Char) : Bool := "\\.+*?()|[]\x7b\x7d^$".toList.contains c

def literal? (p : GroupPattern) : Option String :=
  if p.source.toList.any isSyntax then none else some p.source

def isMatch (p : GroupPattern) (name : String) : Bool := p.expr.search name

end GroupPattern

instance : ToString GroupPattern := ⟨GroupPattern.source⟩

instance : BEq GroupPattern := ⟨fun p q => p.source == q.source⟩

end KernelStats
