import Egress.Markup.Basic
import Egress.Markup.Constant
import Egress.Text.Quoted
import Egress.Text.Word

/-! # The parameters of tags

The parameters of a tag for an event name a handler, give arguments in parentheses, or do both, or
are a constant by themselves. The arguments are a constant.

* `argumentsOf`       the constant that parameters give
* `parameterFault?`   why parameters give none

This is how parameters are evaluated unless something else is said. -/

namespace Egress.Markup

open Egress.Text

/-- The constant that parameters without blanks around them give. Without arguments, a handler has
none. -/
def argumentsOf (s : List Char) : List Char :=
  match s.dropWhile fun c => isWordChar c || c = '.' with
  | [] => "()".toList
  | c :: rest =>
    if c = '(' ∧ rest.getLast? = some ')' ∧ '\n' ∉ rest then c :: rest else s

/-- What is said of parameters that cannot be evaluated. -/
def parameterFault? (parameters : List Char) : Option String :=
  if isConstant (argumentsOf (trim parameters)) then none
  else some ("error parsing " ++ quoted (String.ofList parameters))

/-- A handler alone can be evaluated. -/
theorem parameterFault?_of_handler {s : List Char}
    (h : ∀ c ∈ trim s, (isWordChar c || c = '.') = true) : parameterFault? s = none := by
  have hnone : isConstant "()".toList = true := by decide +kernel
  have hall : (trim s).dropWhile (fun c => isWordChar c || c = '.') = [] := by
    rw [← List.append_nil (trim s), List.dropWhile_append_of_pos h]
    rfl
  have harguments : argumentsOf (trim s) = "()".toList := by rw [argumentsOf, hall]
  rw [parameterFault?, harguments, if_pos hnone]

example : parameterFault? "app.quit".toList = none := by decide +kernel

example : parameterFault? "select(1, 'a')".toList = none := by decide +kernel

example : parameterFault? "select(".toList = some "error parsing 'select('" := by decide +kernel

/-- Parameters are evaluated as handlers and constants. -/
instance : Evaluation := ⟨parameterFault?⟩

end Egress.Markup
