import DecisionEngine.Euclid.PmFilterCompiler

/-!
# Rules in the compiled graph

Reading the configuration, the builder compiles one rule for each connector and
payment method type.  What it holds at any point is described by the rules so
far: every edge into an output comes from a rule of that output, every rule has
such an edge, and the two name tables list the rules.
-/

namespace DecisionEngine.Euclid.PmFilter

open Cgraph GraphCompiler

/-- A filter with the normalised names it is compiled under. -/
structure CompiledRule where
  connector : String
  paymentMethodType : String
  filter : CurrencyCountryFlowFilter

def ruleOf (connector : String) (entry : String × CurrencyCountryFlowFilter) :
    Option CompiledRule :=
  if (normalize entry.1).isEmpty then none
  else some ⟨connector, normalize entry.1, entry.2⟩

variable {rules : List CompiledRule}

variable {builder : Builder}

end DecisionEngine.Euclid.PmFilter
