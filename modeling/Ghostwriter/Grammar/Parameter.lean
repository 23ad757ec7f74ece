import Ghostwriter.Grammar.Expr
import Ghostwriter.Grammar.Parser

/-!
The parameters of a function: positional ones, those with defaults behind those without, a slash
behind the ones that are positional only, an asterisk before the ones that are named only, and at
the end two asterisks for all other named arguments.
-/

namespace Ghostwriter.Grammar

open Ghostwriter.Text

-- How the parameters of a kind of function are written. The annotations of a lambda are empty.
structure ParameterStyle where
  -- the symbol behind the last parameter
  closer : Symbol
  annotation : Parser Unit
  -- the annotation of the parameter for further positional arguments
  starAnnotation : Parser Unit

-- What has been read of the parameters.
structure ParameterState where
  -- a parameter, and so something that a slash can follow
  hasNames : Bool
  hasDefault : Bool
  hasSlash : Bool
  hasStar : Bool
  -- a lone asterisk, which a name has to follow
  needsName : Bool
  deriving DecidableEq, Repr

def ParameterState.start : ParameterState := ⟨false, false, false, false, false⟩

-- A comma, or the symbol behind the last parameter, which is not taken.
def separator? (closer : Symbol) (ts : List Token) : Option (List Token) :=
  match take? .comma ts with
  | some ts => some ts
  | none => if startsWith closer ts then some ts else none

-- A parameter by its name: whether it has a default.
def namedParameter (expression : Parser Expr) (style : ParameterStyle) : Parser Bool := fun ts => do
  let (_, ts) ← nameToken? ts
  let (_, ts) ← style.annotation ts
  match take? .equal ts with
  | none => some (false, ts)
  | some ts => do
    let (_, ts) ← expression ts
    some (true, ts)

-- The parameters up to the symbol behind them, which is not taken. The third argument bounds their
-- number.
def parametersUpTo (expression : Parser Expr) (style : ParameterStyle) :
    Nat → ParameterState → List Token → Option (List Token)
  | 0, _, _ => none
  | fuel + 1, state, ts =>
    if startsWith style.closer ts then if state.needsName then none else some ts
    else
      match ts with
      | .symbol .slash :: ts => do
        if !state.hasNames || state.hasSlash || state.hasStar then none
        let ts ← separator? style.closer ts
        parametersUpTo expression style fuel { state with hasSlash := true } ts
      | .symbol .star :: .symbol .comma :: ts => do
        if state.hasStar then none
        parametersUpTo expression style fuel { state with hasStar := true, needsName := true } ts
      | .symbol .star :: .name _ :: ts => do
        if state.hasStar then none
        let (_, ts) ← style.starAnnotation ts
        let ts ← separator? style.closer ts
        parametersUpTo expression style fuel { state with hasStar := true } ts
      | .symbol .doubleStar :: .name _ :: ts => do
        if state.needsName then none
        let (_, ts) ← style.annotation ts
        let ts ← separator? style.closer ts
        if startsWith style.closer ts then some ts else none
      | ts => do
        let (hasDefault, ts) ← namedParameter expression style ts
        if !hasDefault && state.hasDefault && !state.hasStar then none
        let ts ← separator? style.closer ts
        parametersUpTo expression style fuel
          { state with
            hasNames := true
            hasDefault := state.hasDefault || hasDefault
            needsName := false } ts

def parameters (expression : Parser Expr) (style : ParameterStyle) (ts : List Token) :
    Option (List Token) :=
  parametersUpTo expression style (ts.length + 1) ParameterState.start ts

end Ghostwriter.Grammar
