import Daybook.Currency.Basic
import Daybook.Error
import Daybook.Table

namespace Daybook

/-!
# The currencies of a ledger

A registry keeps the currencies under their designators and the aliases of
symbols.  While it is open, a designator that is met in an amount for the first
time is bound to a currency of its own; a later declaration replaces such a
binding.  While it is closed, only declarations add currencies.

Registries are values.  An operation that may fail half-way answers with the
registry it leaves behind next to its result.
-/

/-- A declaration of a currency, with the code as an alias.  Without a style the designator stands
at its default place. -/
structure Declaration where
  designator : Text
  code : Option Text := none
  precision : Int := Currency.defaultPrecision
  name : Option Text := none
  style : Option Style := none
  deriving DecidableEq, Repr

def Declaration.currency (declaration : Declaration) : Currency :=
  let designator := normalDesignator declaration.designator
  { designator
    code := declaration.code.map Unicode.upper
    precision := declaration.precision
    name := declaration.name
    style := declaration.style.getD (Currency.defaultStyle designator) }

/-- The currencies that a ledger knows, under their designators, and the designators under the
aliases.  While the registry is closed, only declarations add currencies; `bound` lists the
designators that were bound when they were first met. -/
structure Registry where
  closed : Bool := false
  currencies : Table Text Currency := []
  aliases : Table Text Text := []
  bound : List Text := []
  deriving DecidableEq, Repr

namespace Registry

def size (registry : Registry) : Nat := registry.currencies.length

def has (registry : Registry) (designator : Text) : Bool :=
  registry.currencies.has designator

def toList (registry : Registry) : List Currency :=
  registry.currencies.values.mergeSort fun left right =>
    Text.precedes left.designator right.designator

/-- The designator that already claims an alias: the one it stands for, or
else itself when it is a currency. -/
def aliasOwner? (registry : Registry) (code : Text) : Option Text :=
  match registry.aliases.get? code with
  | some owner =>
    if owner.isEmpty then (if registry.has code then some code else none) else some owner
  | none => if registry.has code then some code else none

/-- The registry without the binding that a first use left under a
designator. -/
def withoutBinding (registry : Registry) (designator : Text) : Registry :=
  if registry.has designator && registry.bound.elem designator then
    { registry with
      currencies := registry.currencies.erase designator
      bound := registry.bound.filter (· ≠ designator) }
  else registry

/-- Why a currency cannot be added to the ones declared, if so. -/
def conflict? (registry : Registry) (currency : Currency) : Option Cause :=
  let designator := currency.designator
  match if isCode designator then registry.aliases.get? designator else none with
  | some owner => some (.designatorTaken designator owner)
  | none =>
    match currency.code with
    | none => none
    | some code => (registry.aliasOwner? code).map fun owner => .codeTaken code owner designator

/-- Declares a currency.  Declaring it again with the same attributes changes
nothing.  A binding left by a first use is given up before conflicts are looked
for, and stays given up when one is found. -/
def declare (registry : Registry) (declaration : Declaration) :
    Except Cause Currency × Registry :=
  let currency := declaration.currency
  let kept := registry.withoutBinding currency.designator
  match kept.currencies.get? currency.designator with
  | some existing =>
    if existing.agrees currency then (.ok existing, kept)
    else (.error (.redeclared currency.designator), kept)
  | none =>
    match kept.conflict? currency with
    | some cause => (.error cause, kept)
    | none =>
      (.ok currency,
        { kept with
          currencies := kept.currencies.put currency.designator currency
          aliases :=
            match currency.code with
            | some code => kept.aliases.put code currency.designator
            | none => kept.aliases })

/-- Makes declarations in order; the first that fails ends it. -/
def declareAll : Registry → List Declaration → Except Cause Registry
  | registry, [] => .ok registry
  | registry, declaration :: rest =>
    match registry.declare declaration with
    | (.ok _, next) => declareAll next rest
    | (.error cause, _) => .error cause

/-- The currency of a designator or alias; codes in any letter case. -/
def lookup? (registry : Registry) (token : Text) : Option Currency :=
  match registry.currencies.get? token with
  | some currency => some currency
  | none =>
    if isCode token then
      let code := Unicode.upper token
      match registry.currencies.get? code with
      | some currency => some currency
      | none => (registry.aliases.get? code).bind registry.currencies.get?
    else none

/-- The currency of a designator or alias.  An open registry binds an unknown
one to a currency with the given style. -/
def resolve (registry : Registry) (token : Text) (style : Style) :
    Except Cause Currency × Registry :=
  match registry.lookup? token with
  | some currency => (.ok currency, registry)
  | none =>
    if registry.closed then (.error (.unknownCurrency token), registry)
    else
      let designator := normalDesignator token
      let currency : Currency := { Currency.plain designator with style }
      (.ok currency,
        { registry with
          currencies := registry.currencies.put designator currency
          bound := registry.bound ++ [designator] })

/-- The currency of a designator, a plain one if it has none. -/
def currencyFor (registry : Registry) (designator : Text) : Currency :=
  (registry.currencies.get? designator).getD (.plain designator)

def withClosed (registry : Registry) (closed : Bool) : Registry :=
  { registry with closed }

end Registry
end Daybook
