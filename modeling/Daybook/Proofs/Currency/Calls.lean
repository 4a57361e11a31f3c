import Daybook.Money.Printed
import Daybook.Proofs.Currency.Registry

namespace Daybook

/-!
# Calls of a registry

Currencies are declared, designators are looked up and bound, amounts are read, and a registry
is closed and opened again, in any order and with calls that fail among them.  What a call can do
to the tables is listed here once, so that whatever is kept by every change is kept by every
sequence of calls.

One change belongs to calls that fail.  A declaration gives up the binding of its designator
before it looks for conflicts, and does not bring it back when it finds one.  A refused
declaration therefore leaves the registry as it was if its designator was not bound, and takes
the binding out if it was; nothing else is touched.
-/

open Unicode

/-- A call of a registry: it declares a currency, finds a currency or binds a designator, reads an
amount, or closes the registry or opens it. -/
inductive Registry.Call where
  | declare (declaration : Declaration)
  | resolve (token : Text) (style : Style)
  | amount (text : Text)
  | close (closed : Bool)

namespace Registry

/-- The registry that a call leaves behind, whether it succeeds or fails. -/
def call (registry : Registry) : Call → Registry
  | .declare declaration => (registry.declare declaration).2
  | .resolve token style => (registry.resolve token style).2
  | .amount text => (Money.ofText text registry).2
  | .close closed => registry.withClosed closed

/-- The registry that calls leave behind, one after the other. -/
def callAll (registry : Registry) (calls : List Call) : Registry :=
  calls.foldl call registry

/-! ## What a call changes -/

/-- What a call does to a registry.  A declaration gives up the binding of its designator, if there
is one, and then adds its currency if that is in conflict with none.  Any other call may bind a
designator that is unknown while the registry is open. -/
inductive Changes (registry : Registry) : Call → Registry → Prop
  | nothing (call : Call) : Changes registry call registry
  | close (closed : Bool) : Changes registry (.close closed) (registry.withClosed closed)
  | giveUp (declaration : Declaration) :
      Changes registry (.declare declaration) (registry.withoutBinding declaration.currency.designator)
  | add {declaration : Declaration}
      (fresh : (registry.withoutBinding declaration.currency.designator).currencies.get?
        declaration.currency.designator = none)
      (free : (registry.withoutBinding declaration.currency.designator).conflict? declaration.currency = none) :
      Changes registry (.declare declaration)
        ((registry.withoutBinding declaration.currency.designator).adding declaration.currency)
  | meet {call : Call} {token : Text} (style : Style) (other : ∀ declaration, call ≠ .declare declaration)
      (unknown : registry.lookup? token = none) (opened : registry.closed = false) :
      Changes registry call (registry.meeting (normalDesignator token) style)

theorem conflict_of_conflict? {registry : Registry} {currency : Currency} {cause : Cause}
    (found : registry.conflict? currency = some cause) : cause.kind = .conflict := by
  unfold conflict? at found
  dsimp only at found
  split at found
  · rw [← Option.some.inj found]
    rfl
  · split at found
    · cases found
    · rcases Option.map_eq_some_iff.mp found with ⟨owner, -, rfl⟩
      rfl

/-- A declaration is refused for a conflict, after the binding of its designator is given up. -/
theorem declare_eq_error {registry after : Registry} {declaration : Declaration} {cause : Cause}
    (refused : registry.declare declaration = (.error cause, after)) :
    cause.kind = .conflict ∧ after = registry.withoutBinding declaration.currency.designator := by
  unfold declare at refused
  dsimp only at refused
  split at refused
  · split at refused
    · cases refused
    · rcases Prod.mk.inj refused with ⟨same, rfl⟩
      rw [← Except.error.inj same]
      exact ⟨rfl, rfl⟩
  · split at refused
    · rename_i found
      rcases Prod.mk.inj refused with ⟨same, rfl⟩
      rw [← Except.error.inj same]
      exact ⟨conflict_of_conflict? found, rfl⟩
    · cases refused

theorem changes_declare (registry : Registry) (declaration : Declaration) :
    registry.Changes (.declare declaration) (registry.declare declaration).2 := by
  cases outcome : registry.declare declaration with
  | mk result after =>
      cases result with
      | error cause =>
          rcases (declare_eq_error outcome).2 with rfl
          exact .giveUp declaration
      | ok currency =>
          rcases declare_eq_ok outcome with ⟨rfl, -⟩ | ⟨fresh, free, rfl⟩
          · exact .giveUp declaration
          · exact .add fresh free

theorem changes_resolve (registry : Registry) (token : Text) (style : Style) {call : Call}
    (other : ∀ declaration, call ≠ .declare declaration) :
    registry.Changes call (registry.resolve token style).2 := by
  unfold resolve
  split
  · exact .nothing call
  · rename_i unknown
    split
    · exact .nothing call
    · rename_i opened
      exact .meet style other unknown (by simpa using opened)

theorem changes_amount (registry : Registry) (text : Text) :
    registry.Changes (.amount text) (Money.ofText text registry).2 := by
  unfold Money.ofText
  dsimp only
  split
  · exact .nothing _
  · rename_i literal read
    split
    · exact .nothing _
    · have change := @changes_resolve registry literal.token literal.style (.amount text) (by rintro declaration ⟨⟩)
      split
      · rename_i cause left resolved
        rw [resolved] at change
        exact change
      · rename_i currency left resolved
        rw [resolved] at change
        exact change

/-- Every call does what is listed. -/
theorem changes_call (registry : Registry) (call : Call) : registry.Changes call (registry.call call) := by
  cases call with
  | declare declaration => exact registry.changes_declare declaration
  | resolve token style => exact registry.changes_resolve token style (by rintro declaration ⟨⟩)
  | amount text => exact registry.changes_amount text
  | close closed => exact .close closed

/-- What every change keeps is kept by all calls. -/
theorem callAll_induction {kept : Registry → Prop} {allowed : Call → Prop}
    (step : ∀ {registry after : Registry} {call : Call}, kept registry → allowed call →
      registry.Changes call after → kept after)
    {registry : Registry} (start : kept registry) {calls : List Call} (each : ∀ call ∈ calls, allowed call) :
    kept (registry.callAll calls) := by
  induction calls generalizing registry with
  | nil => exact start
  | cons call rest ih =>
      have first := step start (each call List.mem_cons_self) (registry.changes_call call)
      exact ih first fun other member => each other (List.mem_cons_of_mem _ member)

/-! ## Refused declarations -/

/-- Every designator that is bound keeps its currency, whatever is called. -/
theorem HasBound.changes {registry after : Registry} (known : registry.HasBound) {call : Call}
    (changes : registry.Changes call after) : after.HasBound := by
  have given_up (designator : Text) : (registry.withoutBinding designator).HasBound := by
    intro other member
    rcases (mem_bound_withoutBinding known designator other).mp member with ⟨bound, different⟩
    rw [has, Table.has, get?_withoutBinding, if_neg fun both => different both.1.symm]
    exact known other bound
  cases changes with
  | nothing => exact known
  | close closed => exact known
  | giveUp declaration => exact given_up _
  | add fresh free =>
      intro other member
      rw [has, Table.has, get?_currencies_adding]
      split
      · rfl
      · exact given_up _ other member
  | meet style other unknown opened =>
      intro designator member
      rw [has, Table.has, get?_meeting]
      split
      · rfl
      · rename_i different
        rcases List.mem_append.mp member with before | here
        · exact known designator before
        · exact absurd (List.mem_singleton.mp here).symm different

theorem hasBound_callAll (closed : Bool) (calls : List Call) : HasBound (callAll { closed } calls) :=
  callAll_induction (fun known _ changes => HasBound.changes known changes)
    (by rintro designator ⟨⟩) (fun _ _ => trivial)

/-- Whether a registry is left as it was except for the binding of a designator. -/
structure LeftBut (registry : Registry) (designator : Text) (after : Registry) : Prop where
  closed : after.closed = registry.closed
  aliases : after.aliases = registry.aliases
  others : ∀ other, other ≠ designator → after.currencies.get? other = registry.currencies.get? other
  bound : ∀ other, other ∈ after.bound ↔ other ∈ registry.bound ∧ other ≠ designator
  given_up : designator ∈ registry.bound → after.currencies.get? designator = none
  unchanged_iff : after = registry ↔ designator ∉ registry.bound

theorem HasBound.leftBut {registry : Registry} (known : registry.HasBound) (designator : Text) :
    registry.LeftBut designator (registry.withoutBinding designator) := by
  refine ⟨closed_withoutBinding registry designator, aliases_withoutBinding registry designator, ?_,
    mem_bound_withoutBinding known designator, ?_, ?_, withoutBinding_of_not_mem⟩
  · intro other different
    rw [get?_withoutBinding, if_neg fun both => different both.1.symm]
  · intro bound
    rw [get?_withoutBinding, if_pos ⟨rfl, bound⟩]
  · intro unchanged bound
    rw [← unchanged, mem_bound_withoutBinding known] at bound
    exact bound.2 rfl

/-- After any calls, a declaration that is refused is in conflict with another one.  It leaves
the registry as it was, except that its designator is no longer bound; so the registry is the
same exactly if the designator was not bound before. -/
theorem refused_declaration_leaves (closed : Bool) (calls : List Call) {declaration : Declaration}
    {cause : Cause} {after : Registry}
    (refused : (callAll { closed } calls).declare declaration = (.error cause, after)) :
    cause.kind = .conflict ∧
      (callAll { closed } calls).LeftBut (normalDesignator declaration.designator) after := by
  rcases declare_eq_error refused with ⟨kind, rfl⟩
  exact ⟨kind, (hasBound_callAll closed calls).leftBut _⟩

/-- A registry with a declared currency and an amount in the alias of it. -/
def dollarCalls : List Call :=
  [.declare { designator := ['$'], code := some "USD".toList }, .amount "5 usd".toList]

theorem refused_euro_leaves_dollar :
    (callAll {} dollarCalls).declare { designator := ['€'], code := some "usd".toList } =
        (.error (.codeTaken "USD".toList ['$'] ['€']), callAll {} dollarCalls) ∧
      (callAll {} dollarCalls).LeftBut ['€'] (callAll {} dollarCalls) := by
  have refused : (callAll {} dollarCalls).declare { designator := ['€'], code := some "usd".toList } =
      (.error (.codeTaken "USD".toList ['$'] ['€']), callAll {} dollarCalls) := by decide +kernel
  have normal : normalDesignator ['€'] = ['€'] := by decide +kernel
  have left := (refused_declaration_leaves false dollarCalls refused).2
  rw [normal] at left
  exact ⟨refused, left⟩

/-- A registry with a declared currency and an amount in another one. -/
def euroCalls : List Call :=
  [.declare { designator := ['€'], code := some "EUR".toList }, .amount "10$".toList]

/-- A declaration that is refused for its alias takes the binding of its designator with it: the
currency of the amount is unknown from then on, and the amount is shown in another style. -/
theorem refused_declaration_unbinds :
    ∃ after, (callAll {} euroCalls).declare { designator := ['$'], code := some "EUR".toList } =
        (.error (.codeTaken "EUR".toList ['€'] ['$']), after) ∧
      after ≠ callAll {} euroCalls ∧
      (callAll {} euroCalls).lookup? ['$'] = some (.met ['$'] .after) ∧ after.lookup? ['$'] = none ∧
      Money.format ⟨['$'], ⟨false, 10, 0⟩⟩ (callAll {} euroCalls) = .ok "10.00$".toList ∧
      Money.format ⟨['$'], ⟨false, 10, 0⟩⟩ after = .ok "$10.00".toList := by
  refine ⟨(callAll {} [.declare { designator := ['€'], code := some "EUR".toList }]), ?_⟩
  decide +kernel

end Registry
end Daybook
