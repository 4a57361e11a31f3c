import Daybook.Error

namespace Daybook
namespace Outcome

/-!
# Results of chained operations

An operation on a ledger is a chain of operations any of which may fail.  A chain
that succeeds has succeeded in every link; these lemmas take one apart without
unfolding it.
-/

variable {ε α β : Type}

theorem bind_eq_ok {first : Except ε α} {next : α → Except ε β} {result : β} :
    (first >>= next) = .ok result ↔ ∃ value, first = .ok value ∧ next value = .ok result := by
  cases first with
  | ok value => exact ⟨fun ok => ⟨value, rfl, ok⟩, by rintro ⟨_, ⟨⟩, ok⟩; exact ok⟩
  | error failure => exact ⟨fun ok => (by cases ok), by rintro ⟨_, ⟨⟩, _⟩⟩

/-- A chain that goes on from one of two values first takes the one or the other. -/
theorem choice_eq_bind {condition : Prop} [Decidable condition] {value : α} {first : Except ε α}
    {next : α → Except ε β} :
    (if condition then next value else first >>= next) =
      ((if condition then .ok value else first) >>= next) := by
  split <;> rfl

theorem bind_eq_error {first : Except ε α} {next : α → Except ε β} {failure : ε} :
    (first >>= next) = .error failure ↔
      first = .error failure ∨ ∃ value, first = .ok value ∧ next value = .error failure := by
  cases first with
  | ok value =>
      constructor
      · exact fun failed => Or.inr ⟨value, rfl, failed⟩
      · rintro (⟨⟨⟩⟩ | ⟨_, ⟨⟩, failed⟩)
        exact failed
  | error other =>
      constructor
      · exact fun failed => Or.inl (by cases failed; rfl)
      · rintro (⟨⟨⟩⟩ | ⟨_, ⟨⟩, _⟩)
        rfl

theorem choice_eq_error {condition : Prop} [Decidable condition] {value : α} {first : Except ε α}
    {next : α → Except ε β} {failure : ε}
    (failed : (if condition then next value else first >>= next) = .error failure) :
    first = .error failure ∨ ∃ chosen, next chosen = .error failure := by
  split at failed
  · exact Or.inr ⟨value, failed⟩
  · exact (bind_eq_error.mp failed).imp_right fun ⟨chosen, _, later⟩ => ⟨chosen, later⟩

/-- Two results that are joined fail as one of them does. -/
theorem both_eq_error {γ : Type} {first : Except ε α} {second : Except ε β} {join : α → β → γ}
    {failure : ε}
    (failed : (do let a ← first; let b ← second; return join a b : Except ε γ) = .error failure) :
    first = .error failure ∨ second = .error failure := by
  rcases bind_eq_error.mp failed with here | ⟨a, -, failed⟩
  · exact Or.inl here
  · rcases bind_eq_error.mp failed with there | ⟨b, -, done⟩
    · exact Or.inr there
    · cases done

theorem map_eq_ok {first : Except ε α} {change : α → β} {result : β} :
    first.map change = .ok result ↔ ∃ value, first = .ok value ∧ change value = result := by
  cases first with
  | ok value =>
      constructor
      · intro ok
        exact ⟨value, rfl, Except.ok.inj ok⟩
      · rintro ⟨_, ⟨⟩, rfl⟩
        rfl
  | error failure => exact ⟨fun ok => (by cases ok), by rintro ⟨_, ⟨⟩, _⟩⟩

theorem map_eq_error {first : Except ε α} {change : α → β} {failure : ε} :
    first.map change = .error failure ↔ first = .error failure := by
  cases first with
  | ok value => exact ⟨fun failed => (by cases failed), fun failed => (by cases failed)⟩
  | error other =>
      constructor
      · intro failed
        exact congrArg Except.error (Except.error.inj failed)
      · rintro ⟨⟩
        rfl

/-- Two results can be joined exactly when there are both. -/
theorem exists_both {γ : Type} {first : Except ε α} {second : Except ε β} {join : α → β → γ} :
    (∃ result, (do let a ← first; let b ← second; return join a b : Except ε γ) = .ok result) ↔
      (∃ a, first = .ok a) ∧ ∃ b, second = .ok b := by
  constructor
  · rintro ⟨result, ok⟩
    rcases bind_eq_ok.mp ok with ⟨a, here, ok⟩
    rcases bind_eq_ok.mp ok with ⟨b, there, -⟩
    exact ⟨⟨a, here⟩, b, there⟩
  · rintro ⟨⟨a, rfl⟩, b, rfl⟩
    exact ⟨join a b, rfl⟩

theorem exists_map {first : Except ε α} {change : α → β} :
    (∃ result, first.map change = .ok result) ↔ ∃ a, first = .ok a := by
  constructor
  · rintro ⟨result, ok⟩
    rcases map_eq_ok.mp ok with ⟨a, here, -⟩
    exact ⟨a, here⟩
  · rintro ⟨a, rfl⟩
    exact ⟨change a, rfl⟩

theorem ofNumbers_eq_ok {first : Except Decimal.Signal α} {result : α} :
    ofNumbers first = .ok result ↔ first = .ok result := by
  cases first with
  | ok value => exact ⟨fun ok => congrArg _ (Except.ok.inj ok), fun ok => congrArg _ (Except.ok.inj ok)⟩
  | error signal => exact ⟨fun ok => (by cases ok), fun ok => (by cases ok)⟩

theorem ofNumbers_eq_error {first : Except Decimal.Signal α} {failure : Failure} :
    ofNumbers first = .error failure ↔ ∃ signal, first = .error signal ∧ failure = .arithmetic signal := by
  cases first with
  | ok value => exact ⟨fun failed => (by cases failed), by rintro ⟨_, ⟨⟩, _⟩⟩
  | error signal =>
      constructor
      · intro failed
        exact ⟨signal, rfl, (Except.error.inj failed).symm⟩
      · rintro ⟨_, ⟨⟩, rfl⟩
        rfl

/-- Numbers are no fault of the ledger. -/
theorem ofNumbers_ne_fault {first : Except Decimal.Signal α} {fault : LedgerFault} :
    ofNumbers first ≠ .error (.ledger fault) := by
  intro failed
  rcases ofNumbers_eq_error.mp failed with ⟨signal, -, same⟩
  cases same

end Outcome

/-! ## Faults of the ledger -/

namespace Failure

def IsFault (failure : Failure) : Prop := ∃ fault, failure = .ledger fault

variable {failure : Failure}

theorem isFault_of_refused {α : Type} {fault : LedgerFault}
    (refused : (.error (.ledger fault) : Outcome α) = .error failure) : failure.IsFault :=
  ⟨fault, (Except.error.inj refused).symm⟩

/-- A place makes a fault of a fault and leaves all other failures alone. -/
theorem placedAt_cases (failure : Failure) (line column : Nat) :
    (failure.placedAt line column).IsFault ∨ failure.placedAt line column = failure := by
  cases failure
  case ledger fault => exact Or.inl ⟨_, rfl⟩
  all_goals exact Or.inr rfl

end Failure
end Daybook
