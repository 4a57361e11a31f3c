import Daybook.Proofs.Ledger.Posting

namespace Daybook

/-!
# Printing a posting is undone by taking its line apart

The line of a posting is taken apart from its end, by the words that stand there.  An account may
hold words that look like a number, a code or an amount of money, but it never is the end of the
line: what stands there is the printed amount, which is one word if its designator is a symbol
and two if it is a code.  Nothing is asked of the amount itself.  It may be rounded when it is
printed, and its currency may have any number of decimals, also a negative one.

It is the designator that has to be what its style says: one character that can be a symbol, or
letters.  The checks by which a designator counts as a symbol or as a code are laxer than that.
-/

open Unicode

namespace Posting

variable {registry : Registry} {posting : Posting} {money : Money}

/-- The line of a posting is taken apart into its account and its printed amount, at the place
where the amount stands. -/
theorem taken_apart {text : Text} {line : Option Nat} {start : Nat}
    (fixed : Account.ofText posting.account.name line start = .ok posting.account)
    (given : posting.money = some money)
    (reads : (registry.currencyFor money.currency).style.Reads
      (registry.currencyFor money.currency).designator)
    (printed : money.format registry = .ok text) (column : Int) :
    ∃ written gap, posting.toLine registry column = .ok written ∧
      Text.strip written = posting.account.name ++ List.replicate gap ' ' ++ text ∧
      PostingText.ofText (Text.strip written) =
        ⟨posting.account.name, some text, posting.account.name.length + gap⟩ := by
  have normal := Account.isNormal_of_ofText fixed
  rcases Money.exists_dress_of_format printed with ⟨negative, number, numeric, rfl⟩
  rcases exists_toLine_of_format given printed column with ⟨gap, wide, same⟩
  have filled := Literal.ne_nil_of_isNumeric numeric
  have trim := Money.isTrim_dress reads negative filled (Literal.isSolid_of_isNumeric numeric)
  have strip := @strip_line _ normal (List.replicate gap ' ') _ trim (Money.dress_ne_nil _ _ _ filled)
  have some_space : List.replicate gap ' ' ≠ [] := by
    rw [← List.length_pos_iff, List.length_replicate]
    omega
  have apart := PostingText.ofText_dress normal reads numeric negative some_space
    (isEmptySpace_replicate gap)
  rw [List.length_replicate] at apart
  exact ⟨_, gap, same, strip, strip.symm ▸ apart⟩

/-- A registry that knows one currency by its code. -/
def euros : Registry := { currencies := [("EUR".toList, ⟨"EUR".toList, none, 2, none, .code⟩)] }

/-- A posting to an account that ends in words like an amount. -/
def topTen : Posting where
  account := ⟨"asset/top 10 EUR".toList⟩
  money := some ⟨"EUR".toList, ⟨true, 10, 0⟩⟩

theorem topTen_taken_apart :
    topTen.toLine euros 0 = .ok "    asset/top 10 EUR  -10.00 EUR".toList ∧
      PostingText.ofText "asset/top 10 EUR  -10.00 EUR".toList =
        ⟨"asset/top 10 EUR".toList, some "-10.00 EUR".toList, 18⟩ := by
  have fixed : Account.ofText topTen.account.name none 1 = .ok topTen.account := by decide +kernel
  have letters : "EUR".toList.all isCodeLetter = true := by decide +kernel
  have reads : (euros.currencyFor "EUR".toList).style.Reads (euros.currencyFor "EUR".toList).designator :=
    ⟨by decide, List.all_eq_true.mp letters⟩
  have printed : Money.format ⟨"EUR".toList, ⟨true, 10, 0⟩⟩ euros = .ok "-10.00 EUR".toList := by
    decide +kernel
  have line : topTen.toLine euros 0 = .ok "    asset/top 10 EUR  -10.00 EUR".toList := by decide +kernel
  have stripped : Text.strip "    asset/top 10 EUR  -10.00 EUR".toList =
      "asset/top 10 EUR  -10.00 EUR".toList := by
    decide +kernel
  rcases taken_apart fixed rfl reads printed 0 with ⟨written, gap, same, strip, apart⟩
  rcases Except.ok.inj (line.symm.trans same) with rfl
  rw [stripped] at strip apart
  obtain rfl : gap = 2 := by
    have length := congrArg List.length strip
    rw [List.length_append, List.length_append, List.length_replicate] at length
    change 28 = 16 + gap + 10 at length
    omega
  exact ⟨line, apart⟩

/-- Two designators that are no symbol and no letters are declared and printed all the same, and
their lines are not taken apart: a letter whose capital takes two characters, and a symbol with a
line feed behind it. -/
theorem lines_not_taken_apart :
    (∃ registry currency, Registry.declare {} { designator := ['ǰ'] } = (.ok currency, registry) ∧
      isCode ['ǰ'] = true ∧ currency.designator = upper ['ǰ'] ∧ currency.style = .code ∧
      Money.format ⟨upper ['ǰ'], ⟨false, 1, 0⟩⟩ registry = .ok "1.00 J̌".toList ∧
      Posting.toLine ⟨⟨['a']⟩, some ⟨upper ['ǰ'], ⟨false, 1, 0⟩⟩, none⟩ registry 0 =
        .ok "    a  1.00 J̌".toList ∧
      PostingText.ofText (Text.strip "    a  1.00 J̌".toList) = ⟨"a  1.00 J̌".toList, none, 0⟩) ∧
    (∃ registry currency, Registry.declare {} { designator := ['$', '\n'] } = (.ok currency, registry) ∧
      isSymbol ['$', '\n'] = true ∧ currency.designator = ['$', '\n'] ∧ currency.style = .before ∧
      Money.format ⟨['$', '\n'], ⟨false, 1, 0⟩⟩ registry = .ok "$\n1.00".toList ∧
      Posting.toLine ⟨⟨['a']⟩, some ⟨['$', '\n'], ⟨false, 1, 0⟩⟩, none⟩ registry 0 =
        .ok "    a  $\n1.00".toList ∧
      PostingText.ofText (Text.strip "    a  $\n1.00".toList) =
        ⟨"a  $".toList, some "1.00".toList, 5⟩) := by
  constructor
  · exact ⟨_, _, Prod.ext rfl rfl, by decide +kernel, by decide +kernel, by decide +kernel,
      by decide +kernel, by decide +kernel, by decide +kernel⟩
  · exact ⟨_, _, Prod.ext rfl rfl, by decide +kernel, by decide +kernel, by decide +kernel,
      by decide +kernel, by decide +kernel, by decide +kernel⟩

end Posting
end Daybook
