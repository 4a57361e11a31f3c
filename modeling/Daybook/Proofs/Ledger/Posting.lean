import Daybook.Proofs.Ledger.Canonical

namespace Daybook

/-!
# Printed postings are taken apart where they were put together

An account may end in words that look like an amount, and what tells them from one is
that the amount is the last thing on the line.  A posting without an amount does not
have this protection; a resolved ledger has none.
-/

open Unicode

namespace PostingText

theorem wordsFrom_ne_nil {text : Text} (filled : text ≠ []) (trim : Text.IsTrim text) (offset : Nat) :
    Text.wordsFrom offset text ≠ [] := by
  intro nothing
  have no_words : Text.words text = [] := by rw [← Text.map_snd_wordsFrom offset, nothing]; rfl
  rcases List.exists_cons_of_ne_nil filled with ⟨c, rest, rfl⟩
  have blank := Text.isEmptySpace_of_words_eq_nil no_words c List.mem_cons_self
  rw [trim.1 c rest rfl] at blank
  cases blank

def signed (negative : Bool) (number : Text) : Text := Literal.signText negative ++ number

section Number

variable {number : Text} (numeric : Literal.isNumeric number = true) (solid : Text.IsSolid number)
  (negative : Bool)
include numeric

theorem isAmountWord_signed : isAmountWord (signed negative number) = true := by
  have unsigned := Literal.takeMinus_number numeric []
  rw [List.append_nil] at unsigned
  rw [isAmountWord, signed, Literal.takeMinus_signed unsigned]
  exact numeric

theorem signed_ne_nil : signed negative number ≠ [] := by
  intro nothing
  rw [(List.append_eq_nil_iff.mp nothing).2] at numeric
  cases numeric

theorem exists_digit_in_number : ∃ c ∈ number, isDecimal c = true := by
  cases number with
  | nil => cases numeric
  | cons c rest =>
      rw [Literal.isNumeric, Bool.and_eq_true] at numeric
      exact ⟨c, List.mem_cons_self, numeric.1⟩

/-- A word with a number in it is no code but shows a digit. -/
theorem not_isCode_of_number {word : Text} (solid : Text.IsSolid word)
    (part : ∀ c ∈ number, c ∈ word) : isCode word = false ∧ word.any isDigit = true := by
  rcases exists_digit_in_number numeric with ⟨c, member, decimal⟩
  constructor
  · by_contra code
    rw [Bool.not_eq_false, isCode_iff solid] at code
    have other := isDecimal_of_isCodeLetter (code.2 c (part c member))
    rw [decimal] at other
    cases other
  · refine List.any_eq_true.mpr ⟨c, part c member, ?_⟩
    rw [isDigit, decimal, Bool.true_or]

end Number

/-- The account is what precedes the amount without the space between them. -/
theorem take_account {name space : Text} (trim : Text.IsTrim name) (empty : Text.IsEmptySpace space)
    (amount : Text) :
    Text.stripEnd ((name ++ space ++ amount).take (name.length + space.length)) = name := by
  rw [← List.length_append, List.take_left', Text.stripEnd_space empty, trim.stripEnd_eq]
  rfl

section Line

variable {name number : Text} (filled : name ≠ []) (trim : Text.IsTrim name)
  (numeric : Literal.isNumeric number = true) (solid : Text.IsSolid number) (negative : Bool)
  {space : Text} (some_space : space ≠ []) (empty : Text.IsEmptySpace space)
include filled trim numeric some_space empty

/-- An amount that is one word. -/
theorem ofText_word {amount : Text} (solid : Text.IsSolid amount) (part : ∀ c ∈ number, c ∈ amount) :
    ofText (name ++ space ++ amount) = ⟨name, some amount, name.length + space.length⟩ := by
  rcases not_isCode_of_number numeric solid part with ⟨no_code, digit⟩
  have amount_filled : amount ≠ [] := by
    rintro rfl
    cases digit
  have words : Text.wordsAt (name ++ space ++ amount) =
      Text.wordsFrom 0 name ++ [(name.length + space.length, amount)] := by
    rw [Text.wordsAt_eq, Text.wordsFrom_last some_space empty amount_filled solid, Nat.zero_add]
  have before := wordsFrom_ne_nil filled trim 0
  obtain ⟨place, others, shape⟩ := List.exists_cons_of_ne_nil
    (mt List.reverse_eq_nil_iff.mp before)
  unfold ofText
  rw [words, List.reverse_append, List.reverse_singleton, List.singleton_append, shape]
  dsimp only
  rw [no_code, Bool.and_false, if_neg Bool.false_ne_true, if_pos digit,
    take_account trim empty]

/-- An amount that is a number and a code. -/
theorem ofText_words (solid : Text.IsSolid number) {code : Text} (letters : IsLetters code) :
    ofText (name ++ space ++ (signed negative number ++ ' ' :: code)) =
      ⟨name, some (signed negative number ++ ' ' :: code), name.length + space.length⟩ := by
  have number_filled := signed_ne_nil numeric negative
  have number_solid : Text.IsSolid (signed negative number) :=
    (Money.isSolid_signText negative).append solid
  have together : name ++ space ++ (signed negative number ++ ' ' :: code) =
      name ++ space ++ signed negative number ++ [' '] ++ code := by simp
  have words : Text.wordsAt (name ++ space ++ signed negative number ++ [' '] ++ code) =
      Text.wordsFrom 0 name ++ [(name.length + space.length, signed negative number)] ++
        [((name ++ space ++ signed negative number).length + 1, code)] := by
    rw [Text.wordsAt_eq, Text.wordsFrom_last (List.cons_ne_nil _ _) Text.isEmptySpace_space letters.1
      letters.isSolid, Text.wordsFrom_last some_space empty number_filled number_solid, Nat.zero_add,
      Nat.zero_add]
    rfl
  have before := wordsFrom_ne_nil filled trim 0
  have others : (Text.wordsFrom 0 name).reverse.isEmpty = false := by simpa using before
  have amount_trim : Text.IsTrim (signed negative number ++ ' ' :: code) := by
    have joined := @Text.IsTrim.append _ [' '] _ number_solid.isTrim letters.isSolid.isTrim
      number_filled letters.1
    rwa [List.append_assoc, List.singleton_append] at joined
  have drop : (name ++ space ++ (signed negative number ++ ' ' :: code)).drop
      (name.length + space.length) = signed negative number ++ ' ' :: code := by
    rw [← List.length_append, List.drop_left]
  unfold ofText
  dsimp only
  rw [together, words, ← together, List.reverse_append, List.reverse_singleton, List.singleton_append,
    List.reverse_append, List.reverse_singleton, List.singleton_append]
  dsimp only
  rw [others, isAmountWord_signed numeric, letters.isCode, if_pos (by rfl),
    take_account trim empty, drop, amount_trim.strip_eq]

end Line

/-- An account and an amount are taken apart, in whatever style the amount is written. -/
theorem ofText_dress {account : Account} (normal : account.IsNormal) {style : Style} {designator : Text}
    (reads : style.Reads designator) {number : Text} (numeric : Literal.isNumeric number = true)
    (negative : Bool) {space : Text} (some_space : space ≠ []) (empty : Text.IsEmptySpace space) :
    ofText (account.name ++ space ++ Money.dress style negative designator number) =
      ⟨account.name, some (Money.dress style negative designator number),
        account.name.length + space.length⟩ := by
  have solid := Literal.isSolid_of_isNumeric numeric
  have sign := Money.isSolid_signText negative
  cases style with
  | before =>
      rcases reads with ⟨c, rfl, symbol⟩
      exact ofText_word normal.ne_nil normal.isTrim numeric some_space empty
        ((sign.append (isSolid_symbol symbol)).append solid) fun d member => List.mem_append_right _ member
  | after =>
      rcases reads with ⟨c, rfl, symbol⟩
      exact ofText_word normal.ne_nil normal.isTrim numeric some_space empty
        ((sign.append solid).append (isSolid_symbol symbol)) fun d member =>
          List.mem_append_left _ (List.mem_append_right _ member)
  | code => exact ofText_words normal.ne_nil normal.isTrim numeric negative some_space empty solid reads

/-- A printed posting is taken apart into its account and its amount. -/
theorem ofText_line {account : Account} (normal : account.IsNormal) {currency : Currency}
    {shown : Decimal} (reads : currency.style.Reads currency.designator)
    {space : Text} (some_space : space ≠ []) (empty : Text.IsEmptySpace space) :
    ofText (account.name ++ space ++ Money.textOf currency shown) =
      ⟨account.name, some (Money.textOf currency shown), account.name.length + space.length⟩ :=
  ofText_dress normal reads (Decimal.isNumeric_positional (-shown.exponent).toNat shown.coefficient)
    shown.negative some_space empty

end PostingText

/-! ## The line of a posting -/

/-- Whether a posting is what is read back of another one. -/
structure Posting.Rereads (registry : Registry) (posting reread : Posting) : Prop where
  account : reread.account = posting.account
  money : ∃ written shown, posting.money = some written ∧ written.Rereads registry shown ∧
    reread.money = some shown

/-- What is behind the indentation of the line of a posting; there is at least one
space. -/
def bodyOf (account : Account) (gap : Nat) (currency : Currency) (shown : Decimal) : Text :=
  account.name ++ List.replicate (gap + 1) ' ' ++ Money.textOf currency shown

theorem Posting.toLine_some {registry : Registry} {posting : Posting} {money : Money}
    (given : posting.money = some money) {column : Int} :
    posting.toLine registry column = (money.format registry).map fun amount =>
      indentation ++ posting.account.name ++
        List.replicate (max leastGap (column - (indentation ++ posting.account.name).length -
          amount.length)).toNat ' ' ++ amount := by
  rw [toLine, given]

/-- The line of a posting whose amount can be printed; there are at least two spaces between the
account and the amount. -/
theorem Posting.exists_toLine_of_format {registry : Registry} {posting : Posting} {money : Money}
    {text : Text} (given : posting.money = some money) (printed : money.format registry = .ok text)
    (column : Int) :
    ∃ gap, 2 ≤ gap ∧ posting.toLine registry column =
      .ok (indentation ++ (posting.account.name ++ List.replicate gap ' ' ++ text)) := by
  refine ⟨(max leastGap (column - (indentation ++ posting.account.name).length - text.length)).toNat, ?_, ?_⟩
  · have least : leastGap ≤ max leastGap (column - (indentation ++ posting.account.name).length -
        text.length) := le_max_left _ _
    unfold leastGap at least ⊢
    omega
  · rw [toLine_some given, printed, ← List.append_assoc, ← List.append_assoc]
    rfl

/-- The line of a posting with an amount on the grid of its currency. -/
theorem Posting.toLine_eq_ok {registry : Registry} {posting : Posting} {column : Int} {line : Text}
    (proper : registry.Proper) {money : Money} (given : posting.money = some money)
    (known : registry.has money.currency = true) (grid : money.OnCurrencyGrid registry)
    (ok : posting.toLine registry column = .ok line) :
    ∃ shown gap, money.Rereads registry shown ∧
      line = indentation ++ bodyOf posting.account gap (registry.currencyFor money.currency) shown.amount := by
  rcases Outcome.map_eq_ok.mp (Posting.toLine_some given ▸ ok) with ⟨text, format, -⟩
  rcases Option.isSome_iff_exists.mp known with ⟨currency, found⟩
  have precision := (proper.listed _ currency found).2.precision.1
  obtain ⟨shown, rereads, rfl⟩ := Money.exists_rereads (by rw [Registry.currencyFor, found]; exact precision)
    grid format
  rcases Posting.exists_toLine_of_format given format column with ⟨gap, wide, same⟩
  obtain ⟨more, rfl⟩ : ∃ more, gap = more + 1 := Nat.exists_eq_add_one.mpr (by omega)
  exact ⟨shown, more, rereads, Except.ok.inj (ok.symm.trans same)⟩

section Line

variable {account : Account} (normal : account.IsNormal) (gap : Nat) {currency : Currency}
  (shown : Decimal)
include normal

theorem not_mem_bodyOf (known : IsDesignator currency.designator) :
    ';' ∉ bodyOf account gap currency shown := by
  have no_mark : ';' ∉ List.replicate (gap + 1) ' ' := by
    intro member
    cases (List.mem_replicate.mp member).2
  rw [bodyOf, List.mem_append, List.mem_append, not_or, not_or]
  exact ⟨⟨normal.not_mem_commentMark, no_mark⟩, Money.not_mem_textOf known shown⟩

theorem isLine_bodyOf (known : IsDesignator currency.designator) :
    Text.IsLine (indentation ++ bodyOf account gap currency shown) :=
  (Text.isLine_replicate 4).append
    ((normal.isLine.append (Text.isLine_replicate _)).append (Money.isLine_textOf known shown))

/-- Without its indentation a line is what stands behind it. -/
theorem strip_line {space amount : Text} (trim : Text.IsTrim amount) (filled : amount ≠ []) :
    Text.strip (indentation ++ (account.name ++ space ++ amount)) = account.name ++ space ++ amount := by
  have together : Text.IsTrim (account.name ++ space ++ amount) :=
    normal.isTrim.append trim normal.ne_nil filled
  have strip := together.strip_spaces (by simp [filled]) isEmptySpace_indentation
    (fun _ member => (by cases member) : Text.IsEmptySpace [])
  rwa [List.append_nil] at strip

theorem strip_indented (reads : currency.style.Reads currency.designator) :
    Text.strip (indentation ++ bodyOf account gap currency shown) = bodyOf account gap currency shown :=
  strip_line normal (Money.isTrim_dress reads shown.negative (Decimal.positional_ne_nil _ _)
    (Decimal.isSolid_positional _ _)) (Money.textOf_ne_nil currency shown)

/-- The line of a posting is indented and has no comment. -/
theorem isIndented_bodyOf (known : IsDesignator currency.designator) :
    Line.IsIndented (indentation ++ bodyOf account gap currency shown)
      (indentation ++ bodyOf account gap currency shown) [] := by
  refine ⟨?_, ⟨' ', _, rfl, by decide⟩, ?_⟩
  · have absent : commentMark ∉ indentation ++ bodyOf account gap currency shown := by
      rw [List.mem_append, not_or]
      exact ⟨by decide, not_mem_bodyOf normal gap shown known⟩
    rw [Line.cutComment, Text.cutAt_of_not_mem absent]
    rfl
  · rcases List.exists_cons_of_ne_nil normal.ne_nil with ⟨c, rest, equal⟩
    rw [Text.isBlankText, List.all_eq_false]
    refine ⟨c, ?_, by simpa using normal.isTrim.1 c rest equal⟩
    rw [bodyOf, equal]
    simp

end Line
end Daybook
