import Daybook.Ledger.Printed
import Daybook.Proofs.Account
import Daybook.Proofs.Currency.Registry
import Daybook.Proofs.Money.Printed
import Daybook.Proofs.Text.Squeezed

namespace Daybook

/-!
# Printed lines are read back

The line of a currency is read as a declaration of that currency exactly when its
designator and its alias have the forms that an entry accepts; the upper case of a
code need not.  The line of a posting is always taken apart where it was put
together, whatever numbers and codes its account may hold, since an amount is
printed behind every account.
-/

open Unicode

theorem isEmptySpace_replicate (count : Nat) : Text.IsEmptySpace (List.replicate count ' ') := by
  intro c member
  rw [(List.mem_replicate.mp member).2]
  decide

theorem isEmptySpace_indentation : Text.IsEmptySpace indentation := isEmptySpace_replicate 4

/-! ## Entries -/

/-- Whether the designator and the alias of a currency have the forms that an entry
accepts; an alias made of digits is taken for the number of decimals. -/
structure Currency.Readable (currency : Currency) : Prop where
  designator : currency.isSymbol = true ∨ isCode currency.designator = true
  code : ∀ code, currency.code = some code → isCode code = true ∧ code.all isDigit = false

instance (currency : Currency) : Decidable currency.Readable :=
  decidable_of_iff
    ((currency.isSymbol = true ∨ isCode currency.designator = true) ∧
      ∀ code ∈ currency.code, isCode code = true ∧ code.all isDigit = false)
    ⟨fun readable => ⟨readable.1, fun code given => readable.2 code given⟩,
      fun readable => ⟨readable.designator, fun code given => readable.code code given⟩⟩

namespace Declaration

variable {designator : Text} {number offset : Nat} {draft : Draft} {word : Text}

theorem acceptWord_precision {precision : Nat} (small : precision < 10 ^ Text.digitLimit)
    (first : draft.precision = none) :
    acceptWord designator number draft (offset, Text.ofNat precision) =
      .ok { draft with precision := some precision } := by
  have digits : (Text.ofNat precision).all isDigit = true := List.all_eq_true.mpr fun c member =>
    Text.isDigit_of_plain (Text.isPlainDigits_ofNat precision c member)
  have filled : (Text.ofNat precision).isEmpty = false := by simpa using Text.ofNat_ne_nil precision
  unfold acceptWord
  dsimp only
  rw [digits, filled, first, if_pos (by rfl), Text.toInteger_ofNat small]

theorem acceptWord_after (symbol : isSymbol designator = true) (first : draft.style = none) :
    acceptWord designator number draft (offset, afterWord) = .ok { draft with style := some .after } := by
  have not_digits : afterWord.all isDigit = false := by decide
  unfold acceptWord
  dsimp only
  rw [not_digits, if_neg (by simp), if_pos ⟨rfl, symbol, by rw [first]; rfl⟩]

theorem acceptWord_code (symbol : isSymbol designator = true) (code : isCode word = true)
    (not_digits : word.all isDigit = false) (not_after : word ≠ afterWord) (first : draft.code = none) :
    acceptWord designator number draft (offset, word) = .ok { draft with code := some word } := by
  unfold acceptWord
  dsimp only
  rw [not_digits, if_neg (by simp), if_neg fun both => not_after both.1,
    if_pos ⟨code, symbol, by rw [first]; rfl⟩]

/-- An alias made of digits is no number of decimals, and another one that is no code
is nothing at all. -/
theorem acceptWord_unreadable (upper_code : IsUpperCode word) (not_after : word ≠ afterWord)
    (first : draft.precision = none)
    (bad : ¬ (isCode word = true ∧ word.all isDigit = false)) :
    ∃ failure, acceptWord designator number draft (offset, word) = .error failure := by
  have filled : word.isEmpty = false := by simpa using upper_code.ne_nil
  unfold acceptWord
  dsimp only
  cases digits : word.all isDigit with
  | true =>
      rw [filled, first, if_pos (by rfl)]
      cases word with
      | nil => cases filled
      | cons c rest =>
          rcases upper_code.plain c List.mem_cons_self with ⟨solid, decimal, -⟩
          have digit := List.all_eq_true.mp digits c List.mem_cons_self
          have other : ∀ mark, isDigit mark = false → c ≠ mark := by
            rintro mark figure rfl
            rw [digit] at figure
            cases figure
          obtain ⟨fault, failed⟩ := @Text.toInteger_of_head c rest
            (by rw [Text.isNumberBlank, solid, Bool.false_and])
            ⟨decimal, other '_' (by decide), other '-' (by decide), other '+' (by decide)⟩
          rw [failed]
          exact ⟨_, rfl⟩
  | false =>
      have not_code : ¬ isCode word = true := fun code => bad ⟨code, digits⟩
      rw [if_neg (by simp), if_neg fun both => not_after both.1, if_neg fun both => not_code both.1]
      exact ⟨_, rfl⟩

end Declaration

namespace Currency

variable {currency : Currency}

def codeWords (currency : Currency) : List Text := currency.code.toList

def precisionWords (currency : Currency) : List Text :=
  if currency.precision = defaultPrecision then [] else [Text.ofInt currency.precision]

def styleWords (currency : Currency) : List Text :=
  if currency.isSymbol && currency.style == .after then [afterWord] else []

/-- What precedes the name in the line of a currency. -/
def entryText (currency : Currency) : Text :=
  indentation ++ Text.join [' ']
    (currency.designator :: (currency.codeWords ++ currency.precisionWords ++ currency.styleWords))

theorem ofInt_precision (proper : currency.Proper) :
    ∃ precision : Nat, currency.precision = precision ∧ precision < 10 ^ Text.digitLimit ∧
      Text.ofInt currency.precision = Text.ofNat precision := by
  rcases proper.precision with ⟨positive, small⟩
  rcases Int.eq_ofNat_of_zero_le positive with ⟨precision, equal⟩
  refine ⟨precision, equal, by rwa [equal, Int.natAbs_natCast] at small, ?_⟩
  rw [equal]
  rfl

theorem entryLine_eq (proper : currency.Proper) :
    currency.entryLine = currency.entryText ++
      match currency.name with
      | some name => ' ' :: commentMark :: ' ' :: name
      | none => [] := by
  have code : (currency.code.filter (!·.isEmpty)).toList = currency.codeWords := by
    unfold codeWords
    cases given : currency.code with
    | none => rfl
    | some code =>
        have filled := (proper.code code given).2.ne_nil
        rw [Option.filter_some, if_pos (by simpa using filled)]
  unfold entryLine
  dsimp only
  rw [code]
  cases given : currency.name with
  | none => exact (List.append_nil _).symm
  | some name =>
      have filled := (proper.name name given).1
      rw [Option.filter_some, if_pos (by simpa using filled)]
      rfl

/-- The words of an entry are solid and hold no mark of a comment. -/
theorem entry_words (proper : currency.Proper) :
    ∀ word ∈ currency.designator ::
        (currency.codeWords ++ currency.precisionWords ++ currency.styleWords),
      word ≠ [] ∧ Text.IsSolid word ∧ ';' ∉ word := by
  have known := proper.suits.isDesignator
  rcases ofInt_precision proper with ⟨precision, -, -, digits⟩
  intro word member
  rw [List.mem_cons, List.mem_append, List.mem_append] at member
  rcases member with rfl | (code | precise) | style
  · exact ⟨known.ne_nil, known.isSolid, known.not_mem_commentMark⟩
  · rcases proper.code word (by simpa [codeWords] using code) with ⟨-, upper_code⟩
    exact ⟨upper_code.ne_nil, upper_code.isSolid, fun inside => (upper_code.plain _ inside).2.2 rfl⟩
  · unfold precisionWords at precise
    split at precise
    · cases precise
    · rw [List.mem_singleton.mp precise, digits]
      exact ⟨Text.ofNat_ne_nil _, (Text.isPlainDigits_ofNat _).isSolid,
        (Text.isPlainDigits_ofNat _).not_mem rfl⟩
  · unfold styleWords at style
    split at style
    · rw [List.mem_singleton.mp style]
      have solid : Text.IsSolid afterWord := by decide
      exact ⟨by decide, solid, by decide⟩
    · cases style

theorem not_mem_entryText (proper : currency.Proper) : ';' ∉ currency.entryText := by
  intro member
  rcases List.mem_append.mp member with space | inside
  · revert space
    decide
  · rcases Text.mem_join inside with space | ⟨word, among, letter⟩
    · exact absurd (List.mem_singleton.mp space) (by decide)
    · exact (entry_words proper word among).2.2 letter

theorem words_entryText (proper : currency.Proper) {space : Text} (empty : Text.IsEmptySpace space) :
    Text.words (currency.entryText ++ space) =
      currency.designator :: (currency.codeWords ++ currency.precisionWords ++ currency.styleWords) := by
  have each := fun word member => (⟨(entry_words proper word member).1, (entry_words proper word member).2.1⟩ :
    word ≠ [] ∧ Text.IsSolid word)
  rw [entryText, List.append_assoc, Text.words_space isEmptySpace_indentation]
  cases space with
  | nil => rw [List.append_nil, Text.words_join each]
  | cons c rest =>
      have nothing := Text.words_space (fun d member => empty d (List.mem_cons_of_mem _ member)) []
      rw [List.append_nil] at nothing
      rw [Text.words_append (empty c List.mem_cons_self), Text.words_join each, nothing]
      exact List.append_nil _

theorem isLine_entryLine (proper : currency.Proper) : Text.IsLine currency.entryLine := by
  have words : Text.IsLine currency.entryText :=
    (Text.isLine_replicate 4).append (Text.isLine_join (Text.isLine_replicate 1) fun word member =>
      (entry_words proper word member).2.1.isLine)
  rw [entryLine_eq proper]
  apply words.append
  cases given : currency.name with
  | none => exact Text.isLine_nil
  | some name =>
      exact (((proper.name name given).2.2.cons (by decide)).cons (by decide)).cons (by decide)

/-- The comment of the line of a currency is its name. -/
theorem cutComment_entryLine (proper : currency.Proper) :
    ∃ space comment, Text.IsEmptySpace space ∧
      Line.cutComment currency.entryLine = (currency.entryText ++ space, comment) ∧
        Declaration.nameOf comment = currency.name := by
  have no_mark := not_mem_entryText proper
  rw [entryLine_eq proper]
  cases given : currency.name with
  | none =>
      refine ⟨[], [], fun _ member => (by cases member), ?_, rfl⟩
      dsimp only
      rw [List.append_nil, Line.cutComment, commentMark, Text.cutAt_of_not_mem no_mark]
      rfl
  | some name =>
      rcases proper.name name given with ⟨filled, trim, -⟩
      refine ⟨[' '], ' ' :: name, Text.isEmptySpace_space, ?_, ?_⟩
      · have absent : commentMark ∉ currency.entryText ++ [' '] := by
          rw [List.mem_append, not_or]
          exact ⟨no_mark, by decide⟩
        have cut := Text.cutAt_append absent (' ' :: name)
        rw [List.append_assoc, List.singleton_append] at cut
        dsimp only
        rw [Line.cutComment, cut]
        rfl
      · have strip := trim.strip_spaces filled Text.isEmptySpace_space
          (fun _ member => (by cases member) : Text.IsEmptySpace [])
        rw [List.append_nil, List.singleton_append] at strip
        rw [Declaration.nameOf, strip]
        simp [filled]

end Currency

namespace Declaration

theorem exists_wordsAt {text first : Text} {rest : List Text} (read : Text.words text = first :: rest) :
    ∃ offset places, Text.wordsAt text = (offset, first) :: places ∧ places.map (·.2) = rest := by
  have words := Text.map_snd_wordsFrom 0 text
  rw [read] at words
  rcases List.map_eq_cons_iff.mp words with ⟨place, places, shape, equal, others⟩
  exact ⟨place.1, places, by rw [Text.wordsAt_eq, shape, ← equal], others⟩

theorem acceptWords_append (designator : Text) (number : Nat) (draft : Draft)
    (front back : List (Nat × Text)) :
    acceptWords designator number draft (front ++ back) =
      acceptWords designator number draft front >>= fun next =>
        acceptWords designator number next back := by
  induction front generalizing draft with
  | nil => rfl
  | cons place rest ih =>
      rw [List.cons_append, acceptWords, acceptWords, bind_assoc]
      exact congrArg _ (funext fun next => ih next)

section Words

variable {currency : Currency} {places : List (Nat × Text)} {number : Nat}

theorem code_of_acceptWord {designator code : Text} {number : Nat} {draft next : Draft} {place : Nat × Text}
    (ok : acceptWord designator number draft place = .ok next) (given : next.code = some code) :
    draft.code = some code ∨ place.2 = code := by
  unfold acceptWord at ok
  dsimp only at ok
  split at ok
  · split at ok
    · cases ok
      exact Or.inl given
    · cases ok
  · split at ok
    · cases ok
      exact Or.inl given
    · split at ok
      · cases ok
        exact Or.inr (Option.some.inj given)
      · cases ok

/-- Words are refused at one of them. -/
theorem exists_of_acceptWords {designator : Text} {number : Nat} {draft : Draft} {places : List (Nat × Text)}
    {failure : Failure}
    (failed : acceptWords designator number draft places = .error failure) :
    ∃ place ∈ places, ∃ before, acceptWord designator number before place = .error failure := by
  induction places generalizing draft with
  | nil => cases failed
  | cons place rest ih =>
      rcases Outcome.bind_eq_error.mp failed with refused | ⟨next, -, later⟩
      · exact ⟨place, List.mem_cons_self, draft, refused⟩
      · rcases ih later with ⟨other, among, before, refused⟩
        exact ⟨other, List.mem_cons_of_mem place among, before, refused⟩

/-- The alias of an entry is one of its words. -/
theorem code_of_acceptWords {designator code : Text} {number : Nat} {draft next : Draft}
    {places : List (Nat × Text)} (ok : acceptWords designator number draft places = .ok next)
    (given : next.code = some code) : draft.code = some code ∨ ∃ offset, (offset, code) ∈ places := by
  induction places generalizing draft with
  | nil =>
      rcases Except.ok.inj ok with rfl
      exact Or.inl given
  | cons place rest ih =>
      rcases Outcome.bind_eq_ok.mp ok with ⟨middle, accepted, later⟩
      rcases ih later with before | ⟨offset, among⟩
      · rcases code_of_acceptWord accepted before with before | rfl
        · exact Or.inl before
        · exact Or.inr ⟨place.1, List.mem_cons_self⟩
      · exact Or.inr ⟨offset, List.mem_cons_of_mem place among⟩

theorem acceptWords_code (readable : currency.Readable) (proper : currency.Proper)
    (words : places.map (·.2) = currency.codeWords) :
    acceptWords currency.designator number {} places = .ok { code := currency.code } := by
  unfold Currency.codeWords at words
  cases given : currency.code with
  | none =>
      rw [given] at words
      rw [List.map_eq_nil_iff.mp words]
      rfl
  | some code =>
      rw [given] at words
      rcases List.map_eq_cons_iff.mp words with ⟨⟨offset, word⟩, rest, rfl, same, none_left⟩
      obtain rfl : word = code := same
      rcases List.map_eq_nil_iff.mp none_left with rfl
      rcases proper.code word given with ⟨symbol, upper_code⟩
      rcases readable.code word given with ⟨letters, not_digits⟩
      have not_after : word ≠ afterWord := by
        rintro rfl
        exact absurd upper_code.upper_eq (by decide)
      rw [acceptWords, acceptWord_code symbol letters not_digits not_after rfl]
      rfl

theorem acceptWords_precision (proper : currency.Proper)
    (words : places.map (·.2) = currency.precisionWords) :
    ∃ precision, precision.getD Currency.defaultPrecision = currency.precision ∧
      acceptWords currency.designator number { code := currency.code } places =
        .ok { code := currency.code, precision } := by
  unfold Currency.precisionWords at words
  split at words
  · rename_i default_
    rw [List.map_eq_nil_iff.mp words]
    exact ⟨none, default_.symm, rfl⟩
  · rcases Currency.ofInt_precision proper with ⟨precision, equal, small, digits⟩
    rcases List.map_eq_cons_iff.mp words with ⟨⟨offset, word⟩, rest, rfl, same, none_left⟩
    obtain rfl : word = Text.ofInt currency.precision := same
    rcases List.map_eq_nil_iff.mp none_left with rfl
    refine ⟨some precision, equal.symm, ?_⟩
    rw [acceptWords, digits, acceptWord_precision small rfl]
    rfl

theorem acceptWords_style (proper : currency.Proper) {precision : Option Int}
    (words : places.map (·.2) = currency.styleWords) :
    ∃ style, style.getD (Currency.defaultStyle currency.designator) = currency.style ∧
      acceptWords currency.designator number { code := currency.code, precision } places =
        .ok { code := currency.code, precision, style } := by
  have suits := proper.suits
  unfold Currency.styleWords at words
  split at words
  · rename_i after
    rw [Bool.and_eq_true, beq_iff_eq] at after
    rcases List.map_eq_cons_iff.mp words with ⟨⟨offset, word⟩, rest, rfl, same, none_left⟩
    obtain rfl : word = afterWord := same
    rcases List.map_eq_nil_iff.mp none_left with rfl
    refine ⟨some .after, after.2.symm, ?_⟩
    rw [acceptWords, acceptWord_after after.1 rfl]
    rfl
  · rename_i other
    rw [List.map_eq_nil_iff.mp words]
    refine ⟨none, ?_, rfl⟩
    rw [Option.getD_none, Currency.defaultStyle]
    cases style : currency.style with
    | code =>
        rw [style] at suits
        rw [IsUpperCode.not_isSymbol suits, if_neg Bool.false_ne_true]
    | before =>
        rw [style] at suits
        rcases suits with ⟨c, equal, symbol⟩
        rw [equal, isSymbol_of_char symbol, if_pos rfl]
    | after =>
        rw [style] at suits
        rcases suits with ⟨c, equal, symbol⟩
        rw [Currency.isSymbol, equal, isSymbol_of_char symbol, style] at other
        exact absurd rfl other

end Words

/-- The line of a currency declares that currency. -/
theorem ofEntry_of_readable {currency : Currency} (proper : currency.Proper)
    (readable : currency.Readable) {space : Text} (empty : Text.IsEmptySpace space) (comment : Text)
    (number : Nat) (named : nameOf comment = currency.name) :
    ∃ declaration column,
      ofEntry (currency.entryText ++ space) comment number = .ok (declaration, column) ∧
        declaration.currency = currency := by
  rcases exists_wordsAt (Currency.words_entryText proper empty) with ⟨offset, places, shape, words⟩
  rw [List.append_assoc] at words
  rcases List.map_eq_append_iff.mp words with ⟨codes, behind, rfl, first, words⟩
  rcases List.map_eq_append_iff.mp words with ⟨precisions, styles, rfl, second, third⟩
  rcases @acceptWords_precision _ _ number proper second with ⟨precision, is_precision, accepted⟩
  rcases @acceptWords_style _ _ number proper precision third with ⟨style, is_style, accepted'⟩
  have draft : acceptWords currency.designator number {} (codes ++ (precisions ++ styles)) =
      .ok { code := currency.code, precision, style } := by
    rw [acceptWords_append, acceptWords_code readable proper first]
    change acceptWords _ _ _ _ = _
    rw [acceptWords_append, accepted]
    exact accepted'
  have known : (isSymbol currency.designator || isCode currency.designator) = true :=
    (Bool.or_eq_true _ _).mpr readable.designator
  let declaration : Declaration :=
    { designator := currency.designator
      code := currency.code
      precision := precision.getD Currency.defaultPrecision
      name := nameOf comment
      style }
  refine ⟨declaration, offset + 1, ?_, ?_⟩
  · unfold ofEntry
    rw [shape]
    dsimp only
    rw [if_pos known, draft]
    rfl
  · have same := proper.suits.isDesignator.normalDesignator_eq
    have code : currency.code.map upper = currency.code := by
      cases given : currency.code with
      | none => rfl
      | some code => exact congrArg some (proper.code code given).2.upper_eq
    simp only [declaration, Declaration.currency, same, code, is_precision, is_style, named]

/-- The line of a currency that is not readable declares nothing. -/
theorem ofEntry_of_unreadable {currency : Currency} (proper : currency.Proper)
    (unreadable : ¬ currency.Readable) {space : Text} (empty : Text.IsEmptySpace space)
    (comment : Text) (number : Nat) :
    ∃ failure, ofEntry (currency.entryText ++ space) comment number = .error failure := by
  rcases exists_wordsAt (Currency.words_entryText proper empty) with ⟨offset, places, shape, words⟩
  unfold ofEntry
  rw [shape]
  dsimp only
  split
  · rename_i known
    obtain ⟨code, given, bad⟩ : ∃ code, currency.code = some code ∧
        ¬ (isCode code = true ∧ code.all isDigit = false) := by
      by_contra fine
      refine unreadable ⟨(Bool.or_eq_true _ _).mp known, fun code given => ?_⟩
      by_contra bad
      exact fine ⟨code, given, bad⟩
    rcases proper.code code given with ⟨-, upper_code⟩
    have not_after : code ≠ afterWord := by
      rintro rfl
      exact absurd upper_code.upper_eq (by decide)
    rw [Currency.codeWords, given, Option.toList_some, List.append_assoc] at words
    rcases List.map_eq_cons_iff.mp words with ⟨⟨place, word⟩, rest, rfl, same, -⟩
    obtain rfl : word = code := same
    obtain ⟨failure, failed⟩ := @acceptWord_unreadable currency.designator number place {} word
      upper_code not_after rfl bad
    rw [acceptWords, failed]
    exact ⟨failure, rfl⟩
  · exact ⟨_, rfl⟩

/-! ## What entries declare -/

/-- What the words of an entry may have said. -/
structure Draft.Proper (designator : Text) (draft : Draft) : Prop where
  code : ∀ code, draft.code = some code →
    isSymbol designator = true ∧ isCode code = true ∧ Text.IsSolid code
  precision : ∀ precision, draft.precision = some precision →
    0 ≤ precision ∧ precision.natAbs < 10 ^ Text.digitLimit
  style : ∀ style, draft.style = some style → isSymbol designator = true ∧ style = .after

theorem Draft.proper_empty (designator : Text) : Draft.Proper designator {} :=
  ⟨by rintro code ⟨⟩, by rintro precision ⟨⟩, by rintro style ⟨⟩⟩

theorem Draft.Proper.acceptWord {designator word : Text} {number offset : Nat} {draft next : Draft}
    (proper : draft.Proper designator) (solid : Text.IsSolid word)
    (ok : acceptWord designator number draft (offset, word) = .ok next) : next.Proper designator := by
  unfold Declaration.acceptWord at ok
  dsimp only at ok
  split at ok
  · rename_i digits
    split at ok
    · rename_i precision read
      rcases Except.ok.inj ok with rfl
      refine ⟨proper.code, ?_, proper.style⟩
      rintro _ ⟨⟩
      refine ⟨Text.toInteger_nonneg ?_ read, Text.natAbs_lt_of_toInteger read⟩
      intro minus
      rw [Bool.and_eq_true, Bool.and_eq_true, List.all_eq_true] at digits
      exact absurd (digits.1.1 '-' minus) (by decide)
    · cases ok
  · split at ok
    · rename_i after
      rcases Except.ok.inj ok with rfl
      refine ⟨proper.code, proper.precision, ?_⟩
      rintro _ ⟨⟩
      exact ⟨after.2.1, rfl⟩
    · split at ok
      · rename_i code
        rcases Except.ok.inj ok with rfl
        refine ⟨?_, proper.precision, proper.style⟩
        rintro _ ⟨⟩
        exact ⟨code.2.1, code.1, solid⟩
      · cases ok

theorem Draft.Proper.acceptWords {designator : Text} {number : Nat} {draft next : Draft}
    {places : List (Nat × Text)} (proper : draft.Proper designator)
    (solid : ∀ place ∈ places, Text.IsSolid place.2)
    (ok : acceptWords designator number draft places = .ok next) : next.Proper designator := by
  induction places generalizing draft with
  | nil =>
      rcases Except.ok.inj ok with rfl
      exact proper
  | cons place rest ih =>
      rcases Outcome.bind_eq_ok.mp ok with ⟨middle, accepted, ok⟩
      exact ih (proper.acceptWord (solid place List.mem_cons_self) accepted)
        (fun other member => solid other (List.mem_cons_of_mem _ member)) ok

/-- The name in the comment of an entry can be printed again. -/
theorem nameOf_eq_some {comment name : Text} (line : Text.IsLine comment)
    (given : nameOf comment = some name) : name ≠ [] ∧ Text.IsTrim name ∧ Text.IsLine name := by
  unfold nameOf at given
  dsimp only at given
  split at given
  · cases given
  · rename_i filled
    rcases Option.some.inj given with rfl
    exact ⟨by simpa using filled, Text.isTrim_strip comment, fun c member => line c (Text.mem_strip member)⟩

/-- What the words of an entry say makes a proper currency. -/
theorem Draft.Proper.currency {designator : Text} {draft : Draft} {name : Option Text}
    (proper : draft.Proper designator) (solid : Text.IsSolid designator)
    (known : isSymbol designator = true ∨ isCode designator = true)
    (named : ∀ text, name = some text → text ≠ [] ∧ Text.IsTrim text ∧ Text.IsLine text) :
    (Declaration.currency
      { designator
        code := draft.code
        precision := draft.precision.getD Currency.defaultPrecision
        name
        style := draft.style }).Proper := by
  refine ⟨?_, ?_, ?_, named⟩
  · dsimp only [Declaration.currency]
    cases style : draft.style with
    | some style =>
        rcases proper.style _ style with ⟨symbol, rfl⟩
        exact normalDesignator_of_isSymbol solid symbol
    | none => exact Currency.defaultStyle_suits (isDesignator_normal solid known)
  · dsimp only [Declaration.currency]
    cases precision : draft.precision with
    | some precision => exact proper.precision _ precision
    | none => exact Currency.defaultPrecision_proper
  · intro code given
    rcases Option.map_eq_some_iff.mp given with ⟨letters, written, rfl⟩
    rcases proper.code letters written with ⟨symbol, is_code, code_solid⟩
    rcases normalDesignator_of_isSymbol solid symbol with ⟨c, equal, char⟩
    refine ⟨?_, IsUpperCode.ofLetters ((isCode_iff code_solid).mp is_code)⟩
    dsimp only [Declaration.currency]
    rw [equal]
    exact isSymbol_of_char char

/-- An entry declares a proper currency. -/
theorem proper_of_ofEntry {content comment : Text} {number column : Nat} {declaration : Declaration}
    (line : Text.IsLine comment)
    (ok : ofEntry content comment number = .ok (declaration, column)) : declaration.currency.Proper := by
  have solid : ∀ place ∈ Text.wordsAt content, Text.IsSolid place.2 :=
    fun place member => Text.isSolid_of_mem_wordsAt member
  unfold ofEntry at ok
  split at ok
  · cases ok
  · rename_i offset designator places shape
    rw [shape] at solid
    dsimp only at ok
    split at ok
    · rename_i known
      rcases Outcome.bind_eq_ok.mp ok with ⟨draft, accepted, ok⟩
      rcases Prod.mk.inj (Except.ok.inj ok) with ⟨rfl, -⟩
      have proper := (Draft.proper_empty designator).acceptWords
        (fun place member => solid place (List.mem_cons_of_mem _ member)) accepted
      exact proper.currency (solid _ List.mem_cons_self) ((Bool.or_eq_true _ _).mp known)
        fun name => nameOf_eq_some line
    · cases ok

end Declaration
end Daybook
