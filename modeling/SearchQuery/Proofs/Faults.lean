import SearchQuery.Proofs.OpenGroups
import SearchQuery.Query

/-!
# Where faults are reported

The error of a text that is no query shows the text from the position of the fault on.  For the
faults that have an offender in the text, the offender stands at that position.
-/

set_option autoImplicit false

namespace SearchQuery

/-- The quote at the position opens the literal of a term, at a place where a term may begin, and
nothing after it closes the literal. -/
def OpensUnclosedLiteral (text : List Char) (position : Nat) : Prop :=
  ∃ (front inner : List Char) (tokens : List PlacedToken) (name code : String),
    text = front ++ (termCharacters name code none ++ quoteMark :: inner) ∧
      position = front.length + (termCharacters name code none).length ∧
      scan front = .ok tokens ∧ TermSpelled name code none ∧
      ∀ content after, isLiteralContent content = true → inner ≠ content ++ quoteMark :: after

/-- What stands in the text at the position of a fault. -/
def ParseFault.StandsAt (limits : Limits) (text : List Char) (position : Nat) : ParseFault → Prop
  | .tooLong limit =>
      limit = limits.maxLength ∧ position = limits.maxLength ∧ limits.maxLength < text.length
  | .tooDeep limit =>
      limit = limits.maxDepth ∧ text[position]? = some '(' ∧
        ∃ before, Meets text before ⟨position, .opening⟩ ∧
          (openGroups before).length = limits.maxDepth
  | .unterminatedLiteral => text[position]? = some quoteMark ∧ OpensUnclosedLiteral text position
  | .invalidNameCharacter => text[position]? = some ',' ∨ text[position]? = some '\\'
  | .unbalancedOpen =>
      text[position]? = some '(' ∧
        ∃ tokens, scan text = .ok tokens ∧ (openGroups tokens).head? = some position
  | .unbalancedClose =>
      text[position]? = some ')' ∧
        ∃ before, Meets text before ⟨position, .closing⟩ ∧ openGroups before = []
  | .unknownJoin word | .unexpectedWord word =>
      word ≠ "" ∧ word.toList <+: text.drop position ∧
        ∃ before, Meets text before ⟨position, .word word⟩
  | .other _ => False
  -- The other faults have no single character to blame, or it is plain from their wording.
  | _ => True

/-- The fault is reported within the text, or at its end, and its offender stands there. -/
def ParseFault.PointsInto (limits : Limits) (text : List Char) (position : Nat)
    (fault : ParseFault) : Prop :=
  position ≤ text.length ∧ fault.StandsAt limits text position

/-! ## Faults of scanning -/

section

variable {limits : Limits} {front : List Char} {tokens : List PlacedToken}

theorem wordCharacter_not_in_name {c : Char} (inWord : isWordCharacter c = true)
    (refused : isNameCharacter c = false) : c = ',' ∨ c = '\\' := by
  have visible := isBlank_of_isWordCharacter inWord
  simp only [isWordCharacter, isNameCharacter, visible, wordDelimiters, reservedCharacters,
    quoteMark, Bool.not_false, Bool.true_and, Bool.not_eq_true', Bool.not_eq_false',
    List.contains_eq_mem, decide_eq_true_eq, decide_eq_false_iff_not, List.mem_cons,
    List.not_mem_nil, or_false, not_or] at inWord refused
  tauto

theorem invalidName_pointsInto {name rest : List Char} {offset : Nat} (isWord : IsWord name)
    (found : (name.findIdx? fun c => !isNameCharacter c) = some offset) :
    ParseFault.invalidNameCharacter.PointsInto limits (front ++ (name ++ '|' :: rest))
      (front.length + offset) := by
  obtain ⟨bound, refused, _⟩ := List.findIdx?_eq_some_iff_getElem.mp found
  have there : (front ++ (name ++ '|' :: rest))[front.length + offset]? = some name[offset] := by
    rw [List.getElem?_append_right (Nat.le_add_right _ _), Nat.add_sub_cancel_left,
      List.getElem?_append_left bound, List.getElem?_eq_getElem bound]
  have inWord := isWord.inside _ (List.getElem_mem bound)
  refine ⟨?_, ?_⟩
  · simp only [List.length_append]
    omega
  · simp only [ParseFault.StandsAt, there, Option.some.injEq]
    exact wordCharacter_not_in_name inWord (by simpa using refused)

theorem unterminated_pointsInto {name code : String} {inner : List Char}
    (scanned : scan front = .ok tokens) (spelled : TermSpelled name code none)
    (unread : readLiteral inner = none) :
    ParseFault.unterminatedLiteral.PointsInto limits
      (front ++ (termCharacters name code none ++ quoteMark :: inner))
      (front.length + (termCharacters name code none).length) := by
  refine ⟨?_, ?_, front, inner, tokens, name, code, rfl, rfl, scanned, spelled, ?_⟩
  · simp only [List.length_append]
    omega
  · rw [← List.append_assoc, ← List.length_append, List.getElem?_append_right (Nat.le_refl _),
      Nat.sub_self]
    rfl
  · rintro content after allowed rfl
    rw [readLiteral_append allowed] at unread
    cases unread

theorem readTerm_finish_pointsInto {name code after text : List Char} {width : Nat}
    {literal : Option String} {flaw : Flaw} (within : front.length + width ≤ text.length)
    (failed : readTerm.finish front.length name code width literal after = .error flaw) :
    flaw.fault.PointsInto limits text flaw.position := by
  rw [readTerm.finish] at failed
  split at failed
  · cases failed
  · cases failed
    exact ⟨within, trivial⟩

theorem readTerm_pointsInto {name rest : List Char} {flaw : Flaw}
    (scanned : scan front = .ok tokens) (isWord : IsWord name)
    (failed : readTerm front.length name rest = .error flaw) :
    flaw.fault.PointsInto limits (front ++ (name ++ '|' :: rest)) flaw.position := by
  have whole := List.takeWhile_append_dropWhile (p := Char.isAlphanum) (l := rest)
  have measured := congrArg List.length whole
  rw [List.length_append] at measured
  have total : (front ++ (name ++ '|' :: rest)).length =
      front.length + (name.length + 1 + rest.length) := by
    simp only [List.length_append, List.length_cons]
    omega
  unfold readTerm at failed
  split at failed
  next found =>
    cases failed
    exact invalidName_pointsInto isWord found
  next nameAllowed =>
    dsimp only at failed
    split at failed
    next =>
      cases failed
      refine ⟨?_, trivial⟩
      dsimp only
      omega
    next codePresent =>
      split at failed
      next body codeEnds =>
        rw [codeEnds, List.length_cons] at measured
        split at failed
        next inner =>
          rw [List.length_cons] at measured
          split at failed
          next unread =>
            cases failed
            have spelled : TermSpelled (String.ofList name)
                (String.ofList (rest.takeWhile Char.isAlphanum)) none :=
              termSpelled_of_characters isWord.nonempty (by simpa using nameAllowed)
                (by simpa using codePresent) (List.all_eq_true.mp List.all_takeWhile) (by simp)
            have pointed := @unterminated_pointsInto limits front tokens _ _ _ scanned spelled unread
            rw [length_termCharacters] at pointed
            have divided : termCharacters (String.ofList name)
                (String.ofList (rest.takeWhile Char.isAlphanum)) none ++ quoteMark :: inner =
                  name ++ '|' :: rest := by
              rw [codeEnds] at whole
              simp only [termCharacters, Phrase.literalCharacters, String.toList_ofList,
                List.append_assoc, List.cons_append, List.nil_append]
              exact congrArg (name ++ '|' :: ·) whole
            rw [divided] at pointed
            simpa [Phrase.literalCharacters] using pointed
          next content after found =>
            have literalWidth := readLiteral_length found
            apply readTerm_finish_pointsInto _ failed
            omega
        next =>
          apply readTerm_finish_pointsInto _ failed
          omega
      next =>
        cases failed
        refine ⟨?_, trivial⟩
        dsimp only
        omega

theorem afterWord_pointsInto {word after : List Char} {flaw : Flaw}
    (scanned : scan front = .ok tokens) (isWord : IsWord word)
    (failed : afterWord front.length word after = .error flaw) :
    flaw.fault.PointsInto limits (front ++ (word ++ after)) flaw.position := by
  unfold afterWord at failed
  split at failed
  · exact readTerm_pointsInto scanned isWord failed
  · cases failed
    refine ⟨?_, trivial⟩
    simp only [List.length_append]
    omega
  · cases failed

theorem readLexeme_pointsInto {c : Char} {rest : List Char} {flaw : Flaw}
    (scanned : scan front = .ok tokens) (notBlank : Text.isBlank c = false)
    (failed : readLexeme front.length c rest = .error flaw) :
    flaw.fault.PointsInto limits (front ++ c :: rest) flaw.position := by
  by_cases inside : isWordCharacter c = true
  · obtain ⟨word, after, divided, isWord, _, read⟩ := exists_word_of_readLexeme inside
    rw [read] at failed
    rw [divided]
    exact afterWord_pointsInto scanned isWord failed
  · have delimiter := (isWordCharacter_eq_false_iff c).mp (by simpa using inside)
    rw [notBlank] at delimiter
    simp only [Bool.false_eq_true, false_or, wordDelimiters, List.mem_cons, List.not_mem_nil,
      or_false] at delimiter
    rcases delimiter with rfl | rfl | rfl | rfl | rfl | rfl
    · cases failed
    · cases failed
    · cases failed
      exact ⟨by simp, trivial⟩
    · cases failed
      exact ⟨by simp, trivial⟩
    · cases failed
    · cases failed
      exact ⟨by simp, trivial⟩

end

theorem Token.endsBefore_nil (token : Token) : token.EndsBefore [] := by
  cases token <;> simp [EndsBefore, EndsWord]

theorem Token.EndsBefore.with_rest {token : Token} {c : Char} {rest : List Char}
    (ends : token.EndsBefore (c :: rest)) (other : List Char) : token.EndsBefore (c :: other) := by
  cases token <;> exact ends

/-- Scanning stops at a character that is no blank, where no token can be read; all before that
character is scanned. -/
theorem scanFrom_eq_error {position : Nat} {text : List Char} {flaw : Flaw}
    (failed : scanFrom position text = .error flaw) :
    ∃ front c rest tokens, text = front ++ c :: rest ∧ Text.isBlank c = false ∧
      scanFrom position front = .ok tokens ∧
      readLexeme (position + front.length) c rest = .error flaw := by
  fun_induction scanFrom position text generalizing flaw with
  | case1 => cases failed
  | case2 position c rest blank inductionHypothesis =>
      obtain ⟨front, d, others, tokens, rfl, notBlank, scanned, unreadable⟩ :=
        inductionHypothesis failed
      refine ⟨c :: front, d, others, tokens, rfl, notBlank, ?_, ?_⟩
      · rw [scanFrom_blank position front blank, scanned]
      · rw [List.length_cons, Nat.add_comm front.length, ← Nat.add_assoc]
        exact unreadable
  | case3 position c rest visible early unreadable =>
      cases failed
      have nothing : scanFrom position [] = .ok [] := by rw [scanFrom.eq_def]
      exact ⟨[], c, rest, [], rfl, by simpa using visible, nothing, unreadable⟩
  | case4 position c rest visible lexeme readable early restFailed inductionHypothesis =>
      cases failed
      obtain ⟨front, d, others, tokens, divided, notBlank, scanned, unreadable⟩ :=
        inductionHypothesis restFailed
      obtain ⟨⟨spelling, covered, measured, spells⟩, follows⟩ :=
        readLexeme_covers (by simpa using visible) readable
      have ends : lexeme.token.EndsBefore front := by
        cases front with
        | nil => exact lexeme.token.endsBefore_nil
        | cons first more =>
            rw [divided] at follows
            rcases follows with ends | quoted
            · exact ends.with_rest more
            · cases quoted
              rw [scanFrom_quote] at scanned
              cases scanned
      refine ⟨spelling ++ front, d, others, ⟨position, lexeme.token⟩ :: tokens, ?_, notBlank, ?_, ?_⟩
      · rw [covered, divided, List.append_assoc]
      · rw [scanFrom_spells spells ends, measured, scanned]
        rfl
      · rw [List.length_append, measured, ← Nat.add_assoc]
        exact unreadable
  | case5 => cases failed

theorem scan_pointsInto {limits : Limits} {text : List Char} {flaw : Flaw}
    (failed : scan text = .error flaw) : flaw.fault.PointsInto limits text flaw.position := by
  obtain ⟨front, c, rest, tokens, rfl, notBlank, scanned, unreadable⟩ := scanFrom_eq_error failed
  rw [Nat.zero_add] at unreadable
  exact readLexeme_pointsInto scanned notBlank unreadable

/-! ## Faults of assembling -/

section

variable {limits : Limits} {text : List Char}

theorem Frame.Tracks.opened_eq_nil {maxDepth : Nat} {stack : List Frame} {opened : List Nat}
    (tracks : Tracks maxDepth stack opened)
    (outside : stack.head?.bind Frame.opening = none ∨ stack.length = 1) : opened = [] := by
  have height := tracks.length_eq
  rcases outside with unopened | single
  · cases stack with
    | nil =>
        rw [List.length_nil] at height
        omega
    | cons frame below =>
        have top := tracks.head?_eq
        rw [show frame.opening = none from unopened] at top
        exact List.head?_eq_none_iff.mp top
  · exact List.length_eq_zero_iff.mp (by omega)

theorem word_stands {tokens : List PlacedToken} {position : Nat} {word : String}
    (scanned : scan text = .ok tokens) (member : ⟨position, .word word⟩ ∈ tokens) :
    word ≠ "" ∧ word.toList <+: text.drop position := by
  obtain ⟨spelling, spells, there⟩ := exists_spelling_of_scan scanned member
  cases spells with
  | word isWord plain =>
      refine ⟨?_, ?_⟩
      · rw [ne_eq, String.ofList_eq_empty_iff]
        exact isWord.nonempty
      · rw [String.toList_ofList]
        exact there

theorem closing_stands {tokens : List PlacedToken} {position : Nat}
    (scanned : scan text = .ok tokens) (member : ⟨position, .closing⟩ ∈ tokens) :
    text[position]? = some ')' := by
  obtain ⟨spelling, spells, there⟩ := exists_spelling_of_scan scanned member
  rw [getElem?_of_spells spells there]
  cases spells
  rfl

theorem position_lt_of_scan {tokens : List PlacedToken} {placed : PlacedToken}
    (scanned : scan text = .ok tokens) (member : placed ∈ tokens) :
    placed.position < text.length := by
  obtain ⟨spelling, spells, there⟩ := exists_spelling_of_scan scanned member
  have visible := spells.length_pos
  have bound := there.length_le
  rw [List.length_drop] at bound
  omega

theorem refused_pointsInto {before after : List PlacedToken} {refused : PlacedToken}
    {reached : List Frame} {fault : ParseFault}
    (scanned : scan text = .ok (before ++ refused :: after))
    (tracks : Frame.Tracks limits.maxDepth reached (openGroups before))
    (refuses : Frame.Refuses limits.maxDepth reached refused.token fault) :
    fault.PointsInto limits text refused.position := by
  have member : refused ∈ before ++ refused :: after :=
    List.mem_append_right before List.mem_cons_self
  refine ⟨Nat.le_of_lt (position_lt_of_scan scanned member), ?_⟩
  obtain ⟨position, token⟩ := refused
  cases fault with
  | tooDeep limit =>
      obtain ⟨rfl, rfl, deep⟩ := refuses
      have height := tracks.length_eq
      have room := tracks.room
      refine ⟨rfl, opening_stands scanned member, before, ⟨after, scanned⟩, ?_⟩
      omega
  | unbalancedClose =>
      obtain ⟨rfl, outside⟩ := refuses
      exact ⟨closing_stands scanned member, before, ⟨after, scanned⟩, tracks.opened_eq_nil outside⟩
  | unknownJoin word =>
      cases refuses
      obtain ⟨nonempty, there⟩ := word_stands scanned member
      exact ⟨nonempty, there, before, after, scanned⟩
  | unexpectedWord word =>
      cases refuses
      obtain ⟨nonempty, there⟩ := word_stands scanned member
      exact ⟨nonempty, there, before, after, scanned⟩
  | tooLong | unterminatedLiteral | invalidNameCharacter | unbalancedOpen | other =>
      exact refuses.elim
  | _ => trivial

theorem frame_finish_pointsInto {tokens : List PlacedToken} {final : List Frame} {error : SearchError}
    (scanned : scan text = .ok tokens)
    (tracks : Frame.Tracks limits.maxDepth final (openGroups tokens))
    (failed : Frame.finish text final = .error error) :
    ∃ position fault, error = .located text position fault ∧
      fault.PointsInto limits text position := by
  cases final with
  | nil =>
      have height := tracks.length_eq
      rw [List.length_nil] at height
      omega
  | cons frame below =>
      rw [Frame.finish] at failed
      split at failed
      next position isOpen =>
        cases failed
        have innermost := tracks.head?_eq
        rw [isOpen] at innermost
        have member := mem_of_mem_openGroups (List.mem_of_mem_head? innermost)
        exact ⟨position, _, rfl, Nat.le_of_lt (position_lt_of_scan scanned member),
          opening_stands scanned member, tokens, scanned, innermost⟩
      next =>
        split at failed
        · cases failed
          exact ⟨_, _, rfl, Nat.le_refl _, trivial⟩
        · split at failed
          · cases failed
            exact ⟨_, _, rfl, Nat.zero_le _, trivial⟩
          · cases failed

end

/-! ## Errors of terms are about predicates -/

/-- There is no error about the text. -/
def NotOfText {α : Type} (result : Except SearchError α) : Prop :=
  ∀ position fragment fault, result ≠ .error (.parse position fragment fault)

theorem notOfText_ok {α : Type} (value : α) : NotOfText (.ok value) := by
  intro position fragment fault failed
  cases failed

theorem NotOfText.bind {α β : Type} {first : Except SearchError α}
    {next : α → Except SearchError β} (firstFree : NotOfText first)
    (nextFree : ∀ value, NotOfText (next value)) : NotOfText (first >>= next) := by
  cases first with
  | error error =>
      intro position fragment fault failed
      cases failed
      exact firstFree position fragment fault rfl
  | ok value => exact nextFree value

theorem NotOfText.map {α β : Type} {result : Except SearchError α} (free : NotOfText result)
    (f : α → β) : NotOfText (result.map f) := by
  cases result with
  | error error =>
      intro position fragment fault failed
      cases failed
      exact free position fragment fault rfl
  | ok value => exact notOfText_ok (f value)

namespace Predicate

theorem notOfText_checkName (name : String) : NotOfText (checkName name) := by
  intro position fragment fault failed
  unfold checkName at failed
  split at failed
  · cases failed
  · split at failed <;> cases failed

theorem notOfText_checkArity (name : String) (operator : Operator) (given : Arity) :
    NotOfText (checkArity name operator given) := by
  intro position fragment fault failed
  unfold checkArity at failed
  split at failed <;> cases failed

theorem notOfText_checkValue (name value : String) : NotOfText (checkValue name value) := by
  intro position fragment fault failed
  unfold checkValue at failed
  split at failed <;> cases failed

theorem notOfText_forM_checkValue (name : String) (values : List String) :
    NotOfText (values.forM (checkValue name)) := by
  induction values with
  | nil => exact notOfText_ok ()
  | cons value rest inductionHypothesis =>
      exact (notOfText_checkValue name value).bind fun _ => inductionHypothesis

theorem notOfText_multiple? (name : String) (operator : Operator) (values : List String) :
    NotOfText (multiple? name operator values) := by
  refine (notOfText_checkName name).bind fun _ => (notOfText_checkArity _ _ _).bind fun _ => ?_
  by_cases noValues : values.isEmpty = true
  · rw [if_pos noValues]
    intro position fragment fault failed
    cases failed
  · rw [if_neg noValues]
    exact (notOfText_forM_checkValue name values).bind fun _ => notOfText_ok _

theorem notOfText_ofTerm (name code : String) (literal : Option String) :
    NotOfText (ofTerm name code literal) := by
  unfold ofTerm
  split
  · intro position fragment fault failed
    cases failed
  · split
    · exact (notOfText_checkName name).bind fun _ =>
        (notOfText_checkArity _ _ _).bind fun _ => notOfText_ok _
    · intro position fragment fault failed
      cases failed
    · exact (notOfText_checkName name).bind fun _ => (notOfText_checkArity _ _ _).bind fun _ =>
        (notOfText_checkValue _ _).bind fun _ => notOfText_ok _
    · split
      · exact notOfText_multiple? name _ _
      · exact notOfText_multiple? name _ _
    · intro position fragment fault failed
      cases failed

end Predicate

/-! ## Errors of a text -/

theorem pointsInto_of_assemble {limits : Limits} {text : List Char} {tokens : List PlacedToken}
    {position : Nat} {fragment : String} {fault : ParseFault} (scanned : scan text = .ok tokens)
    (failed : assemble text limits.maxDepth tokens = .error (.parse position fragment fault)) :
    ∃ place cause, SearchError.parse position fragment fault = .located text place cause ∧
      cause.PointsInto limits text place := by
  rcases assemble_eq_error failed with
    ⟨before, refused, after, reached, rfl, tracks, refusal⟩ | ⟨final, tracks, unfinished⟩
  · have nonempty : reached ≠ [] := List.ne_nil_of_length_eq_add_one tracks.length_eq
    rcases Frame.refuses_of_advance nonempty refusal with
      ⟨cause, located, refuses⟩ | ⟨name, code, literal, unbuilt⟩
    · exact ⟨refused.position, cause, located, refused_pointsInto scanned tracks refuses⟩
    · exact absurd unbuilt (Predicate.notOfText_ofTerm name code literal position fragment fault)
  · exact frame_finish_pointsInto scanned tracks unfinished

namespace Search

theorem pointsInto_of_parse {limits : Limits} {text : String} {position : Nat} {fragment : String}
    {fault : ParseFault} (failed : parse limits text = .error (.parse position fragment fault)) :
    fragment = String.ofList ((text.toList.drop position).take SearchError.fragmentLength) ∧
      fault.PointsInto limits text.toList position := by
  have reported : ∃ place cause, SearchError.parse position fragment fault =
      .located text.toList place cause ∧ cause.PointsInto limits text.toList place := by
    rw [parse, parseCharacters] at failed
    split at failed
    next long =>
      cases failed
      exact ⟨_, _, rfl, Nat.le_of_lt long, rfl, rfl, long⟩
    next =>
      split at failed
      · cases failed
      · split at failed
        next flaw unscanned =>
          cases failed
          exact ⟨_, _, rfl, scan_pointsInto unscanned⟩
        next tokens scanned =>
          cases assembled : assemble text.toList limits.maxDepth tokens with
          | ok predicate =>
              rw [assembled] at failed
              cases failed
          | error error =>
              rw [assembled] at failed
              cases failed
              exact pointsInto_of_assemble scanned assembled
  obtain ⟨place, cause, same, pointed⟩ := reported
  cases same
  exact ⟨rfl, pointed⟩

/-- The error of a text that is no query shows the text from a position within it, or at its end, and
the offender of the fault stands there. -/
theorem parse_error_points_into_text {limits : Limits} {text : String} {position : Nat}
    {fragment : String} {fault : ParseFault}
    (failed : parse limits text = .error (.parse position fragment fault)) :
    position ≤ text.length ∧ fragment.toList = (text.toList.drop position).take 16 ∧
      (fragment = "" ↔ position = text.length) ∧ fault.StandsAt limits text.toList position := by
  obtain ⟨shown, within, stands⟩ := pointsInto_of_parse failed
  rw [String.length_toList] at within
  have characters : fragment.toList = (text.toList.drop position).take 16 := by
    rw [shown, String.toList_ofList]
    rfl
  refine ⟨within, characters, ?_, stands⟩
  rw [← String.toList_eq_nil_iff, characters, List.take_eq_nil_iff, List.drop_eq_nil_iff,
    String.length_toList]
  omega

/-- A group and a literal that are never closed, behind letters of several bytes. -/
theorem parse_error_points_into_text_unclosed :
    (parse {} "(ß|eq:\"ü\" AND (b|nn: OR !c|nn:)" =
        .error (.parse 0 "(ß|eq:\"ü\" AND (b" .unbalancedOpen) ∧
      ParseFault.unbalancedOpen.StandsAt {} "(ß|eq:\"ü\" AND (b|nn: OR !c|nn:)".toList 0) ∧
    (parse {} "(ß|eq:\"ü\" AND b|eq:\"\\\")" =
        .error (.parse 19 "\"\\\")" .unterminatedLiteral) ∧
      ParseFault.unterminatedLiteral.StandsAt {} "(ß|eq:\"ü\" AND b|eq:\"\\\")".toList 19) := by
  have group : parse {} "(ß|eq:\"ü\" AND (b|nn: OR !c|nn:)" =
      .error (.parse 0 "(ß|eq:\"ü\" AND (b" .unbalancedOpen) := by
    decide +kernel
  have literal : parse {} "(ß|eq:\"ü\" AND b|eq:\"\\\")" =
      .error (.parse 19 "\"\\\")" .unterminatedLiteral) := by
    decide +kernel
  obtain ⟨_, _, _, groupStands⟩ := parse_error_points_into_text group
  obtain ⟨_, _, _, literalStands⟩ := parse_error_points_into_text literal
  exact ⟨⟨group, groupStands⟩, ⟨literal, literalStands⟩⟩

end Search

end SearchQuery
