import SqlCsvServer.Engine.Adapter
import SqlCsvServer.Execution.IndexRun
import SqlCsvServer.Foundation.Decimal
import SqlCsvServer.Foundation.Within
import SqlCsvServer.Sql.ParserLanguage

/-!
# The error code of a statement that does not parse

The code is looked up in the message, and the message quotes the token at which the
parser stopped.  A literal can quote what the code is looked up by.
-/

namespace SqlCsvServer
namespace Engine

open Foundation Common Storage Index Sql Execution

/-!
## What the code says
-/

/-- A statement the server does not support, rather than a wrong one. -/
inductive Unsupported : List Token -> Prop where
  | keyword {first : Token} {rest : List Token}
      (hinsert : ¬ IsKeyword "INSERT" first) (hselect : ¬ IsKeyword "SELECT" first) :
      Unsupported (first :: rest)
  | connector {statement : SelectStatement} {front rest : List Token}
      {connector : Token} (hstatement : StatementTokens (.selectStatement statement) front)
      (hcondition : statement.condition ≠ none)
      (hconnector : IsKeyword "AND" connector ∨ IsKeyword "OR" connector) :
      Unsupported (front ++ connector :: rest)

/-- The code is `UNSUPPORTED_SQL` for these statements and no others. -/
def ClassifiedRight (code : SqlEngineErrorCode) (tokens : List Token) : Prop :=
  (Unsupported tokens -> code = .unsupportedSql) ∧
    (¬ Unsupported tokens -> code = .sqlParseError)

def unsupportedPhrases : List Bytes :=
  [ascii "only INSERT and SELECT are supported",
    ascii "AND/OR conditions are not supported"]

/-- The bytes of a literal that `describe_token` has room for. -/
def describedLength : Nat := 119

def Imitates (token : Token) : Prop :=
  token.type = .string ∧
    exists phrase, phrase ∈ unsupportedPhrases ∧
      phrase <:+: token.text.take describedLength

theorem parseErrorCode_eq (text : Bytes) :
    ((exists phrase, phrase ∈ unsupportedPhrases ∧ phrase <:+: text) ->
        parseErrorCode text = .unsupportedSql) ∧
      ((¬ exists phrase, phrase ∈ unsupportedPhrases ∧ phrase <:+: text) ->
        parseErrorCode text = .sqlParseError) := by
  have hphrases : (exists phrase, phrase ∈ unsupportedPhrases ∧ phrase <:+: text) <->
      strstr text (ascii "only INSERT and SELECT are supported") = true ∨
        strstr text (ascii "AND/OR conditions are not supported") = true := by
    simp [unsupportedPhrases, strstr_iff]
  rw [hphrases]
  unfold parseErrorCode
  constructor
  · exact fun h => if_pos h
  · exact fun h => if_neg h

/-!
## The message about a token
-/

def leadingText (expected : Bytes) : Bytes :=
  if (ascii "expected ").isPrefixOf expected ∨
      (ascii "unexpected ").isPrefixOf expected then
    expected
  else ascii "expected " ++ expected

theorem expectedTokenError_eq {expected : Bytes} (h : expected ∈ expectedTexts)
    (bad : Token) :
    expectedTokenError expected [bad] =
      leadingText expected ++ ascii ", got " ++ describeToken bad := by
  have hlengths : expectedTexts.all
      (fun expected => decide ((leadingText expected).length ≤ 100)) = true := by
    decide
  have hleading := of_decide_eq_true (List.all_eq_true.mp hlengths expected h)
  have hdescribed : (describeToken bad).length ≤ 127 := by
    unfold describeToken snprintf
    simp only
    split
    · rw [List.length_take]
      exact Nat.min_le_left _ _
    · split
      · rw [List.length_take]
        exact Nat.min_le_left _ _
      · rw [List.length_take]
        exact Nat.min_le_left _ _
  have hgot : (ascii ", got ").length = 6 := rfl
  have herror : expectedTokenError expected [bad] =
      message (leadingText expected ++ ascii ", got " ++ describeToken bad) := by
    unfold expectedTokenError leadingText
    simp only [currentToken_cons]
    split
    · rfl
    · rfl
  rw [herror]
  unfold message snprintf
  apply List.take_of_length_le
  rw [List.length_append, List.length_append, hgot]
  change _ ≤ 255
  omega

theorem tokenTypeName_length (type : TokenType) : (tokenTypeName type).length ≤ 10 := by
  cases type <;> decide

theorem describeToken_text {token : Token} (hend : token.type ≠ .end)
    (htext : token.text ≠ []) :
    describeToken token =
      (tokenTypeName token.type ++ ascii "(") ++ Byte.doubleQuote ::
        (token.text ++ Byte.doubleQuote ::
          (ascii ") at position " ++ decimalNat token.position)).take
          (125 - (tokenTypeName token.type).length) := by
  have hlength := tokenTypeName_length token.type
  have hname : (tokenTypeName token.type ++ ascii "(").length =
      (tokenTypeName token.type).length + 1 := by
    rw [List.length_append]
    rfl
  have hroom : 127 - ((tokenTypeName token.type).length + 1) =
      (125 - (tokenTypeName token.type).length) + 1 := by
    omega
  have hwhole : tokenTypeName token.type ++ ascii "(\"" ++ token.text ++ ascii "\")" ++
      (ascii " at position " ++ decimalNat token.position) =
      (tokenTypeName token.type ++ ascii "(") ++ Byte.doubleQuote ::
        (token.text ++ Byte.doubleQuote ::
          (ascii ") at position " ++ decimalNat token.position)) := by
    have hopen : ascii "(\"" = ascii "(" ++ [Byte.doubleQuote] := by decide
    have hclose : ascii "\")" ++ ascii " at position " =
        Byte.doubleQuote :: ascii ") at position " := by
      decide
    rw [hopen]
    simp only [List.append_assoc, List.cons_append, List.nil_append]
    rw [← List.append_assoc (ascii "\")"), hclose, List.cons_append]
  unfold describeToken snprintf
  simp only [hend, htext, ne_eq, not_false_eq_true, if_true, if_false]
  rw [hwhole, List.take_append, hname, List.take_of_length_le (by omega), hroom,
    List.take_succ_cons]

theorem describeToken_empty {token : Token} (hempty : token.text = []) :
    exists digits, describeToken token =
        (tokenTypeName token.type ++ ascii " at position ") ++ digits ∧
      forall d, d ∈ digits -> isDigit d = true := by
  have hlength := tokenTypeName_length token.type
  have hplace : (tokenTypeName token.type ++ ascii " at position ").length ≤ 127 := by
    rw [List.length_append, show (ascii " at position ").length = 13 from rfl]
    omega
  have hdescribed : describeToken token =
      (tokenTypeName token.type ++ (ascii " at position " ++
        decimalNat token.position)).take 127 := by
    unfold describeToken snprintf
    by_cases hend : token.type = .end
    · simp only [hend, if_true]
      rfl
    · simp only [hend, hempty, ne_eq, not_true_eq_false, if_false]
  rw [hdescribed, ← List.append_assoc, List.take_append,
    List.take_of_length_le hplace]
  refine ⟨_, rfl, ?_⟩
  intro d hd
  exact decimalNat_digits _ d ((List.take_prefix _ _).subset hd)

/-!
## Looking a phrase up
-/

structure IsPhrase (phrase : Bytes) : Prop where
  quoteFree : Byte.doubleQuote ∉ phrase
  commaFree : Byte.comma ∉ phrase
  letter : 0x4E ∈ phrase
  blank : Byte.space ∈ phrase
  digitFree : forall d, isDigit d = true -> d ∉ phrase
  notLeading : forall expected, expected ∈ expectedTexts ->
    ¬ phrase <:+: leadingText expected
  notName : forall type,
    ¬ phrase <:+: ascii " got " ++ (tokenTypeName type ++ ascii "(")
  notPlace : forall type,
    ¬ phrase <:+: ascii " got " ++ (tokenTypeName type ++ ascii " at position ")

theorem isPhrase {phrase : Bytes} (h : phrase ∈ unsupportedPhrases) :
    IsPhrase phrase := by
  have hchecked : forall phrase, phrase ∈ unsupportedPhrases ->
      (Byte.doubleQuote ∉ phrase ∧ Byte.comma ∉ phrase ∧ (0x4E : Byte) ∈ phrase ∧
        Byte.space ∈ phrase ∧ phrase.all (fun b => !isDigit b) = true ∧
        expectedTexts.all (fun expected => !strstr (leadingText expected) phrase) =
          true) := by
    unfold unsupportedPhrases
    intro phrase hphrase
    rcases List.mem_cons.mp hphrase with rfl | hphrase
    · decide
    · rw [List.mem_singleton.mp hphrase]
      decide
  have hnames : forall phrase, phrase ∈ unsupportedPhrases -> forall type,
      strstr (ascii " got " ++ (tokenTypeName type ++ ascii "(")) phrase = false ∧
        strstr (ascii " got " ++ (tokenTypeName type ++ ascii " at position ")) phrase =
          false := by
    unfold unsupportedPhrases
    intro phrase hphrase type
    rcases List.mem_cons.mp hphrase with rfl | hphrase
    · cases type <;> decide
    · rw [List.mem_singleton.mp hphrase]
      cases type <;> decide
  rcases hchecked phrase h with ⟨hquote, hcomma, hletter, hblank, hdigits, hleading⟩
  refine ⟨hquote, hcomma, hletter, hblank, ?_, ?_, ?_, ?_⟩
  · intro d hd hmem
    have hnot := List.all_eq_true.mp hdigits d hmem
    rw [hd] at hnot
    cases hnot
  · intro expected hexpected hwithin
    have hnot := List.all_eq_true.mp hleading expected hexpected
    rw [strstr_iff.mpr hwithin] at hnot
    cases hnot
  · intro type hwithin
    have hnot := (hnames phrase h type).1
    rw [strstr_iff.mpr hwithin] at hnot
    cases hnot
  · intro type hwithin
    have hnot := (hnames phrase h type).2
    rw [strstr_iff.mpr hwithin] at hnot
    cases hnot

theorem within_quoted {phrase : Bytes} (h : IsPhrase phrase) (text : Bytes)
    (position room : Nat) :
    phrase <:+: (text ++ Byte.doubleQuote ::
        (ascii ") at position " ++ decimalNat position)).take room <->
      phrase <:+: text.take room := by
  rw [List.take_append]
  cases room - text.length with
  | zero => rw [List.take_zero, List.append_nil]
  | succ left =>
      rw [List.take_succ_cons, within_append_cons h.quoteFree]
      constructor
      · rintro (hwithin | hbehind)
        · exact hwithin
        · exfalso
          have hmem := (List.take_prefix _ _).subset (hbehind.subset h.letter)
          rcases List.mem_append.mp hmem with hplace | hdigit
          · exact absurd hplace (by decide)
          · exact absurd (decimalNat_digits _ _ hdigit) (by decide)
      · exact .inl

theorem phrase_in_message {phrase expected : Bytes} (h : IsPhrase phrase)
    (hexpected : expected ∈ expectedTexts) {bad : Token}
    (hlexed : LexedToken bad ∨ exists index, bad = endToken index) :
    phrase <:+: expectedTokenError expected [bad] <->
      bad.type = .string ∧ phrase <:+: bad.text.take describedLength := by
  have hgot : ascii ", got " = Byte.comma :: ascii " got " := by decide
  have hne : phrase ≠ [] := List.ne_nil_of_mem h.blank
  rw [expectedTokenError_eq hexpected, hgot, List.append_assoc, List.cons_append,
    within_append_cons h.commaFree]
  simp only [h.notLeading expected hexpected, false_or]
  by_cases hempty : bad.text = []
  · rcases describeToken_empty hempty with ⟨digits, hdescribed, hdigits⟩
    rw [hdescribed, ← List.append_assoc, within_append_disjoint hne
      fun d hd => h.digitFree d (hdigits d hd), hempty, List.take_nil]
    simp only [h.notPlace bad.type, false_iff, not_and]
    intro _ hwithin
    exact hne (List.infix_nil.mp hwithin)
  · have htoken : LexedToken bad := by
      rcases hlexed with hlexed | ⟨index, rfl⟩
      · exact hlexed
      · exact absurd rfl hempty
    rw [describeToken_text htoken.1 hempty, ← List.append_assoc,
      within_append_cons h.quoteFree, within_quoted h]
    simp only [h.notName bad.type, false_or]
    rcases htoken.2 with hstring | hblank
    · rw [hstring]
      simp only [true_and]
      rfl
    · constructor
      · intro hwithin
        exact absurd ((List.take_prefix _ _).subset (hwithin.subset h.blank)) hblank
      · rintro ⟨_, hwithin⟩
        exact absurd ((List.take_prefix _ _).subset (hwithin.subset h.blank)) hblank

/-!
## Where the parser stopped
-/

theorem isConnector_iff (token : Token) :
    isConnector token = true <-> IsKeyword "AND" token ∨ IsKeyword "OR" token := by
  unfold isConnector
  rw [Bool.or_eq_true, isKeyword_iff, isKeyword_iff]

theorem complains_cases {reading : Reading} {bad : Token} {text : Bytes}
    (h : Complains reading bad text) :
    (reading = .start ∧
        text = message
          (ascii "only INSERT and SELECT are supported, got " ++ describeToken bad)) ∨
      (exists statement, reading = .conditioned statement ∧ isConnector bad = true ∧
        text = message
          (ascii "AND/OR conditions are not supported; " ++
            ascii "only a single WHERE condition is allowed, got IDENTIFIER(\"" ++
            bad.text ++ ascii "\") at position " ++ decimalNat bad.position)) ∨
      (reading ≠ .start ∧
        (forall statement, reading = .conditioned statement ->
          isConnector bad = false) ∧
        exists expected, expected ∈ expectedTexts ∧
          text = expectedTokenError expected [bad]) := by
  cases reading with
  | start => exact .inl ⟨rfl, h⟩
  | conditioned statement =>
      cases hconnector : isConnector bad with
      | true =>
          simp only [Complains, hconnector, if_true] at h
          exact .inr (.inl ⟨statement, rfl, rfl, h⟩)
      | false =>
          simp only [Complains, hconnector, Bool.false_eq_true, if_false] at h
          exact .inr (.inr ⟨by simp, fun _ _ => rfl, h⟩)
  | _ => exact .inr (.inr ⟨by simp, by simp, h⟩)

theorem parseErrorCode_of_prefix {phrase : Bytes} (hphrase : phrase ∈ unsupportedPhrases)
    (rest : Bytes) : parseErrorCode (message (phrase ++ rest)) = .unsupportedSql := by
  have hlength : forall phrase, phrase ∈ unsupportedPhrases -> phrase.length ≤ 255 := by
    unfold unsupportedPhrases
    intro phrase hphrase
    rcases List.mem_cons.mp hphrase with rfl | hphrase
    · decide
    · rw [List.mem_singleton.mp hphrase]
      decide
  apply (parseErrorCode_eq _).1
  refine ⟨phrase, hphrase, ?_⟩
  have hmessage : message (phrase ++ rest) =
      phrase ++ rest.take (255 - phrase.length) := by
    change (phrase ++ rest).take 255 = _
    rw [List.take_append, List.take_of_length_le (hlength phrase hphrase)]
  rw [hmessage]
  exact (List.prefix_append _ _).isInfix

theorem not_unsupported {front rest : List Token} {bad : Token} {reading : Reading}
    (hrun : Reading.start.run front = some reading) (hstep : reading.step bad = none)
    (hstart : reading ≠ .start)
    (hconnector : forall statement, reading = .conditioned statement ->
      isConnector bad = false) :
    ¬ Unsupported (front ++ bad :: rest) := by
  intro hunsupported
  generalize htokens : front ++ bad :: rest = tokens at hunsupported
  cases hunsupported with
  | keyword hinsert hselect =>
      cases front with
      | nil =>
          cases hrun
          exact hstart rfl
      | cons first front =>
          rw [← (List.cons.inj htokens).1] at hinsert hselect
          rw [← isKeyword_iff] at hinsert hselect
          rw [Reading.run] at hrun
          simp only [Reading.step, onToken, hinsert, hselect] at hrun
          cases hrun
  | @connector statement back more connector hstatement hcondition hword =>
      have hback := run_conditioned hstatement hcondition
      have hidentifier : connector.type = .identifier := by
        rcases hword with hand | hor
        · exact hand.1
        · exact hor.1
      have hstopped : (Reading.conditioned statement).step connector = none := by
        simp [Reading.step, onToken, hidentifier]
      rcases Reading.run_stops hstep hstopped hrun hback htokens with
        ⟨_, hsame, hreading⟩
      have hnot := hconnector statement hreading
      rw [hsame, (isConnector_iff connector).mpr hword] at hnot
      cases hnot

/-- The statement is unsupported, or no literal stops the parser with a phrase. -/
def NotMisled (tokens : List Token) : Prop :=
  Unsupported tokens ∨ forall bad, Blocked tokens bad -> ¬ Imitates bad

theorem parseErrorCode_right_iff {tokens : List Token} (hlexed : LexedTokens tokens)
    {text : Bytes} (hrefused : parseStatement tokens = .error text) :
    ClassifiedRight (parseErrorCode text) tokens <-> NotMisled tokens := by
  have hstuck := parseStatement_reads_or_stuck hlexed.endsOnce
  rw [hrefused] at hstuck
  rcases hstuck with ⟨front, bad, rest, reading, rfl, hrun, hstep, hcomplains⟩
  have hright : Unsupported (front ++ bad :: rest) ->
      parseErrorCode text = .unsupportedSql ->
        (ClassifiedRight (parseErrorCode text) (front ++ bad :: rest) <->
          NotMisled (front ++ bad :: rest)) :=
    fun hunsupported hcode =>
      ⟨fun _ => .inl hunsupported,
        fun _ => ⟨fun _ => hcode, fun hnot => absurd hunsupported hnot⟩⟩
  rcases complains_cases hcomplains with
    ⟨rfl, htext⟩ | ⟨statement, rfl, hconnector, htext⟩ |
      ⟨hstart, hconnector, expected, hexpected, htext⟩
  · apply hright
    · have hfront : front = [] := by
        rcases Reading.run_target hrun with hnil | ⟨last, token, hlast⟩
        · exact hnil
        · exact absurd rfl (Reading.step_target hlast).1
      rw [hfront]
      simp only [Reading.step, onToken] at hstep
      apply Unsupported.keyword
      · rw [← isKeyword_iff]
        intro hinsert
        rw [if_pos hinsert] at hstep
        cases hstep
      · rw [← isKeyword_iff]
        intro hselect
        rw [if_neg (by rw [select_not_insert hselect]; simp), if_pos hselect]
          at hstep
        cases hstep
    · have hsplit : ascii "only INSERT and SELECT are supported, got " =
          ascii "only INSERT and SELECT are supported" ++ ascii ", got " := by
        decide
      rw [htext, hsplit, List.append_assoc]
      exact parseErrorCode_of_prefix List.mem_cons_self _
  · apply hright
    · have hstatement := statementTokens_of_run hrun
      exact .connector hstatement.1 hstatement.2 ((isConnector_iff bad).mp hconnector)
    · have hsplit : ascii "AND/OR conditions are not supported; " =
          ascii "AND/OR conditions are not supported" ++ ascii "; " := by
        decide
      rw [htext, hsplit]
      simp only [List.append_assoc]
      exact parseErrorCode_of_prefix (List.mem_cons_of_mem _ List.mem_cons_self) _
  · have hwrong := @not_unsupported front rest bad reading hrun hstep hstart hconnector
    have hmem : bad ∈ front ++ bad :: rest :=
      List.mem_append_right _ List.mem_cons_self
    have hphrase : (exists phrase, phrase ∈ unsupportedPhrases ∧ phrase <:+: text) <->
        Imitates bad := by
      rw [htext]
      constructor
      · rintro ⟨phrase, hphrase, hwithin⟩
        have hfound :=
          (phrase_in_message (isPhrase hphrase) hexpected (hlexed.mem hmem)).mp hwithin
        exact ⟨hfound.1, phrase, hphrase, hfound.2⟩
      · rintro ⟨hstring, phrase, hphrase, hwithin⟩
        exact ⟨phrase, hphrase,
          (phrase_in_message (isPhrase hphrase) hexpected (hlexed.mem hmem)).mpr
            ⟨hstring, hwithin⟩⟩
    have hblocked : forall other, Blocked (front ++ bad :: rest) other ->
        other = bad := by
      intro other hother
      rcases (blocked_iff_stopped _ _).mp hother with
        ⟨back, more, next, htokens, hback, hnext⟩
      exact (Reading.run_stops hstep hnext hrun hback htokens).2.1.symm
    constructor
    · intro hclassified
      right
      intro other hother himitates
      rw [hblocked other hother] at himitates
      have hcode := (parseErrorCode_eq text).1 (hphrase.mpr himitates)
      rw [hclassified.2 hwrong] at hcode
      cases hcode
    · rintro (hunsupported | hnone)
      · exact absurd hunsupported hwrong
      · have hbad : ¬ Imitates bad :=
          hnone bad ((blocked_iff_stopped _ _).mpr
            ⟨front, rest, reading, rfl, hrun, hstep⟩)
        refine ⟨fun hunsupported => absurd hunsupported hwrong, fun _ => ?_⟩
        exact (parseErrorCode_eq text).2 fun hfound => hbad (hphrase.mp hfound)

/-!
## Statements that differ in their literals
-/

/-- The same token, up to the content of a literal. -/
def SameButLiteral (left right : Token) : Prop :=
  left.type = right.type ∧ (left.type ≠ .string -> left.text = right.text)

section SameButLiteral

variable {left right : Token}

theorem SameButLiteral.isKeyword (h : SameButLiteral left right) {keyword : String}
    (hleft : IsKeyword keyword left) : IsKeyword keyword right := by
  have hother : left.type ≠ .string := by
    rw [hleft.1]
    simp
  unfold IsKeyword
  rw [← h.1, ← h.2 hother]
  exact hleft

theorem SameButLiteral.isName (h : SameButLiteral left right) {text : Bytes}
    (hleft : IsName text left) : IsName text right := by
  have hother : left.type ≠ .string := by
    rw [hleft.1]
    simp
  unfold IsName
  rw [← h.1, ← h.2 hother]
  exact hleft

theorem SameButLiteral.symm (h : SameButLiteral left right) :
    SameButLiteral right left := by
  constructor
  · exact h.1.symm
  · intro hother
    rw [← h.1] at hother
    exact (h.2 hother).symm

theorem itemList_sameButLiteral {texts : List Bytes} {tokens others : List Token}
    (hlist : ItemList IsName texts tokens)
    (h : List.Forall₂ SameButLiteral tokens others) : ItemList IsName texts others := by
  induction hlist generalizing others with
  | last hitem =>
      cases h with
      | cons hfirst hrest =>
          cases hrest
          exact .last (hfirst.isName hitem)
  | cons hitem hcomma hmore ih =>
      cases h with
      | cons hfirst hrest =>
          cases hrest with
          | cons hsecond hrest =>
              exact .cons (hfirst.isName hitem) (hsecond.1.symm.trans hcomma) (ih hrest)

theorem forall₂_append_left {front back others : List Token}
    (h : List.Forall₂ SameButLiteral (front ++ back) others) :
    exists otherFront otherBack,
      others = otherFront ++ otherBack ∧
        List.Forall₂ SameButLiteral front otherFront ∧
          List.Forall₂ SameButLiteral back otherBack := by
  induction front generalizing others with
  | nil => exact ⟨[], others, rfl, .nil, h⟩
  | cons token front ih =>
      cases h with
      | cons hfirst hrest =>
          rcases ih hrest with ⟨otherFront, otherBack, rfl, hfront, hback⟩
          exact ⟨_, otherBack, rfl, .cons hfirst hfront, hback⟩

theorem conditioned_sameButLiteral {statement : SelectStatement}
    {tokens others : List Token}
    (hstatement : StatementTokens (.selectStatement statement) tokens)
    (hcondition : statement.condition ≠ none)
    (h : List.Forall₂ SameButLiteral tokens others) :
    exists other : SelectStatement,
      StatementTokens (.selectStatement other) others ∧ other.condition ≠ none := by
  cases hstatement with
  | @select tableName columns selectAll condition selectWord fromWord table selected
      conditionTokens hselect hselected hfrom htable hconditionTokens =>
      rcases forall₂_append_left h with ⟨front, clause, rfl, hfront, hclause⟩
      rcases forall₂_append_left hfront with ⟨front, middle, rfl, hfront, hmiddle⟩
      rcases forall₂_append_left hfront with ⟨front, items, rfl, hfront, hitems⟩
      cases hfront with
      | cons hfirst hnil =>
          cases hnil
          cases hmiddle with
          | cons hfromWord hrest =>
              cases hrest with
              | cons htableWord hnil =>
                  cases hnil
                  have hsame : SelectedItems selectAll columns items := by
                    cases hselected with
                    | star hstar =>
                        cases hitems with
                        | cons hstarWord hnil =>
                            cases hnil
                            exact .star (hstarWord.1.symm.trans hstar)
                    | columns hcolumns =>
                        exact .columns (itemList_sameButLiteral hcolumns hitems)
                  cases hconditionTokens with
                  | none => exact absurd rfl hcondition
                  | condition hkeyword hcolumn hequals hvalue =>
                      cases hclause with
                      | cons hkeywordWord hclause =>
                          cases hclause with
                          | cons hcolumnWord hclause =>
                              cases hclause with
                              | cons hequalsWord hclause =>
                                  cases hclause with
                                  | @cons _ valueWord _ _ hvalueWord hnil =>
                                      cases hnil
                                      have hvalueText : IsValue valueWord.text
                                          valueWord := by
                                        constructor
                                        · rw [← hvalueWord.1]
                                          exact hvalue.1
                                        · rfl
                                      refine ⟨_, .select (hfirst.isKeyword hselect) hsame
                                        (hfromWord.isKeyword hfrom)
                                        (htableWord.isName htable)
                                        (.condition (hkeywordWord.isKeyword hkeyword)
                                          (hcolumnWord.isName hcolumn)
                                          (hequalsWord.1.symm.trans hequals)
                                          hvalueText), by simp⟩

theorem unsupported_sameButLiteral {tokens others : List Token}
    (hunsupported : Unsupported tokens)
    (h : List.Forall₂ SameButLiteral tokens others) : Unsupported others := by
  cases hunsupported with
  | keyword hinsert hselect =>
      cases h with
      | cons hfirst hrest =>
          exact .keyword (fun hkeyword => hinsert (hfirst.symm.isKeyword hkeyword))
            fun hkeyword => hselect (hfirst.symm.isKeyword hkeyword)
  | connector hstatement hcondition hconnector =>
      rcases forall₂_append_left h with ⟨front, back, rfl, hfront, hback⟩
      cases hback with
      | cons hword hrest =>
          rcases conditioned_sameButLiteral hstatement hcondition hfront with
            ⟨other, hother, hotherCondition⟩
          exact .connector hother hotherCondition
            (hconnector.imp hword.isKeyword hword.isKeyword)

end SameButLiteral

/-!
## The code of a call
-/

/-- The text reaches `parse_statement`, which refuses its tokens. -/
structure ParseFailure (config : SqlEngineAdapterConfig) (sql : Bytes)
    (tokens : List Token) (text : Bytes) : Prop where
  notBlank : isBlankSql sql = false
  withinLimit :
    ¬ (0 < config.sqlLengthLimit ∧ config.sqlLengthLimit < (cString sql).length)
  lexed : lexSql sql = .ok tokens
  refused : parseStatement tokens = .error text

/-- The code `sql_engine_adapter_execute` reports. -/
def reportedCode (config : SqlEngineAdapterConfig) (environment : CallEnvironment)
    (acquireError : Option Bytes) (world : World) (sql : Bytes) :
    SqlEngineErrorCode :=
  (sqlEngineAdapterExecute config environment acquireError (some sql) world).2.errorCode

theorem reportedCode_of_failure {config : SqlEngineAdapterConfig} {sql text : Bytes}
    {tokens : List Token} (h : ParseFailure config sql tokens text)
    (environment : CallEnvironment) (acquireError : Option Bytes) (world : World) :
    reportedCode config environment acquireError world sql = parseErrorCode text := by
  have hprepare : prepareSql config environment (some sql) =
      .error (setError zeroResult (parseErrorCode text) text) := by
    unfold prepareSql
    simp only [h.notBlank, h.withinLimit, Bool.false_eq_true, if_false, h.lexed,
      h.refused]
  unfold reportedCode sqlEngineAdapterExecute
  rw [hprepare]
  rfl

/--
The code is right just when no literal misleads it, and then statements that differ
only in their literals get the same code.
-/
theorem parse_error_code_iff (config : SqlEngineAdapterConfig)
    (environment : CallEnvironment) (acquireError : Option Bytes) (world : World)
    {sql text : Bytes} {tokens : List Token}
    (hfailure : ParseFailure config sql tokens text) :
    (ClassifiedRight (reportedCode config environment acquireError world sql) tokens <->
        NotMisled tokens) ∧
      forall {other otherText : Bytes} {otherTokens : List Token},
        ParseFailure config other otherTokens otherText ->
          List.Forall₂ SameButLiteral tokens otherTokens -> NotMisled tokens ->
            NotMisled otherTokens ->
              reportedCode config environment acquireError world sql =
                reportedCode config environment acquireError world other := by
  have hiff : forall {sql text : Bytes} {tokens : List Token},
      ParseFailure config sql tokens text ->
        (ClassifiedRight (reportedCode config environment acquireError world sql)
            tokens <-> NotMisled tokens) := by
    intro sql text tokens hfailure
    rw [reportedCode_of_failure hfailure]
    exact parseErrorCode_right_iff (lexSql_lexedTokens hfailure.lexed) hfailure.refused
  refine ⟨hiff hfailure, ?_⟩
  intro other otherText otherTokens hother hsame hleft hright
  have hsymm : List.Forall₂ SameButLiteral otherTokens tokens :=
    (List.Forall₂.imp (fun _ _ h => SameButLiteral.symm h) hsame).flip
  have hleftRight := (hiff hfailure).mpr hleft
  have hrightRight := (hiff hother).mpr hright
  by_cases hunsupported : Unsupported tokens
  · rw [hleftRight.1 hunsupported,
      hrightRight.1 (unsupported_sameButLiteral hunsupported hsame)]
  · rw [hleftRight.2 hunsupported, hrightRight.2 fun hwrong =>
      hunsupported (unsupported_sameButLiteral hwrong hsymm)]

/-- The code reported for a text by a server that was just started. -/
def literalCode (sql : Bytes) : SqlEngineErrorCode :=
  reportedCode { schemaDir := sampleSchemaDir, sqlLengthLimit := 0 }
    { faults := noFaults
      tmpfileFails := false
      captureError := none
      selfCopy := fun _ => []
      elapsedMs := 0
      wallElapsedMs := 0 }
    none
    { engine := startState sampleDataDir
      hooks := { forcedNextError := .none, delayAfterLockMs := 0 } }
    sql

def literalTokens (content : Bytes) (length : Nat) : List Token :=
  [{ type := .identifier, text := ascii "SELECT", position := 0 },
    { type := .star, text := ascii "*", position := 7 },
    { type := .identifier, text := ascii "FROM", position := 9 },
    { type := .string, text := content, position := 14 },
    { type := .semicolon, text := ascii ";", position := 16 + length },
    endToken (17 + length)]

theorem literalTokens_supported (content : Bytes) (length : Nat) :
    ¬ Unsupported (literalTokens content length) := by
  intro hunsupported
  generalize htokens : literalTokens content length = tokens at hunsupported
  cases hunsupported with
  | @keyword first rest _ hselect =>
      rw [← (List.cons.inj htokens).1] at hselect
      exact hselect ((isKeyword_iff _ _).mp (by decide))
  | @connector _ front rest connector _ _ hconnector =>
      have hmem : connector ∈ literalTokens content length := by
        rw [htokens]
        exact List.mem_append_right _ List.mem_cons_self
      have hword := (isConnector_iff connector).mpr hconnector
      simp only [literalTokens, List.mem_cons, List.not_mem_nil, or_false] at hmem
      rcases hmem with rfl | rfl | rfl | rfl | rfl | rfl
      all_goals cases hword

theorem literalTokens_refused :
    ParseFailure { schemaDir := sampleSchemaDir, sqlLengthLimit := 0 }
      (ascii "SELECT * FROM 'x';") (literalTokens (ascii "x") 1)
      (ascii "expected identifier, got STRING(\"x\") at position 14") := by
  refine ⟨by decide, fun h => absurd h.1 (Nat.lt_irrefl 0), ?_, ?_⟩
  · decide
  · decide

theorem parse_error_code_iff_sample :
    literalCode (ascii "SELECT * FROM 'x';") = .sqlParseError := by
  have hnone : NotMisled (literalTokens (ascii "x") 1) := by
    right
    rintro bad ⟨front, rest, htokens, _, _⟩ ⟨hstring, phrase, hphrase, hwithin⟩
    have hmem : bad ∈ literalTokens (ascii "x") 1 := by
      rw [htokens]
      exact List.mem_append_right _ List.mem_cons_self
    have hshort : (literalTokens (ascii "x") 1).all
        (fun token => decide (token.type = .string -> token.text.length ≤ 1)) = true := by
      decide
    have hlength := of_decide_eq_true (List.all_eq_true.mp hshort bad hmem) hstring
    have hlong : unsupportedPhrases.all (fun phrase => decide (2 ≤ phrase.length)) =
        true := by
      decide
    have htwo := of_decide_eq_true (List.all_eq_true.mp hlong phrase hphrase)
    have hle := hwithin.length_le
    rw [List.length_take] at hle
    omega
  exact ((parse_error_code_iff _ _ none _ literalTokens_refused).1.mpr hnone).2
    (literalTokens_supported _ _)

/-- A table name written as a literal decides the code. -/
theorem parse_error_code_imitated :
    (exists tokens text,
        ParseFailure { schemaDir := sampleSchemaDir, sqlLengthLimit := 0 }
            (ascii "SELECT * FROM 'AND/OR conditions are not supported';") tokens text ∧
          ¬ Unsupported tokens) ∧
      literalCode (ascii "SELECT * FROM 'AND/OR conditions are not supported';") =
        .unsupportedSql ∧
      literalCode (ascii "SELECT * FROM 'x';") = .sqlParseError := by
  have hfailure : ParseFailure { schemaDir := sampleSchemaDir, sqlLengthLimit := 0 }
      (ascii "SELECT * FROM 'AND/OR conditions are not supported';")
      (literalTokens (ascii "AND/OR conditions are not supported") 35)
      (ascii "expected identifier, got STRING(\"AND/OR conditions are not " ++
        ascii "supported\") at position 14") := by
    refine ⟨by decide, fun h => absurd h.1 (Nat.lt_irrefl 0), ?_, ?_⟩
    · decide
    · decide
  refine ⟨⟨_, _, hfailure, literalTokens_supported _ _⟩, ?_, ?_⟩
  · exact (reportedCode_of_failure hfailure _ _ _).trans (by decide)
  · exact (reportedCode_of_failure literalTokens_refused _ _ _).trans (by decide)

end Engine
end SqlCsvServer
