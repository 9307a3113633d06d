import SqlCsvServer.Sql.Parser

/-!
# The grammar of `parse_statement`

A statement is derived from its tokens by the rules of the grammar.  The same
language is read token by token: a reading is what the tokens so far say, and a token
either leads to the next reading or cannot stand there.
-/

namespace SqlCsvServer
namespace Sql

open Foundation
open Common

/-!
## The rules
-/

def IsKeyword (keyword : String) (token : Token) : Prop :=
  token.type = .identifier ∧
    token.text.map toLower = (ascii keyword).map toLower

def IsName (text : Bytes) (token : Token) : Prop :=
  token.type = .identifier ∧ token.text = text

def IsValue (text : Bytes) (token : Token) : Prop :=
  (token.type = .string ∨ token.type = .number ∨ token.type = .identifier) ∧
    token.text = text

inductive ItemList (item : Bytes -> Token -> Prop) : List Bytes -> List Token -> Prop where
  | last {text : Bytes} {token : Token} (hitem : item text token) :
      ItemList item [text] [token]
  | cons {text : Bytes} {texts : List Bytes} {token comma : Token}
      {tokens : List Token} (hitem : item text token) (hcomma : comma.type = .comma)
      (hmore : ItemList item texts tokens) :
      ItemList item (text :: texts) (token :: comma :: tokens)

inductive SelectedItems : Bool -> List Bytes -> List Token -> Prop where
  | star {star : Token} (hstar : star.type = .star) : SelectedItems true [] [star]
  | columns {columns : List Bytes} {tokens : List Token}
      (hcolumns : ItemList IsName columns tokens) :
      SelectedItems false columns tokens

inductive ConditionTokens : Option WhereCondition -> List Token -> Prop where
  | none : ConditionTokens none []
  | condition {whereColumn whereValue : Bytes}
      {keyword column equals value : Token} (hkeyword : IsKeyword "WHERE" keyword)
      (hcolumn : IsName whereColumn column) (hequals : equals.type = .equals)
      (hvalue : IsValue whereValue value) :
      ConditionTokens (some { whereColumn := whereColumn, whereValue := whereValue })
        [keyword, column, equals, value]

/-- The tokens of a statement in front of the semicolon. -/
inductive StatementTokens : Statement -> List Token -> Prop where
  | insert {tableName : Bytes} {columns values : List Bytes}
      {insert into table valuesWord left right leftValues rightValues : Token}
      {columnTokens valueTokens : List Token}
      (hinsert : IsKeyword "INSERT" insert) (hinto : IsKeyword "INTO" into)
      (htable : IsName tableName table) (hleft : left.type = .lparen)
      (hcolumns : ItemList IsName columns columnTokens)
      (hright : right.type = .rparen) (hvaluesWord : IsKeyword "VALUES" valuesWord)
      (hleftValues : leftValues.type = .lparen)
      (hvalues : ItemList IsValue values valueTokens)
      (hrightValues : rightValues.type = .rparen) :
      StatementTokens
        (.insertStatement
          { tableName := tableName, columns := columns, values := values })
        ([insert, into, table, left] ++ columnTokens ++
          [right, valuesWord, leftValues] ++ valueTokens ++ [rightValues])
  | select {tableName : Bytes} {columns : List Bytes} {selectAll : Bool}
      {condition : Option WhereCondition} {select fromWord table : Token}
      {selected conditionTokens : List Token} (hselect : IsKeyword "SELECT" select)
      (hselected : SelectedItems selectAll columns selected)
      (hfrom : IsKeyword "FROM" fromWord) (htable : IsName tableName table)
      (hcondition : ConditionTokens condition conditionTokens) :
      StatementTokens
        (.selectStatement
          { tableName := tableName
            columns := columns
            selectAll := selectAll
            condition := condition })
        ([select] ++ selected ++ [fromWord, table] ++ conditionTokens)

/-- A whole token array: a statement, a semicolon, and the end. -/
inductive SqlGrammar : Statement -> List Token -> Prop where
  | whole {statement : Statement} {tokens : List Token} {semicolon last : Token}
      (hstatement : StatementTokens statement tokens)
      (hsemicolon : semicolon.type = .semicolon) (hlast : last.type = .end) :
      SqlGrammar statement (tokens ++ [semicolon, last])

theorem isKeyword_iff (keyword : String) (token : Token) :
    isKeyword (ascii keyword) token = true <-> IsKeyword keyword token := by
  unfold isKeyword IsKeyword
  rw [Bool.and_eq_true, beq_iff_eq, stringsEqualIgnoreCase_iff]

theorem isValueType_iff (type : TokenType) :
    isValueType type = true <->
      type = .string ∨ type = .number ∨ type = .identifier := by
  cases type <;> simp [isValueType]

theorem select_not_insert {token : Token}
    (h : isKeyword (ascii "SELECT") token = true) :
    isKeyword (ascii "INSERT") token = false := by
  rw [Bool.eq_false_iff]
  intro hinsert
  exact absurd (isKeyword_unique h hinsert) (by decide)

/-!
## Readings
-/

/-- What the tokens so far say, named by what comes next. -/
inductive Reading where
  | start
  | into
  | insertTable
  | insertOpen (statement : InsertStatement)
  | column (statement : InsertStatement)
  | moreColumns (statement : InsertStatement)
  | valuesWord (statement : InsertStatement)
  | valuesOpen (statement : InsertStatement)
  | value (statement : InsertStatement)
  | moreValues (statement : InsertStatement)
  | inserted (statement : InsertStatement)
  | selectedItems
  | selectedItem (columns : List Bytes)
  | moreItems (columns : List Bytes)
  | fromWord
  | selectTable (selectAll : Bool) (columns : List Bytes)
  | whereWord (statement : SelectStatement)
  | whereColumn (statement : SelectStatement)
  | whereEquals (statement : SelectStatement) (name : Bytes)
  | whereValue (statement : SelectStatement) (name : Bytes)
  | conditioned (statement : SelectStatement)
  | finish (statement : Statement)
  | done (statement : Statement)

def onToken (accepted : Bool) (next : Reading) : Option Reading :=
  if accepted then some next else none

def InsertStatement.addColumn (statement : InsertStatement) (text : Bytes) :
    InsertStatement :=
  { statement with columns := statement.columns ++ [text] }

def InsertStatement.addValue (statement : InsertStatement) (text : Bytes) :
    InsertStatement :=
  { statement with values := statement.values ++ [text] }

/-- One token more. -/
def Reading.step : Reading -> Token -> Option Reading
  | start, token =>
      if isKeyword (ascii "INSERT") token then some into
      else onToken (isKeyword (ascii "SELECT") token) selectedItems
  | into, token => onToken (isKeyword (ascii "INTO") token) insertTable
  | insertTable, token =>
      onToken (token.type == .identifier)
        (insertOpen { tableName := token.text, columns := [], values := [] })
  | insertOpen statement, token => onToken (token.type == .lparen) (column statement)
  | column statement, token =>
      onToken (token.type == .identifier)
        (moreColumns (statement.addColumn token.text))
  | moreColumns statement, token =>
      if token.type == .comma then some (column statement)
      else onToken (token.type == .rparen) (valuesWord statement)
  | valuesWord statement, token =>
      onToken (isKeyword (ascii "VALUES") token) (valuesOpen statement)
  | valuesOpen statement, token => onToken (token.type == .lparen) (value statement)
  | value statement, token =>
      onToken (isValueType token.type) (moreValues (statement.addValue token.text))
  | moreValues statement, token =>
      if token.type == .comma then some (value statement)
      else onToken (token.type == .rparen) (inserted statement)
  | inserted statement, token =>
      onToken (token.type == .semicolon) (finish (.insertStatement statement))
  | selectedItems, token =>
      if token.type == .star then some fromWord
      else onToken (token.type == .identifier) (moreItems [token.text])
  | selectedItem columns, token =>
      onToken (token.type == .identifier) (moreItems (columns ++ [token.text]))
  | moreItems columns, token =>
      if token.type == .comma then some (selectedItem columns)
      else onToken (isKeyword (ascii "FROM") token) (selectTable false columns)
  | fromWord, token => onToken (isKeyword (ascii "FROM") token) (selectTable true [])
  | selectTable selectAll columns, token =>
      onToken (token.type == .identifier)
        (whereWord
          { tableName := token.text
            columns := columns
            selectAll := selectAll
            condition := none })
  | whereWord statement, token =>
      if isKeyword (ascii "WHERE") token then some (whereColumn statement)
      else onToken (token.type == .semicolon) (finish (.selectStatement statement))
  | whereColumn statement, token =>
      onToken (token.type == .identifier) (whereEquals statement token.text)
  | whereEquals statement name, token =>
      onToken (token.type == .equals) (whereValue statement name)
  | whereValue statement name, token =>
      onToken (isValueType token.type)
        (conditioned
          { statement with
            condition := some { whereColumn := name, whereValue := token.text } })
  | conditioned statement, token =>
      onToken (token.type == .semicolon) (finish (.selectStatement statement))
  | finish statement, token => onToken (token.type == .end) (done statement)
  | done _, _ => none

/-- Several tokens more. -/
def Reading.run : Reading -> List Token -> Option Reading
  | reading, [] => some reading
  | reading, token :: tokens =>
      match reading.step token with
      | none => none
      | some next => next.run tokens

theorem Reading.run_cons {reading next : Reading} {token : Token}
    (h : reading.step token = some next) (tokens : List Token) :
    reading.run (token :: tokens) = next.run tokens := by
  rw [run, h]

theorem Reading.run_append {reading next : Reading} {front : List Token} :
    reading.run front = some next ->
      forall tokens, reading.run (front ++ tokens) = next.run tokens := by
  induction front generalizing reading with
  | nil =>
      intro h tokens
      rw [Option.some.inj h]
      rfl
  | cons token front ih =>
      intro h tokens
      rw [run] at h
      rw [List.cons_append, run]
      cases hstep : reading.step token with
      | none =>
          rw [hstep] at h
          cases h
      | some middle =>
          rw [hstep] at h
          exact ih h tokens

theorem Reading.run_done_cases {reading : Reading} {tokens : List Token}
    {statement : Statement} (h : reading.run tokens = some (.done statement))
    (hreading : forall statement, reading ≠ .done statement) :
    exists token rest next,
      tokens = token :: rest ∧ reading.step token = some next ∧
        next.run rest = some (.done statement) := by
  cases tokens with
  | nil => exact absurd (Option.some.inj h) (hreading statement)
  | cons token rest =>
      rw [run] at h
      cases hstep : reading.step token with
      | none =>
          rw [hstep] at h
          cases h
      | some next =>
          rw [hstep] at h
          exact ⟨token, rest, next, rfl, hstep, h⟩

theorem onToken_eq_some {accepted : Bool} {next result : Reading} :
    onToken accepted next = some result <-> accepted = true ∧ next = result := by
  cases accepted <;> simp [onToken]

/-!
## Lists
-/

structure ListReadings (item : Bytes -> Token -> Prop) (accepts : Token -> Bool)
    (next more : List Bytes -> Reading)
    (close : List Bytes -> Token -> Option Reading) : Prop where
  item_iff : forall text token, item text token <-> accepts token = true ∧ token.text = text
  step_next : forall texts token,
    (next texts).step token = onToken (accepts token) (more (texts ++ [token.text]))
  step_more : forall texts token,
    (more texts).step token =
      if token.type == .comma then some (next texts) else close texts token
  more_ne_done : forall texts statement, more texts ≠ .done statement
  next_ne_done : forall texts statement, next texts ≠ .done statement

section Lists

variable {item : Bytes -> Token -> Prop} {accepts : Token -> Bool}
  {next more : List Bytes -> Reading}
  {close : List Bytes -> Token -> Option Reading}

theorem ListReadings.run_list (h : ListReadings item accepts next more close)
    {texts : List Bytes} {tokens : List Token} (hlist : ItemList item texts tokens)
    (before : List Bytes) :
    (next before).run tokens = some (more (before ++ texts)) := by
  have hitem : forall {text : Bytes} {token : Token} (before : List Bytes),
      item text token -> (next before).step token = some (more (before ++ [text])) := by
    intro text token before hitem
    rcases (h.item_iff text token).mp hitem with ⟨haccepts, htext⟩
    rw [h.step_next, haccepts, htext]
    rfl
  induction hlist generalizing before with
  | last hlast =>
      rw [Reading.run_cons (hitem before hlast)]
      rfl
  | @cons text texts token comma tokens hfirst hcomma hmore ih =>
      have hstep : (more (before ++ [text])).step comma =
          some (next (before ++ [text])) := by
        rw [h.step_more, hcomma]
        rfl
      rw [Reading.run_cons (hitem before hfirst), Reading.run_cons hstep, ih,
        List.append_assoc]
      rfl

def ListTail (item : Bytes -> Token -> Prop) (texts : List Bytes)
    (tokens : List Token) : Prop :=
  forall {text : Bytes} {token : Token}, item text token ->
    ItemList item (text :: texts) (token :: tokens)

theorem ListReadings.tail (h : ListReadings item accepts next more close)
    {statement : Statement} : forall {texts : List Bytes} {tokens : List Token},
      (more texts).run tokens = some (.done statement) ->
        exists new tail closing rest reading,
          tokens = tail ++ closing :: rest ∧ ListTail item new tail ∧
            close (texts ++ new) closing = some reading ∧
              reading.run rest = some (.done statement)
  | texts, [], hrun =>
      absurd (Option.some.inj hrun) (h.more_ne_done texts statement)
  | texts, token :: rest, hrun => by
      rcases Reading.run_done_cases hrun (h.more_ne_done texts) with
        ⟨_, _, reading, hcons, hstep, hrest⟩
      cases hcons
      rw [h.step_more] at hstep
      by_cases hcomma : (token.type == .comma) = true
      · rw [if_pos hcomma] at hstep
        cases hstep
        cases rest with
        | nil => exact absurd (Option.some.inj hrest) (h.next_ne_done texts statement)
        | cons second rest =>
            rcases Reading.run_done_cases hrest (h.next_ne_done texts) with
              ⟨_, _, reading, hcons, hstep, hmore⟩
            cases hcons
            rw [h.step_next, onToken_eq_some] at hstep
            rcases hstep with ⟨haccepts, rfl⟩
            rcases h.tail hmore with
              ⟨new, tail, closing, rest, reading, rfl, htail, hclose, hdone⟩
            refine ⟨second.text :: new, token :: second :: tail, closing, rest,
              reading, rfl, ?_, ?_, hdone⟩
            · intro text first hfirst
              exact .cons hfirst (beq_iff_eq.mp hcomma)
                (htail ((h.item_iff _ _).mpr ⟨haccepts, rfl⟩))
            · rw [List.append_assoc] at hclose
              exact hclose
      · rw [if_neg hcomma] at hstep
        refine ⟨[], [], token, rest, reading, rfl, .last, ?_, hrest⟩
        rw [List.append_nil]
        exact hstep

theorem ListReadings.list (h : ListReadings item accepts next more close)
    {statement : Statement} {texts : List Bytes} {tokens : List Token}
    (hrun : (next texts).run tokens = some (.done statement)) :
    exists new list closing rest reading,
      tokens = list ++ closing :: rest ∧ ItemList item new list ∧
        close (texts ++ new) closing = some reading ∧
          reading.run rest = some (.done statement) := by
  rcases Reading.run_done_cases hrun (h.next_ne_done texts) with
    ⟨first, rest, reading, rfl, hstep, hrest⟩
  rw [h.step_next, onToken_eq_some] at hstep
  rcases hstep with ⟨haccepts, rfl⟩
  rcases h.tail hrest with ⟨new, tail, closing, rest, reading, rfl, htail, hclose, hdone⟩
  rw [List.append_assoc] at hclose
  exact ⟨first.text :: new, first :: tail, closing, rest, reading, rfl,
    htail ((h.item_iff _ _).mpr ⟨haccepts, rfl⟩), hclose, hdone⟩

end Lists

theorem isName_iff (text : Bytes) (token : Token) :
    IsName text token <-> (token.type == .identifier) = true ∧ token.text = text := by
  unfold IsName
  rw [beq_iff_eq]

theorem isValue_iff (text : Bytes) (token : Token) :
    IsValue text token <-> isValueType token.type = true ∧ token.text = text := by
  unfold IsValue
  rw [isValueType_iff]

theorem columnReadings (tableName : Bytes) :
    ListReadings IsName (fun token => token.type == .identifier)
      (fun texts => .column { tableName := tableName, columns := texts, values := [] })
      (fun texts =>
        .moreColumns { tableName := tableName, columns := texts, values := [] })
      (fun texts token => onToken (token.type == .rparen)
        (.valuesWord { tableName := tableName, columns := texts, values := [] })) where
  item_iff := isName_iff
  step_next := fun _ _ => rfl
  step_more := fun _ _ => rfl
  more_ne_done := fun _ _ h => Reading.noConfusion h
  next_ne_done := fun _ _ h => Reading.noConfusion h

theorem valueReadings (tableName : Bytes) (columns : List Bytes) :
    ListReadings IsValue (fun token => isValueType token.type)
      (fun texts =>
        .value { tableName := tableName, columns := columns, values := texts })
      (fun texts =>
        .moreValues { tableName := tableName, columns := columns, values := texts })
      (fun texts token => onToken (token.type == .rparen)
        (.inserted { tableName := tableName, columns := columns, values := texts })) where
  item_iff := isValue_iff
  step_next := fun _ _ => rfl
  step_more := fun _ _ => rfl
  more_ne_done := fun _ _ h => Reading.noConfusion h
  next_ne_done := fun _ _ h => Reading.noConfusion h

theorem itemReadings :
    ListReadings IsName (fun token => token.type == .identifier) .selectedItem
      .moreItems
      (fun texts token =>
        onToken (isKeyword (ascii "FROM") token) (.selectTable false texts)) where
  item_iff := isName_iff
  step_next := fun _ _ => rfl
  step_more := fun _ _ => rfl
  more_ne_done := fun _ _ h => Reading.noConfusion h
  next_ne_done := fun _ _ h => Reading.noConfusion h

/-!
## Statements
-/

theorem Reading.run_selectedItems {first : Token} (h : first.type = .identifier)
    (tokens : List Token) :
    Reading.selectedItems.run (first :: tokens) =
      (Reading.selectedItem []).run (first :: tokens) := by
  have hstep : Reading.selectedItems.step first =
      (Reading.selectedItem []).step first := by
    simp [Reading.step, h]
  rw [run, run, hstep]

theorem run_selected {selectAll : Bool} {columns : List Bytes}
    {selected : List Token} {fromWord : Token}
    (hselected : SelectedItems selectAll columns selected)
    (hfrom : IsKeyword "FROM" fromWord) :
    Reading.selectedItems.run (selected ++ [fromWord]) =
      some (.selectTable selectAll columns) := by
  have hkeyword := (isKeyword_iff "FROM" fromWord).mpr hfrom
  cases hselected with
  | star hstar => simp [Reading.run, Reading.step, onToken, hstar, hkeyword]
  | columns hcolumns =>
      have hfirst : Reading.selectedItems.run (selected ++ [fromWord]) =
          (Reading.selectedItem []).run (selected ++ [fromWord]) := by
        cases hcolumns with
        | last hitem => exact Reading.run_selectedItems hitem.1 _
        | cons hitem hcomma hmore => exact Reading.run_selectedItems hitem.1 _
      rw [hfirst, Reading.run_append (itemReadings.run_list hcolumns [])]
      simp [Reading.run, Reading.step, onToken, hkeyword, hfrom.1]

theorem run_select {tableName : Bytes} {columns : List Bytes} {selectAll : Bool}
    {select fromWord table : Token} {selected : List Token}
    (hselect : IsKeyword "SELECT" select)
    (hselected : SelectedItems selectAll columns selected)
    (hfrom : IsKeyword "FROM" fromWord) (htable : IsName tableName table) :
    Reading.start.run ([select] ++ selected ++ [fromWord, table]) =
      some (.whereWord
        { tableName := tableName
          columns := columns
          selectAll := selectAll
          condition := none }) := by
  have hkeyword := (isKeyword_iff _ _).mpr hselect
  have hname := (isName_iff _ _).mp htable
  have hhead : Reading.start.run [select] = some .selectedItems := by
    simp [Reading.run, Reading.step, onToken, select_not_insert hkeyword, hkeyword]
  have hsplit : [select] ++ selected ++ [fromWord, table] =
      [select] ++ ((selected ++ [fromWord]) ++ [table]) := by
    simp
  rw [hsplit, Reading.run_append hhead,
    Reading.run_append (run_selected hselected hfrom)]
  simp [Reading.run, Reading.step, onToken, hname.1, hname.2]

theorem run_whereClause {statement : SelectStatement} {whereColumn whereValue : Bytes}
    {keyword column equals value : Token} (hkeyword : IsKeyword "WHERE" keyword)
    (hcolumn : IsName whereColumn column) (hequals : equals.type = .equals)
    (hvalue : IsValue whereValue value) :
    (Reading.whereWord statement).run [keyword, column, equals, value] =
      some (.conditioned
        { statement with
          condition :=
            some { whereColumn := whereColumn, whereValue := whereValue } }) := by
  have hwhere := (isKeyword_iff _ _).mpr hkeyword
  have hname := (isName_iff _ _).mp hcolumn
  have htext := (isValue_iff _ _).mp hvalue
  simp [Reading.run, Reading.step, onToken, hwhere, hname.1, hname.2, hequals, htext.1,
    htext.2]

theorem run_condition {condition : Option WhereCondition} {tokens : List Token}
    {tableName : Bytes} {columns : List Bytes} {selectAll : Bool} {semicolon : Token}
    (h : ConditionTokens condition tokens) (hsemicolon : semicolon.type = .semicolon) :
    (Reading.whereWord
        { tableName := tableName
          columns := columns
          selectAll := selectAll
          condition := none }).run (tokens ++ [semicolon]) =
      some (.finish (.selectStatement
        { tableName := tableName
          columns := columns
          selectAll := selectAll
          condition := condition })) := by
  cases h with
  | none =>
      have hother : isKeyword (ascii "WHERE") semicolon = false :=
        isKeyword_of_other_type (by rw [hsemicolon]; exact nofun)
      simp [Reading.run, Reading.step, onToken, hother, hsemicolon]
  | condition hkeyword hcolumn hequals hvalue =>
      rw [Reading.run_append (run_whereClause hkeyword hcolumn hequals hvalue)]
      simp [Reading.run, Reading.step, onToken, hsemicolon]

theorem SqlGrammar.run {statement : Statement} {tokens : List Token}
    (h : SqlGrammar statement tokens) :
    Reading.start.run tokens = some (.done statement) := by
  cases h with
  | @whole tokens semicolon last hstatement hsemicolon hlast =>
      cases hstatement with
      | @insert tableName columns values insert into table valuesWord left right
          leftValues rightValues columnTokens valueTokens hinsert hinto htable hleft
          hcolumns hright hvaluesWord hleftValues hvalues hrightValues =>
          have hname := (isName_iff _ _).mp htable
          have hhead : Reading.start.run [insert, into, table, left] =
              some (.column { tableName := tableName, columns := [], values := [] }) := by
            simp [Reading.run, Reading.step, onToken, (isKeyword_iff _ _).mpr hinsert,
              (isKeyword_iff _ _).mpr hinto, hname.1, hname.2, hleft]
          have hmiddle : (Reading.moreColumns
              { tableName := tableName, columns := columns, values := [] }).run
                [right, valuesWord, leftValues] =
              some (.value
                { tableName := tableName, columns := columns, values := [] }) := by
            simp [Reading.run, Reading.step, onToken, hright,
              (isKeyword_iff _ _).mpr hvaluesWord, hleftValues]
          have htail : (Reading.moreValues
              { tableName := tableName, columns := columns, values := values }).run
                [rightValues, semicolon, last] =
              some (.done (.insertStatement
                { tableName := tableName, columns := columns, values := values })) := by
            simp [Reading.run, Reading.step, onToken, hrightValues, hsemicolon, hlast]
          simp only [List.append_assoc]
          rw [Reading.run_append hhead,
            Reading.run_append ((columnReadings tableName).run_list hcolumns []),
            List.nil_append, Reading.run_append hmiddle,
            Reading.run_append ((valueReadings tableName columns).run_list hvalues [])]
          exact htail
      | @select tableName columns selectAll condition select fromWord table selected
          conditionTokens hselect hselected hfrom htable hcondition =>
          have hsplit : [select] ++ selected ++ [fromWord, table] ++ conditionTokens ++
              [semicolon, last] =
              ([select] ++ selected ++ [fromWord, table]) ++
                ((conditionTokens ++ [semicolon]) ++ [last]) := by
            simp
          rw [hsplit, Reading.run_append (run_select hselect hselected hfrom htable),
            Reading.run_append (run_condition hcondition hsemicolon)]
          simp [Reading.run, Reading.step, onToken, hlast]

theorem Reading.run_onToken {reading : Reading} {accepts : Token -> Bool}
    {next : Token -> Reading} {tokens : List Token} {statement : Statement}
    (h : reading.run tokens = some (.done statement))
    (hreading : forall statement, reading ≠ .done statement)
    (hstep : forall token, reading.step token = onToken (accepts token) (next token)) :
    exists token rest,
      tokens = token :: rest ∧ accepts token = true ∧
        (next token).run rest = some (.done statement) := by
  rcases run_done_cases h hreading with ⟨token, rest, after, htokens, hafter, hrest⟩
  rw [hstep, onToken_eq_some] at hafter
  rcases hafter with ⟨haccepts, rfl⟩
  exact ⟨token, rest, htokens, haccepts, hrest⟩

theorem run_finish {reading : Reading} {statement whole : Statement}
    {tokens : List Token} (h : reading.run tokens = some (.done whole))
    (hreading : forall statement, reading ≠ .done statement)
    (hstep : forall token,
      reading.step token = onToken (token.type == .semicolon) (.finish statement)) :
    exists semicolon last,
      tokens = [semicolon, last] ∧ semicolon.type = .semicolon ∧ last.type = .end ∧
        whole = statement := by
  rcases Reading.run_onToken h hreading hstep with
    ⟨semicolon, rest, rfl, hsemicolon, hfinish⟩
  rcases Reading.run_onToken hfinish (fun _ => nofun) (fun _ => rfl) with
    ⟨last, rest, rfl, hlast, hdone⟩
  cases rest with
  | nil =>
      cases hdone
      exact ⟨semicolon, last, rfl, beq_iff_eq.mp hsemicolon, beq_iff_eq.mp hlast, rfl⟩
  | cons token rest => cases hdone

theorem insert_of_run {insert : Token} {tokens : List Token} {statement : Statement}
    (hinsert : isKeyword (ascii "INSERT") insert = true)
    (h : Reading.into.run tokens = some (.done statement)) :
    SqlGrammar statement (insert :: tokens) := by
  rcases Reading.run_onToken h (fun _ => nofun) (fun _ => rfl) with
    ⟨into, tokens, rfl, hinto, h⟩
  rcases Reading.run_onToken h (fun _ => nofun) (fun _ => rfl) with
    ⟨table, tokens, rfl, htable, h⟩
  rcases Reading.run_onToken h (fun _ => nofun) (fun _ => rfl) with
    ⟨left, tokens, rfl, hleft, h⟩
  rcases (columnReadings table.text).list h with
    ⟨columns, columnTokens, right, tokens, reading, rfl, hcolumns, hclose, h⟩
  rcases onToken_eq_some.mp hclose with ⟨hright, rfl⟩
  rcases Reading.run_onToken h (fun _ => nofun) (fun _ => rfl) with
    ⟨valuesWord, tokens, rfl, hvaluesWord, h⟩
  rcases Reading.run_onToken h (fun _ => nofun) (fun _ => rfl) with
    ⟨leftValues, tokens, rfl, hleftValues, h⟩
  rcases (valueReadings table.text ([] ++ columns)).list h with
    ⟨values, valueTokens, rightValues, tokens, reading, rfl, hvalues, hclose, h⟩
  rcases onToken_eq_some.mp hclose with ⟨hrightValues, rfl⟩
  rcases run_finish h (fun _ => nofun) (fun _ => rfl) with
    ⟨semicolon, last, rfl, hsemicolon, hlast, rfl⟩
  have hstatement := StatementTokens.insert ((isKeyword_iff _ _).mp hinsert)
    ((isKeyword_iff _ _).mp hinto) ((isName_iff _ _).mpr ⟨htable, rfl⟩)
    (beq_iff_eq.mp hleft) hcolumns (beq_iff_eq.mp hright)
    ((isKeyword_iff _ _).mp hvaluesWord) (beq_iff_eq.mp hleftValues) hvalues
    (beq_iff_eq.mp hrightValues)
  have hwhole := SqlGrammar.whole hstatement hsemicolon hlast
  simpa using hwhole

theorem selected_of_run {tokens : List Token} {statement : Statement}
    (h : Reading.selectedItems.run tokens = some (.done statement)) :
    exists selectAll columns selected fromWord rest,
      tokens = selected ++ fromWord :: rest ∧
        SelectedItems selectAll columns selected ∧ IsKeyword "FROM" fromWord ∧
          (Reading.selectTable selectAll columns).run rest = some (.done statement) := by
  rcases Reading.run_done_cases h (fun _ => nofun) with
    ⟨first, tokens, next, rfl, hstep, hnext⟩
  by_cases hstar : (first.type == .star) = true
  · have hnextEq : next = .fromWord := by
      simpa [Reading.step, hstar] using hstep.symm
    rw [hnextEq] at hnext
    rcases Reading.run_onToken hnext (fun _ => nofun) (fun _ => rfl) with
      ⟨fromWord, tokens, rfl, hfrom, hrest⟩
    exact ⟨true, [], [first], fromWord, tokens, rfl, .star (beq_iff_eq.mp hstar),
      (isKeyword_iff _ _).mp hfrom, hrest⟩
  · have hidentifier : first.type = .identifier := by
      simp only [Reading.step, hstar, Bool.false_eq_true, if_false,
        onToken_eq_some] at hstep
      exact beq_iff_eq.mp hstep.1
    rw [Reading.run_selectedItems hidentifier] at h
    rcases itemReadings.list h with
      ⟨columns, selected, fromWord, rest, reading, htokens, hcolumns, hclose, hrest⟩
    rcases onToken_eq_some.mp hclose with ⟨hfrom, rfl⟩
    exact ⟨false, columns, selected, fromWord, rest, htokens, .columns hcolumns,
      (isKeyword_iff _ _).mp hfrom, hrest⟩

theorem select_of_run {select : Token} {tokens : List Token} {statement : Statement}
    (hselect : isKeyword (ascii "SELECT") select = true)
    (h : Reading.selectedItems.run tokens = some (.done statement)) :
    SqlGrammar statement (select :: tokens) := by
  rcases selected_of_run h with
    ⟨selectAll, columns, selected, fromWord, tokens, rfl, hselected, hfrom, h⟩
  rcases Reading.run_onToken h (fun _ => nofun) (fun _ => rfl) with
    ⟨table, tokens, rfl, htable, h⟩
  have hwhole : forall {condition : Option WhereCondition}
      {conditionTokens : List Token} {semicolon last : Token},
      ConditionTokens condition conditionTokens -> semicolon.type = .semicolon ->
        last.type = .end ->
          SqlGrammar
            (.selectStatement
              { tableName := table.text
                columns := columns
                selectAll := selectAll
                condition := condition })
            (select :: (selected ++
              fromWord :: table :: (conditionTokens ++ [semicolon, last]))) := by
    intro condition conditionTokens semicolon last hcondition hsemicolon hlast
    have hstatement := StatementTokens.select ((isKeyword_iff _ _).mp hselect) hselected
      hfrom ((isName_iff _ _).mpr ⟨htable, rfl⟩) hcondition
    simpa using SqlGrammar.whole hstatement hsemicolon hlast
  rcases Reading.run_done_cases h (fun _ => nofun) with
    ⟨keyword, rest, next, rfl, hstep, hnext⟩
  by_cases hkeyword : isKeyword (ascii "WHERE") keyword = true
  · have hnextEq : next = .whereColumn
        { tableName := table.text
          columns := columns
          selectAll := selectAll
          condition := none } := by
      simpa [Reading.step, hkeyword] using hstep.symm
    rw [hnextEq] at hnext
    rcases Reading.run_onToken hnext (fun _ => nofun) (fun _ => rfl) with
      ⟨column, rest, rfl, hcolumn, h⟩
    rcases Reading.run_onToken h (fun _ => nofun) (fun _ => rfl) with
      ⟨equals, rest, rfl, hequals, h⟩
    rcases Reading.run_onToken h (fun _ => nofun) (fun _ => rfl) with
      ⟨value, rest, rfl, hvalue, h⟩
    rcases run_finish h (fun _ => nofun) (fun _ => rfl) with
      ⟨semicolon, last, rfl, hsemicolon, hlast, rfl⟩
    exact hwhole
      (.condition ((isKeyword_iff _ _).mp hkeyword)
        ((isName_iff _ _).mpr ⟨hcolumn, rfl⟩) (beq_iff_eq.mp hequals)
        ((isValue_iff _ _).mpr ⟨hvalue, rfl⟩))
      hsemicolon hlast
  · have hsemicolon : keyword.type = .semicolon ∧ next = .finish (.selectStatement
        { tableName := table.text
          columns := columns
          selectAll := selectAll
          condition := none }) := by
      simp only [Reading.step, hkeyword, Bool.false_eq_true, if_false,
        onToken_eq_some] at hstep
      exact ⟨beq_iff_eq.mp hstep.1, hstep.2.symm⟩
    rw [hsemicolon.2] at hnext
    rcases Reading.run_onToken hnext (fun _ => nofun) (fun _ => rfl) with
      ⟨last, rest, rfl, hlast, hdone⟩
    cases rest with
    | nil =>
        cases hdone
        exact hwhole .none hsemicolon.1 (beq_iff_eq.mp hlast)
    | cons token rest => cases hdone

theorem sqlGrammar_iff_run {statement : Statement} {tokens : List Token} :
    SqlGrammar statement tokens <->
      Reading.start.run tokens = some (.done statement) := by
  constructor
  · exact SqlGrammar.run
  · intro h
    rcases Reading.run_done_cases h (fun _ => nofun) with
      ⟨first, tokens, next, rfl, hstep, hnext⟩
    by_cases hinsert : isKeyword (ascii "INSERT") first = true
    · have hnextEq : next = .into := by
        simpa [Reading.step, hinsert] using hstep.symm
      rw [hnextEq] at hnext
      exact insert_of_run hinsert hnext
    · simp only [Reading.step, hinsert, Bool.false_eq_true, if_false,
        onToken_eq_some] at hstep
      rcases hstep with ⟨hselect, rfl⟩
      exact select_of_run hselect hnext

/-!
## Beginnings of statements
-/

def Viable (front : List Token) : Prop :=
  exists more statement, SqlGrammar statement (front ++ more)

def Blocked (tokens : List Token) (bad : Token) : Prop :=
  exists front rest,
    tokens = front ++ bad :: rest ∧ Viable front ∧ ¬ Viable (front ++ [bad])

def Reading.Completes (reading : Reading) : Prop :=
  exists more statement, reading.run more = some (.done statement)

theorem Reading.Completes.before {reading next : Reading} (token : Token)
    (hnext : next.Completes) (hstep : reading.step token = some next) :
    reading.Completes := by
  rcases hnext with ⟨more, statement, hrun⟩
  exists token :: more, statement
  rw [run_cons hstep, hrun]

def plainToken (type : TokenType) (text : String) : Token :=
  { type := type, text := ascii text, position := 0 }

theorem Reading.completes (reading : Reading) : reading.Completes := by
  have hname : isValueType (plainToken .identifier "x").type = true := rfl
  have hdone : forall statement, (Reading.done statement).Completes :=
    fun statement => ⟨[], statement, rfl⟩
  have hfinish : forall statement, (Reading.finish statement).Completes :=
    fun statement => (hdone statement).before (plainToken .end "") rfl
  have hinserted : forall statement, (Reading.inserted statement).Completes :=
    fun _ => (hfinish _).before (plainToken .semicolon ";") rfl
  have hmoreValues : forall statement, (Reading.moreValues statement).Completes :=
    fun _ => (hinserted _).before (plainToken .rparen ")") rfl
  have hvalue : forall statement, (Reading.value statement).Completes :=
    fun _ => (hmoreValues _).before (plainToken .identifier "x") rfl
  have hvaluesOpen : forall statement, (Reading.valuesOpen statement).Completes :=
    fun _ => (hvalue _).before (plainToken .lparen "(") rfl
  have hvaluesWord : forall statement, (Reading.valuesWord statement).Completes :=
    fun _ => (hvaluesOpen _).before (plainToken .identifier "VALUES") rfl
  have hmoreColumns : forall statement, (Reading.moreColumns statement).Completes :=
    fun _ => (hvaluesWord _).before (plainToken .rparen ")") rfl
  have hcolumn : forall statement, (Reading.column statement).Completes :=
    fun _ => (hmoreColumns _).before (plainToken .identifier "x") rfl
  have hinsertOpen : forall statement, (Reading.insertOpen statement).Completes :=
    fun _ => (hcolumn _).before (plainToken .lparen "(") rfl
  have hinsertTable : Reading.insertTable.Completes :=
    (hinsertOpen _).before (plainToken .identifier "x") rfl
  have hinto : Reading.into.Completes :=
    hinsertTable.before (plainToken .identifier "INTO") rfl
  have hconditioned : forall statement, (Reading.conditioned statement).Completes :=
    fun _ => (hfinish _).before (plainToken .semicolon ";") rfl
  have hwhereValue : forall statement name,
      (Reading.whereValue statement name).Completes :=
    fun _ _ => (hconditioned _).before (plainToken .identifier "x") rfl
  have hwhereEquals : forall statement name,
      (Reading.whereEquals statement name).Completes :=
    fun _ _ => (hwhereValue _ _).before (plainToken .equals "=") rfl
  have hwhereColumn : forall statement, (Reading.whereColumn statement).Completes :=
    fun _ => (hwhereEquals _ _).before (plainToken .identifier "x") rfl
  have hwhereWord : forall statement, (Reading.whereWord statement).Completes :=
    fun _ => (hfinish _).before (plainToken .semicolon ";") rfl
  have hselectTable : forall selectAll columns,
      (Reading.selectTable selectAll columns).Completes :=
    fun _ _ => (hwhereWord _).before (plainToken .identifier "x") rfl
  have hfromWord : Reading.fromWord.Completes :=
    (hselectTable _ _).before (plainToken .identifier "FROM") rfl
  have hmoreItems : forall columns, (Reading.moreItems columns).Completes :=
    fun _ => (hselectTable _ _).before (plainToken .identifier "FROM") rfl
  have hselectedItem : forall columns, (Reading.selectedItem columns).Completes :=
    fun _ => (hmoreItems _).before (plainToken .identifier "x") rfl
  have hselectedItems : Reading.selectedItems.Completes :=
    hfromWord.before (plainToken .star "*") rfl
  cases reading with
  | start => exact hinto.before (plainToken .identifier "INSERT") rfl
  | into => exact hinto
  | insertTable => exact hinsertTable
  | insertOpen statement => exact hinsertOpen statement
  | column statement => exact hcolumn statement
  | moreColumns statement => exact hmoreColumns statement
  | valuesWord statement => exact hvaluesWord statement
  | valuesOpen statement => exact hvaluesOpen statement
  | value statement => exact hvalue statement
  | moreValues statement => exact hmoreValues statement
  | inserted statement => exact hinserted statement
  | selectedItems => exact hselectedItems
  | selectedItem columns => exact hselectedItem columns
  | moreItems columns => exact hmoreItems columns
  | fromWord => exact hfromWord
  | selectTable selectAll columns => exact hselectTable selectAll columns
  | whereWord statement => exact hwhereWord statement
  | whereColumn statement => exact hwhereColumn statement
  | whereEquals statement name => exact hwhereEquals statement name
  | whereValue statement name => exact hwhereValue statement name
  | conditioned statement => exact hconditioned statement
  | finish statement => exact hfinish statement
  | done statement => exact hdone statement

theorem viable_iff_run (front : List Token) :
    Viable front <-> exists reading, Reading.start.run front = some reading := by
  constructor
  · intro hviable
    rcases hviable with ⟨more, statement, hgrammar⟩
    have hrun := sqlGrammar_iff_run.mp hgrammar
    have hfront : forall (tokens : List Token) (reading next : Reading),
        reading.run (tokens ++ more) = some next ->
          exists middle, reading.run tokens = some middle := by
      intro tokens
      induction tokens with
      | nil => exact fun reading _ _ => ⟨reading, rfl⟩
      | cons token tokens ih =>
          intro reading next h
          rw [List.cons_append, Reading.run] at h
          rw [Reading.run]
          cases hstep : reading.step token with
          | none =>
              rw [hstep] at h
              cases h
          | some after =>
              rw [hstep] at h
              exact ih after next h
    exact hfront front _ _ hrun
  · intro hread
    rcases hread with ⟨reading, hrun⟩
    rcases reading.completes with ⟨more, statement, hmore⟩
    exists more, statement
    rw [sqlGrammar_iff_run, Reading.run_append hrun, hmore]

theorem Reading.run_stops {reading left right : Reading} {bad other : Token}
    {rest more : List Token} (hbad : left.step bad = none)
    (hother : right.step other = none) : forall {front back : List Token},
      reading.run front = some left -> reading.run back = some right ->
        front ++ bad :: rest = back ++ other :: more ->
          front = back ∧ bad = other ∧ left = right := by
  intro front
  induction front generalizing reading with
  | nil =>
      intro back hfront hback htokens
      cases hfront
      cases back with
      | nil =>
          cases hback
          exact ⟨rfl, (List.cons.inj htokens).1, rfl⟩
      | cons token back =>
          rw [← (List.cons.inj htokens).1, run, hbad] at hback
          cases hback
  | cons token front ih =>
      intro back hfront hback htokens
      cases back with
      | nil =>
          cases hback
          rw [(List.cons.inj htokens).1, run, hother] at hfront
          cases hfront
      | cons first back =>
          have hfirst : token = first := (List.cons.inj htokens).1
          have hmore : front ++ bad :: rest = back ++ other :: more :=
            (List.cons.inj htokens).2
          subst hfirst
          rw [run] at hfront hback
          cases hstep : reading.step token with
          | none =>
              rw [hstep] at hfront
              cases hfront
          | some next =>
              rw [hstep] at hfront hback
              rcases ih hfront hback hmore with ⟨rfl, hsame⟩
              exact ⟨rfl, hsame⟩

theorem Reading.step_target {reading next : Reading} {token : Token}
    (h : reading.step token = some next) :
    next ≠ .start ∧ forall statement, next = .conditioned statement ->
      statement.condition ≠ none := by
  constructor
  · rintro rfl
    cases reading <;> simp only [step, onToken] at h <;> (repeat' split at h) <;> cases h
  · rintro statement rfl
    cases reading <;> simp only [step, onToken] at h <;> (repeat' split at h) <;>
      cases h
    exact nofun

theorem Reading.run_target {front : List Token} : forall {reading next : Reading},
    reading.run front = some next ->
      front = [] ∨ exists last token, Reading.step last token = some next := by
  induction front with
  | nil => exact fun _ => .inl rfl
  | cons token front ih =>
      intro reading next h
      rw [run] at h
      cases hstep : reading.step token with
      | none =>
          rw [hstep] at h
          cases h
      | some middle =>
          rw [hstep] at h
          rcases ih h with rfl | hlast
          · cases h
            exact .inr ⟨reading, token, hstep⟩
          · exact .inr hlast

theorem blocked_iff_stopped (tokens : List Token) (bad : Token) :
    Blocked tokens bad <->
      exists front rest reading,
        tokens = front ++ bad :: rest ∧ Reading.start.run front = some reading ∧
          reading.step bad = none := by
  constructor
  · rintro ⟨front, rest, htokens, hviable, hnot⟩
    rcases (viable_iff_run front).mp hviable with ⟨reading, hrun⟩
    refine ⟨front, rest, reading, htokens, hrun, ?_⟩
    cases hstep : reading.step bad with
    | none => rfl
    | some next =>
        exfalso
        apply hnot
        rw [viable_iff_run]
        exists next
        rw [Reading.run_append hrun, Reading.run_cons hstep]
        rfl
  · rintro ⟨front, rest, reading, htokens, hrun, hstep⟩
    refine ⟨front, rest, htokens, (viable_iff_run front).mpr ⟨reading, hrun⟩, ?_⟩
    rw [viable_iff_run, Reading.run_append hrun, Reading.run, hstep]
    exact fun h => absurd h (by simp)

theorem run_conditioned {statement : SelectStatement} {front : List Token}
    (h : StatementTokens (.selectStatement statement) front)
    (hcondition : statement.condition ≠ none) :
    Reading.start.run front = some (.conditioned statement) := by
  cases h with
  | select hselect hselected hfrom htable hconditionTokens =>
      cases hconditionTokens with
      | none => exact absurd rfl hcondition
      | condition hkeyword hcolumn hequals hvalue =>
          rw [Reading.run_append (run_select hselect hselected hfrom htable)]
          exact run_whereClause hkeyword hcolumn hequals hvalue

theorem statementTokens_of_run {statement : SelectStatement} {front : List Token}
    (h : Reading.start.run front = some (.conditioned statement)) :
    StatementTokens (.selectStatement statement) front ∧ statement.condition ≠ none := by
  constructor
  · have hwhole : SqlGrammar (.selectStatement statement)
        (front ++ [plainToken .semicolon ";", plainToken .end ""]) := by
      rw [sqlGrammar_iff_run, Reading.run_append h]
      rfl
    generalize htokens : front ++ [plainToken .semicolon ";", plainToken .end ""] =
      tokens at hwhole
    cases hwhole with
    | whole hstatement hsemicolon hlast =>
        rw [(List.append_inj' htokens rfl).1]
        exact hstatement
  · rcases Reading.run_target h with rfl | ⟨last, token, hstep⟩
    · cases h
    · exact (Reading.step_target hstep).2 statement rfl

end Sql
end SqlCsvServer
