import SqlCsvServer.Execution.IndexRun

/-!
# Which rows an INSERT can build

The checks are split: `validate_insert_columns` runs before the id is taken and
`build_insert_row` behind it.  Together they accept a statement by its pairs of a
column and a value alone, in whichever order these stand.
-/

namespace SqlCsvServer
namespace Execution

open Foundation Common Storage Index Sql

/-- `validate_insert_columns` and then `build_insert_row`. -/
def checkedInsertRow (statement : InsertStatement) (schema : Schema) :
    Except Bytes (List Bytes) :=
  match validateInsertColumns statement schema with
  | some text => .error text
  | none => buildInsertRow statement schema

def insertPairs (statement : InsertStatement) : List (Bytes × Bytes) :=
  statement.columns.zip statement.values

structure PairsAccepted (schema : Schema) (pairs : List (Bytes × Bytes)) : Prop where
  known : forall pair, pair ∈ pairs -> pair.1 ∈ schema.columns
  oneLine : forall pair, pair ∈ pairs -> containsNewline pair.2 = false
  distinct : (pairs.map Prod.fst).Nodup

/-!
## Columns and their slots
-/

section Slots

variable {schema : Schema} {pairs : List (Bytes × Bytes)}

theorem schemaFindColumn_eq_some_iff {column : Bytes} {schemaIndex : Nat} :
    schemaFindColumn schema column = some schemaIndex <->
      column ∈ schema.columns ∧ schema.columns.idxOf column = schemaIndex := by
  unfold schemaFindColumn stringListIndexOf
  rw [List.findIdx?_eq_some_iff_findIdx_eq]
  have hsame : schema.columns.findIdx (fun item => decide (item = column)) =
      schema.columns.idxOf column := by
    unfold List.idxOf
    congr 1
    funext item
    rw [Bool.eq_iff_iff, decide_eq_true_iff, beq_iff_eq]
  rw [hsame]
  constructor
  · rintro ⟨hlt, hindex⟩
    rw [← hindex] at hlt
    exact ⟨List.idxOf_lt_length_iff.mp hlt, hindex⟩
  · rintro ⟨hmem, hindex⟩
    rw [← hindex]
    exact ⟨List.idxOf_lt_length_iff.mpr hmem, rfl⟩

theorem schemaFindColumn_inj {first second : Bytes} {schemaIndex : Nat}
    (hfirst : schemaFindColumn schema first = some schemaIndex)
    (hsecond : schemaFindColumn schema second = some schemaIndex) : first = second := by
  rw [schemaFindColumn_eq_some_iff] at hfirst hsecond
  exact (List.idxOf_inj hfirst.1).mp (hfirst.2.trans hsecond.2.symm)

theorem givenValue_eq_some_iff (hdistinct : (pairs.map Prod.fst).Nodup)
    {schemaIndex : Nat} {value : Bytes} :
    givenValue schema schemaIndex pairs = some value <->
      exists column,
        (column, value) ∈ pairs ∧ schemaFindColumn schema column = some schemaIndex := by
  induction pairs with
  | nil => simp [givenValue]
  | cons head pairs ih =>
      rcases head with ⟨column, given⟩
      rw [List.map_cons, List.nodup_cons] at hdistinct
      by_cases hslot : schemaFindColumn schema column = some schemaIndex
      · rw [givenValue, if_pos hslot]
        constructor
        · intro hvalue
          rw [← Option.some.inj hvalue]
          exact ⟨column, List.mem_cons_self, hslot⟩
        · rintro ⟨other, hmem, hother⟩
          have hsame := schemaFindColumn_inj hother hslot
          subst hsame
          rcases List.mem_cons.mp hmem with heq | hmem
          · rw [(Prod.mk.inj heq).2]
          · exact absurd (List.mem_map_of_mem hmem) hdistinct.1
      · rw [givenValue, if_neg hslot, ih hdistinct.2]
        constructor
        · rintro ⟨other, hmem, hother⟩
          exact ⟨other, List.mem_cons_of_mem _ hmem, hother⟩
        · rintro ⟨other, hmem, hother⟩
          rcases List.mem_cons.mp hmem with heq | hmem
          · rw [(Prod.mk.inj heq).1] at hother
            exact absurd hother hslot
          · exact ⟨other, hmem, hother⟩

end Slots

/-!
## The checks
-/

section Checks

variable {schema : Schema}

theorem validateColumnsLoop_eq_none_iff (haccepted : SchemaAccepted schema)
    {pairs : List (Bytes × Bytes)} :
    validateColumnsLoop schema pairs = none <->
      forall pair, pair ∈ pairs ->
        pair.1 ∈ schema.columns ∧ containsNewline pair.2 = false := by
  constructor
  · exact validateColumnsLoop_ok
  · intro h
    induction pairs with
    | nil => rfl
    | cons head pairs ih =>
        rcases head with ⟨column, value⟩
        rcases h _ List.mem_cons_self with ⟨hknown, honeLine⟩
        have hid : column ≠ ascii "id" :=
          fun heq => haccepted.id_not_column (heq ▸ hknown)
        have hfound : ¬ (schemaFindColumn schema column).isNone = true := by
          rw [Option.isNone_iff_eq_none, schemaFindColumn_eq_none_iff, not_not]
          exact hknown
        have honeLine' : ¬ containsNewline value = true := by
          rw [honeLine]
          exact Bool.false_ne_true
        rw [validateColumnsLoop, if_neg hid, if_neg hfound, if_neg honeLine']
        exact ih fun pair hpair => h pair (List.mem_cons_of_mem _ hpair)

theorem assignLoop_succeeds_iff {pairs : List (Bytes × Bytes)}
    (hknown : forall pair, pair ∈ pairs -> pair.1 ∈ schema.columns) :
    forall {assigned : List Bool} {rowValues : List Bytes},
      assigned.length = schema.columns.length ->
      ((exists row, assignLoop schema pairs assigned rowValues = .ok row) <->
        (pairs.map Prod.fst).Nodup ∧
          forall pair, pair ∈ pairs ->
            assigned.getD (schema.columns.idxOf pair.1) false = false) := by
  induction pairs with
  | nil =>
      intro assigned rowValues _
      simp [assignLoop]
  | cons head pairs ih =>
      intro assigned rowValues hlength
      rcases head with ⟨column, value⟩
      have hcolumn := hknown _ List.mem_cons_self
      have hmore : forall pair, pair ∈ pairs -> pair.1 ∈ schema.columns :=
        fun pair hpair => hknown pair (List.mem_cons_of_mem _ hpair)
      have hslot : schemaFindColumn schema column = some (schema.columns.idxOf column) :=
        schemaFindColumn_eq_some_iff.mpr ⟨hcolumn, rfl⟩
      have hlt : schema.columns.idxOf column < assigned.length :=
        hlength ▸ List.idxOf_lt_length_iff.mpr hcolumn
      -- the flag of the slot stands for the pairs in front
      have hset : forall other, other ∈ schema.columns ->
          ((assigned.set (schema.columns.idxOf column) true).getD
              (schema.columns.idxOf other) false = false <->
            other ≠ column ∧ assigned.getD (schema.columns.idxOf other) false = false) := by
        intro other hother
        by_cases hsame : other = column
        · subst hsame
          simp [List.getD_eq_getElem?_getD, hlt]
        · have hne : schema.columns.idxOf column ≠ schema.columns.idxOf other :=
            fun heq => hsame ((List.idxOf_inj hcolumn).mp heq).symm
          simp [List.getD_eq_getElem?_getD, List.getElem?_set_ne hne, hsame]
      unfold assignLoop
      simp only [hslot]
      by_cases htaken : assigned.getD (schema.columns.idxOf column) false = true
      · rw [if_pos htaken]
        constructor
        · rintro ⟨row, hrow⟩
          cases hrow
        · rintro ⟨_, hfree⟩
          have hfirst := hfree _ List.mem_cons_self
          rw [htaken] at hfirst
          cases hfirst
      · rw [if_neg htaken, ih hmore (by rw [List.length_set, hlength])]
        simp only [List.map_cons, List.nodup_cons, List.forall_mem_cons]
        rw [Bool.not_eq_true] at htaken
        constructor
        · rintro ⟨hdistinct, hfree⟩
          refine ⟨⟨?_, hdistinct⟩, htaken, ?_⟩
          · intro hmem
            rcases List.mem_map.mp hmem with ⟨pair, hpair, heq⟩
            exact ((hset pair.1 (hmore pair hpair)).mp (hfree pair hpair)).1 heq
          · exact fun pair hpair =>
              ((hset pair.1 (hmore pair hpair)).mp (hfree pair hpair)).2
        · rintro ⟨⟨hfresh, hdistinct⟩, _, hfree⟩
          refine ⟨hdistinct, ?_⟩
          intro pair hpair
          refine (hset pair.1 (hmore pair hpair)).mpr ⟨?_, hfree pair hpair⟩
          intro heq
          rw [← heq] at hfresh
          exact hfresh (List.mem_map_of_mem hpair)

theorem buildInsertRow_succeeds_iff {statement : InsertStatement}
    (hknown : forall pair, pair ∈ insertPairs statement -> pair.1 ∈ schema.columns) :
    (exists row, buildInsertRow statement schema = .ok row) <->
      ((insertPairs statement).map Prod.fst).Nodup := by
  show (exists row, assignLoop schema (insertPairs statement) _ _ = .ok row) <-> _
  rw [assignLoop_succeeds_iff hknown (List.length_replicate ..), and_iff_left]
  · intro pair hpair
    have hlt := List.idxOf_lt_length_iff.mpr (hknown pair hpair)
    simp [List.getD_eq_getElem?_getD, hlt]

theorem checkedInsertRow_succeeds_iff (haccepted : SchemaAccepted schema)
    {statement : InsertStatement} :
    (exists row, checkedInsertRow statement schema = .ok row) <->
      statement.columns.length = statement.values.length ∧
        PairsAccepted schema (insertPairs statement) := by
  unfold checkedInsertRow validateInsertColumns
  by_cases hlength : statement.columns.length = statement.values.length
  · rw [if_neg (not_not_intro hlength)]
    cases hloop : validateColumnsLoop schema (statement.columns.zip statement.values) with
    | none =>
        have hpairs := (validateColumnsLoop_eq_none_iff haccepted).mp hloop
        simp only [buildInsertRow_succeeds_iff fun pair hpair => (hpairs pair hpair).1]
        constructor
        · exact fun hdistinct => ⟨hlength, fun pair hpair => (hpairs pair hpair).1,
            fun pair hpair => (hpairs pair hpair).2, hdistinct⟩
        · exact fun h => h.2.distinct
    | some text =>
        constructor
        · rintro ⟨row, hrow⟩
          cases hrow
        · intro h
          have hnone : validateColumnsLoop schema
              (statement.columns.zip statement.values) = none :=
            (validateColumnsLoop_eq_none_iff haccepted).mpr
              fun pair hpair => ⟨h.2.known pair hpair, h.2.oneLine pair hpair⟩
          rw [hnone] at hloop
          cases hloop
  · rw [if_pos hlength]
    constructor
    · rintro ⟨row, hrow⟩
      cases hrow
    · exact fun h => absurd h.1 hlength

theorem checkedInsertRow_eq_expectedRow {statement : InsertStatement} {row : List Bytes}
    (h : checkedInsertRow statement schema = .ok row) :
    row = expectedRow statement schema := by
  unfold checkedInsertRow at h
  cases hvalid : validateInsertColumns statement schema with
  | some text =>
      rw [hvalid] at h
      cases h
  | none =>
      rw [hvalid] at h
      exact buildInsertRow_eq_expectedRow h

end Checks

/-!
## The row
-/

section Row

variable {schema : Schema} {statement other : InsertStatement}

theorem expectedRow_slot {schemaIndex : Nat} (h : schemaIndex < schema.columns.length) :
    (expectedRow statement schema)[schemaIndex]? =
      some ((givenValue schema schemaIndex (insertPairs statement)).getD []) := by
  unfold expectedRow
  rw [List.getElem?_map, List.getElem?_range h]
  rfl

theorem expectedRow_given (haccepted : PairsAccepted schema (insertPairs statement))
    {column value : Bytes} (hpair : (column, value) ∈ insertPairs statement) :
    (expectedRow statement schema)[schema.columns.idxOf column]? = some value := by
  have hknown := haccepted.known _ hpair
  have hgiven : givenValue schema (schema.columns.idxOf column)
      (insertPairs statement) = some value :=
    (givenValue_eq_some_iff haccepted.distinct).mpr
      ⟨column, hpair, schemaFindColumn_eq_some_iff.mpr ⟨hknown, rfl⟩⟩
  rw [expectedRow_slot (List.idxOf_lt_length_iff.mpr hknown), hgiven]
  rfl

theorem expectedRow_other (haccepted : PairsAccepted schema (insertPairs statement))
    {schemaIndex : Nat} (hlt : schemaIndex < schema.columns.length)
    (hother : forall column, column ∈ statement.columns ->
      schema.columns.idxOf column ≠ schemaIndex) :
    (expectedRow statement schema)[schemaIndex]? = some [] := by
  have hnone : givenValue schema schemaIndex (insertPairs statement) = none := by
    rw [Option.eq_none_iff_forall_ne_some]
    intro value hvalue
    rcases (givenValue_eq_some_iff haccepted.distinct).mp hvalue with
      ⟨column, hpair, hslot⟩
    exact hother column (List.of_mem_zip hpair).1
      (schemaFindColumn_eq_some_iff.mp hslot).2
  rw [expectedRow_slot hlt, hnone]
  rfl

theorem PairsAccepted.perm {pairs more : List (Bytes × Bytes)}
    (h : PairsAccepted schema pairs) (hperm : pairs.Perm more) :
    PairsAccepted schema more where
  known := fun pair hpair => h.known pair (hperm.mem_iff.mpr hpair)
  oneLine := fun pair hpair => h.oneLine pair (hperm.mem_iff.mpr hpair)
  distinct := (hperm.map Prod.fst).nodup_iff.mp h.distinct

theorem expectedRow_perm (haccepted : PairsAccepted schema (insertPairs statement))
    (hperm : (insertPairs statement).Perm (insertPairs other)) :
    expectedRow other schema = expectedRow statement schema := by
  unfold expectedRow
  apply List.map_congr_left
  intro schemaIndex _
  have hsame : givenValue schema schemaIndex (insertPairs other) =
      givenValue schema schemaIndex (insertPairs statement) := by
    apply Option.ext
    intro value
    rw [givenValue_eq_some_iff (haccepted.perm hperm).distinct,
      givenValue_eq_some_iff haccepted.distinct]
    simp only [hperm.mem_iff]
  exact congrArg (fun given => given.getD []) hsame

theorem pairsAccepted_iff (hlength : statement.columns.length = statement.values.length) :
    PairsAccepted schema (insertPairs statement) <->
      (forall column, column ∈ statement.columns -> column ∈ schema.columns) ∧
        statement.columns.Nodup ∧
        forall value, value ∈ statement.values -> containsNewline value = false := by
  have hcolumns : (insertPairs statement).map Prod.fst = statement.columns :=
    List.map_fst_zip (Nat.le_of_eq hlength)
  have hvalues : (insertPairs statement).map Prod.snd = statement.values :=
    List.map_snd_zip (Nat.le_of_eq hlength.symm)
  constructor
  · intro h
    refine ⟨?_, hcolumns ▸ h.distinct, ?_⟩
    · intro column hcolumn
      rw [← hcolumns] at hcolumn
      rcases List.mem_map.mp hcolumn with ⟨pair, hpair, rfl⟩
      exact h.known pair hpair
    · intro value hvalue
      rw [← hvalues] at hvalue
      rcases List.mem_map.mp hvalue with ⟨pair, hpair, rfl⟩
      exact h.oneLine pair hpair
  · rintro ⟨hknown, hdistinct, honeLine⟩
    constructor
    · exact fun pair hpair => hknown _ (hcolumns ▸ List.mem_map_of_mem hpair)
    · exact fun pair hpair => honeLine _ (hvalues ▸ List.mem_map_of_mem hpair)
    · rw [hcolumns]
      exact hdistinct

theorem containsNewline_eq_false_iff {value : Bytes} :
    containsNewline value = false <->
      Byte.carriageReturn ∉ value ∧ Byte.lineFeed ∉ value := by
  unfold containsNewline isLineEnding
  rw [List.any_eq_false]
  constructor
  · intro h
    constructor
    · exact fun hmem => h _ hmem (by decide)
    · exact fun hmem => h _ hmem (by decide)
  · rintro ⟨hreturn, hfeed⟩ b hb
    simp only [Bool.or_eq_true, beq_iff_eq, not_or]
    exact ⟨fun heq => hfeed (heq ▸ hb), fun heq => hreturn (heq ▸ hb)⟩

theorem checkedInsertRow_perm (haccepted : SchemaAccepted schema)
    (hlength : statement.columns.length = statement.values.length)
    (hother : other.columns.length = other.values.length)
    (hperm : (insertPairs statement).Perm (insertPairs other)) :
    (checkedInsertRow other schema).toOption =
      (checkedInsertRow statement schema).toOption := by
  by_cases haccept : PairsAccepted schema (insertPairs statement)
  · rcases (checkedInsertRow_succeeds_iff haccepted).mpr ⟨hlength, haccept⟩ with
      ⟨row, hrow⟩
    rcases (checkedInsertRow_succeeds_iff haccepted).mpr
      ⟨hother, haccept.perm hperm⟩ with ⟨more, hmore⟩
    rw [hrow, hmore, checkedInsertRow_eq_expectedRow hrow,
      checkedInsertRow_eq_expectedRow hmore, expectedRow_perm haccept hperm]
  · have hfails : forall again : InsertStatement,
        ¬ PairsAccepted schema (insertPairs again) ->
          (checkedInsertRow again schema).toOption = none := by
      intro again hrefused
      cases hbuilt : checkedInsertRow again schema with
      | error text => rfl
      | ok row =>
          exact absurd ((checkedInsertRow_succeeds_iff haccepted).mp ⟨row, hbuilt⟩).2
            hrefused
    rw [hfails statement haccept,
      hfails other fun hmore => haccept (hmore.perm hperm.symm)]

end Row

/--
A row is built of known columns, none of them twice, and of as many values on one
line; it holds the values at the slots of their columns and nothing elsewhere; and
pairs in another order give the same.
-/
theorem insert_row_building {schemaDir : SchemaDir} {dataDir : DataDir}
    {tableName : Bytes} {schema : Schema}
    (hload : loadSchema schemaDir dataDir tableName = .ok schema)
    (statement : InsertStatement) :
    ((exists row, checkedInsertRow statement schema = .ok row) <->
      statement.columns.length = statement.values.length ∧
        (forall column, column ∈ statement.columns -> column ∈ schema.columns) ∧
        statement.columns.Nodup ∧
        forall value, value ∈ statement.values ->
          Byte.carriageReturn ∉ value ∧ Byte.lineFeed ∉ value) ∧
      (forall row, checkedInsertRow statement schema = .ok row ->
        row.length = schema.columns.length ∧
          (forall column value,
            (column, value) ∈ statement.columns.zip statement.values ->
              row[schema.columns.idxOf column]? = some value) ∧
          forall schemaIndex, schemaIndex < schema.columns.length ->
            (forall column, column ∈ statement.columns ->
              schema.columns.idxOf column ≠ schemaIndex) ->
                row[schemaIndex]? = some []) ∧
      forall other : InsertStatement,
        statement.columns.length = statement.values.length ->
          other.columns.length = other.values.length ->
            (statement.columns.zip statement.values).Perm
                (other.columns.zip other.values) ->
              (checkedInsertRow other schema).toOption =
                (checkedInsertRow statement schema).toOption := by
  have haccepted := readSchema_accepted (loadSchema_eq_ok_iff.mp hload).1
  refine ⟨?_, ?_, ?_⟩
  · rw [checkedInsertRow_succeeds_iff haccepted]
    apply and_congr_right
    intro hlength
    rw [pairsAccepted_iff hlength]
    simp only [containsNewline_eq_false_iff]
  · intro row hrow
    have haccept := ((checkedInsertRow_succeeds_iff haccepted).mp ⟨row, hrow⟩).2
    rw [checkedInsertRow_eq_expectedRow hrow]
    exact ⟨expectedRow_length, fun column value hpair => expectedRow_given haccept hpair,
      fun schemaIndex hlt hother => expectedRow_other haccept hlt hother⟩
  · intro other hlength hother hperm
    exact checkedInsertRow_perm haccepted hlength hother hperm

theorem insert_row_building_sample :
    (exists row, checkedInsertRow sampleTownInsert sampleTownSchema = .ok row ∧
      row[0]? = some (ascii "d") ∧ row[1]? = some (ascii "z")) ∧
      exists row, checkedInsertRow
          { sampleTownInsert with columns := [ascii "town"], values := [ascii "z"] }
          sampleTownSchema = .ok row ∧
        row[0]? = some [] ∧ row[1]? = some (ascii "z") := by
  have hload : loadSchema sampleTablesDir sampleTablesData (ascii "u") =
      .ok sampleTownSchema := by
    decide
  have hboth := insert_row_building hload sampleTownInsert
  have hone := insert_row_building hload
    { sampleTownInsert with columns := [ascii "town"], values := [ascii "z"] }
  rcases hboth.1.mpr (by decide) with ⟨row, hrow⟩
  rcases hone.1.mpr (by decide) with ⟨short, hshort⟩
  have hgiven := (hboth.2.1 row hrow).2.1
  have hfilled := (hone.2.1 short hshort).2
  exact ⟨⟨row, hrow, hgiven (ascii "name") (ascii "d") (by decide),
      hgiven (ascii "town") (ascii "z") (by decide)⟩,
    short, hshort, hfilled.2 0 (by decide) (by decide),
    hfilled.1 (ascii "town") (ascii "z") (by decide)⟩

end Execution
end SqlCsvServer
