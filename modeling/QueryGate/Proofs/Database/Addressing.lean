import Mathlib.Data.List.Basic
import QueryGate.Proofs.Database.Lookups
import QueryGate.Proofs.Database.Statements
import QueryGate.Proofs.Database.Translation
import QueryGate.Proofs.Sql.Decoding

/-!
# The table that a look-up addresses

The details of a table are read with two statements. The first names the table by its parameters,
the second one in its text. Both name the same table, and the second one is passed only behind
columns that the first one gave. Names without a quotation reach neither.
-/

namespace QueryGate.Service

open QueryGate.Sql

variable {schema table sample : String} {s s' : Service} {events : List Event}

theorem Fetches.passedStatements {sql : String} {parameters : List String}
    {r : Except Fault (List Entries)} (h : Fetches sql parameters s events r s') :
    passedStatements events = [(sql, parameters)] := by
  cases h with
  | failed fault => rfl
  | unfetched fault => rfl
  | fetched rows => rfl

/-- A statement is passed once, and nothing stands before it. -/
theorem Fetches.eq_cons {sql : String} {parameters : List String}
    {r : Except Fault (List Entries)} (h : Fetches sql parameters s events r s') :
    ∃ ending after, events = ⟨.execute sql parameters, ending⟩ :: after ∧
      QueryGate.passedStatements after = [] := by
  cases h with
  | failed fault => exact ⟨_, _, rfl, rfl⟩
  | unfetched fault => exact ⟨_, _, rfl, rfl⟩
  | fetched rows => exact ⟨_, _, rfl, rfl⟩

/-- The calls that gave the columns of a table. -/
def columnsRead (schema table : String) (rows : List Value) : List Event :=
  [⟨.execute columnsQuery [schema, table], .done⟩, ⟨.fetchAll, .fetched rows⟩]

/-- Of the events, some pass the query for columns at most; or the calls that gave columns come
first, then sample rows are asked for, and no statement is passed after that. -/
inductive AsksTable (schema table sample : String) (front : List Value → List Event) :
    List Event → Prop where
  | columns {events : List Event}
      (h : passedStatements events <+: [(columnsQuery, [schema, table])]) :
      AsksTable schema table sample front events
  | samples {rows : List Value} (hrows : rows ≠ []) (ending : Ending) {after : List Event}
      (h : passedStatements after = []) :
      AsksTable schema table sample front (front rows ++ ⟨.execute sample [], ending⟩ :: after)

section

variable {front : List Value → List Event}

theorem AsksTable.append {more : List Event} (h : AsksTable schema table sample front events)
    (hmore : passedStatements more = []) :
    AsksTable schema table sample front (events ++ more) := by
  cases h with
  | columns h => exact .columns (by simpa [hmore] using h)
  | samples hrows ending h =>
    simpa using AsksTable.samples hrows ending (by simp [h, hmore])

theorem AsksTable.cons {event : Event} (h : AsksTable schema table sample front events)
    (hevent : event.statement? = none) :
    AsksTable schema table sample (fun rows => event :: front rows) (event :: events) := by
  cases h with
  | columns h => exact .columns (by rwa [passedStatements_cons hevent])
  | samples hrows ending h => exact AsksTable.samples hrows ending h

end

theorem ReadsTable.asksTable {r : Except Fault (List Entries × List Entries)}
    (h : ReadsTable schema table sample s events r s') :
    AsksTable schema table sample (columnsRead schema table) events := by
  cases h with
  | unread columns => exact .columns (columns.passedStatements ▸ List.prefix_rfl)
  | missing columns => exact .columns (columns.passedStatements ▸ List.prefix_rfl)
  | @sampled _ _ columns _ _ _ first hcolumns next =>
    obtain ⟨rows, hentries, rfl⟩ := first.eq_of_ok rfl
    obtain ⟨ending, after, rfl, hafter⟩ := next.eq_cons
    have hrows : rows ≠ [] := by
      rintro rfl
      exact hcolumns (Except.ok.inj hentries).symm
    exact .samples hrows ending hafter

/-- The calls that gave the columns of a table, with the cursor that they were made on. -/
def columnsOnCursor (schema table : String) (rows : List Value) : List Event :=
  ⟨.openCursor true, .done⟩ :: columnsRead schema table rows

/-- The calls that gave the columns of a table, from the checkout on. -/
def columnsFront (pool : Nat) (schema table : String) (rows : List Value) : List Event :=
  ⟨.checkOut pool, .done⟩ :: columnsOnCursor schema table rows

theorem UsesCursor.asksTable {r : Except Fault (List Entries × List Entries)}
    (h : UsesCursor true (ReadsTable schema table sample) s events r s') :
    AsksTable schema table sample (columnsOnCursor schema table) events := by
  cases h with
  | refused fault => exact .columns List.nil_prefix
  | used run => exact (run.asksTable.append rfl).cons rfl

theorem Reverts.asksTable {report : Fault → Option Fault}
    {r : Except Fault (List Entries × List Entries)}
    (h : Reverts report (Looks true (ReadsTable schema table sample)) s events r s') :
    AsksTable schema table sample (columnsOnCursor schema table) events := by
  have hrollback (events : List Event) (ending : Ending)
      (asks : AsksTable schema table sample (columnsOnCursor schema table) events) :
      AsksTable schema table sample (columnsOnCursor schema table)
        (events ++ [⟨.rollback, ending⟩]) := asks.append rfl
  have hlooks (events : List Event) (r : Except Fault (List Entries × List Entries))
      (looks : Looks true (ReadsTable schema table sample) s events r s') :
      AsksTable schema table sample (columnsOnCursor schema table) events :=
    looks.calls_have (fun _ _ => UsesCursor.asksTable) hrollback
  exact h.calls_have hlooks hrollback

theorem Connects.asksTable {report : Fault → Option Fault}
    {r : Except Fault (List Entries × List Entries)}
    (h : Connects (Reverts report (Looks true (ReadsTable schema table sample))) s events r s') :
    passedStatements events = [] ∨ ∃ pool, s.pool = some pool ∧
      AsksTable schema table sample (columnsFront pool schema table) events := by
  cases h with
  | closed hpool => exact .inl rfl
  | refused hpool fault => exact .inl rfl
  | used hpool run => exact .inr ⟨_, hpool, (run.asksTable.append rfl).cons rfl⟩
  | stuck hpool run fault => exact .inr ⟨_, hpool, (run.asksTable.append rfl).cons rfl⟩

/-- The columns of the table are asked for by parameters, and then rows of the same table by a text
from which it can be read back. The text is passed on a connection of the pool, right behind the
columns that were fetched, of which there is at least one. -/
structure Addresses (schema table : String) (s : Service) (events : List Event) : Prop where
  statements : ∃ sample, decodeRowsQuery sample = some (schema, table, 50) ∧
    passedStatements events <+: [(columnsQuery, [schema, table]), (sample, [])]
  behind : ∀ before sql ending after,
    events = before ++ ⟨.execute sql [], ending⟩ :: after →
      ∃ pool rows, s.pool = some pool ∧ rows ≠ [] ∧ before = columnsFront pool schema table rows

theorem Addresses.of_columns (hsample : decodeRowsQuery sample = some (schema, table, 50))
    (h : passedStatements events <+: [(columnsQuery, [schema, table])]) :
    Addresses schema table s events where
  statements := ⟨sample, hsample, h.trans (List.prefix_append _ [(sample, [])])⟩
  behind := by
    rintro before sql ending after rfl
    have hmem : (sql, []) ∈ passedStatements (before ++ ⟨.execute sql [], ending⟩ :: after) := by
      simp
    simpa using h.mem hmem

theorem AsksTable.addresses {pool : Nat} (hpool : s.pool = some pool)
    (hsample : decodeRowsQuery sample = some (schema, table, 50))
    (h : AsksTable schema table sample (columnsFront pool schema table) events) :
    Addresses schema table s events := by
  cases h with
  | columns h => exact .of_columns hsample h
  | @samples rows hrows ending after hafter =>
    have hfront : passedStatements (columnsFront pool schema table rows) =
        [(columnsQuery, [schema, table])] := rfl
    refine ⟨⟨sample, hsample, by simp [hfront, hafter]⟩, ?_⟩
    intro before sql ending' after' hevents
    -- Only the query for columns stands before the text, and it has parameters.
    have hbefore : ⟨.execute sql [], ending'⟩ ∉ columnsFront pool schema table rows := by
      intro hmem
      simpa [hfront] using mem_passedStatements hmem
    have hrest : ⟨.execute sql [], ending'⟩ ∉ after := by
      intro hmem
      simpa [hafter] using mem_passedStatements hmem
    obtain ⟨rfl, -, -⟩ := (List.append_cons_inj_of_notMem hbefore hrest).mp hevents
    exact ⟨pool, rows, hpool, hrows, rfl⟩

/-- The table has a name that is empty or cannot be quoted. -/
def Unaddressable (schema table : String) : Prop :=
  schema = "" ∨ table = "" ∨ HasNull schema ∨ HasNull table

theorem Describes.addresses {r : Except Fault TableRows}
    (h : Describes schema table s events r s') :
    (Unaddressable schema table → events = []) ∧
      (¬ Unaddressable schema table → Addresses schema table s events) := by
  cases h with
  | unnamed hname message =>
    refine ⟨fun _ => rfl, fun haddress => absurd ?_ haddress⟩
    exact hname.elim .inl fun htable => .inr (.inl htable)
  | unquotable hquery =>
    refine ⟨fun _ => rfl, fun haddress => absurd hquery ?_⟩
    simp only [Unaddressable, not_or] at haddress
    obtain ⟨-, -, hschema, htable⟩ := haddress
    obtain ⟨query, hok⟩ := sampleRowsQuery_of_not_hasNull hschema htable sampleRowLimit
    simp [hok]
  | looked hschema htable hquery run =>
    have hsample := decodeRowsQuery_sampleRowsQuery hquery
    refine ⟨fun hname => ?_, fun _ => ?_⟩
    · have hnull : HasNull schema ∨ HasNull table :=
        (hname.resolve_left hschema).resolve_left htable
      rw [sampleRowsQuery_of_hasNull hnull] at hquery
      cases hquery
    · rcases run.asksTable with hsilent | ⟨pool, hpool, hasks⟩
      · exact .of_columns hsample (hsilent ▸ List.nil_prefix)
      · exact hasks.addresses hpool hsample

/-- Queries for rows are read back as the schema, the table and the limit that they were made of,
and names can be qualified without a clash unless one holds a null character, which is reported.
So both statements of a look-up address the same table, and a table that cannot be addressed is
refused without a call. -/
theorem generated_queries_address :
    (∀ schema table limit query, sampleRowsQueryOf schema table limit = .ok query →
      ∃ n, limit.toInteger = .ok n ∧ decodeRowsQuery query = some (schema, table, n)) ∧
    (∀ schema table schema' table' name, qualifiedName schema table = .ok name →
      qualifiedName schema' table' = .ok name → schema = schema' ∧ table = table') ∧
    (∀ schema table, HasNull schema ∨ HasNull table →
      qualifiedName schema table = .error ⟨if HasNull schema then schema else table⟩ ∧
        ∀ limit, sampleRowsQueryOf schema table limit =
          .error (Fault.ofUnsafeIdentifier ⟨if HasNull schema then schema else table⟩)) ∧
    (∀ schema table, ¬ HasNull schema → ¬ HasNull table →
      (∃ name, qualifiedName schema table = .ok name) ∧
        ∀ limit n digits, limit.toInteger = .ok n → integerText n = .ok digits →
          ∃ query, sampleRowsQueryOf schema table limit = .ok query) ∧
    ∀ schema table (stage : Stage Service), ∃ events,
      ((tableDetails schema table).start stage).2.world.journal = stage.world.journal ++ events ∧
        (Unaddressable schema table → events = []) ∧
        (¬ Unaddressable schema table → Addresses schema table stage.self events) := by
  refine ⟨fun _ _ _ _ => decodeRowsQuery_sampleRowsQueryOf,
    fun _ _ _ _ _ => qualifiedName_injective, fun schema table hnull => ?_,
    fun schema table hschema htable => ?_, fun schema table stage => ?_⟩
  · exact ⟨qualifiedName_of_hasNull hnull, sampleRowsQueryOf_of_hasNull hnull⟩
  · exact ⟨qualifiedName_of_not_hasNull hschema htable,
      fun _ _ _ => sampleRowsQueryOf_of_not_hasNull hschema htable⟩
  · have hshows : (tableDetails schema table).Shows (Describes schema table) := tableDetails_shows
    obtain ⟨events, hjournal, hdescribes⟩ := hshows stage
    exact ⟨events, hjournal, hdescribes.addresses⟩

/-- Names with quotes, a point and a limit in them are read back and looked up, and a null
character is seen before any call. -/
theorem generated_queries_address_awkward :
    decodeRowsQuery "SELECT * FROM \"a\"\".\"\"b\".\"c\"\" LIMIT 3\" LIMIT 50" =
        some ("a\".\"b", "c\" LIMIT 3", 50) ∧
      Addresses "a\".\"b" "c\" LIMIT 3" (openStage {}).self
        ((tableDetails "a\".\"b" "c\" LIMIT 3").start (openStage {})).2.world.journal ∧
      ((tableDetails "\x00" "t").start (openStage {})).2.world.journal = [] := by
  have hname : qualifiedName "a\".\"b" "c\" LIMIT 3" =
      .ok "\"a\"\".\"\"b\".\"c\"\" LIMIT 3\"" := rfl
  have hlimit : integerText 50 = .ok "50" := integerText_of_lt_hundred (by decide)
  have hquery : sampleRowsQueryOf "a\".\"b" "c\" LIMIT 3" (.int 50) =
      .ok "SELECT * FROM \"a\"\".\"\"b\".\"c\"\" LIMIT 3\" LIMIT 50" := by
    simp only [sampleRowsQueryOf, hname, Except.mapError, Value.toInteger, bind, Except.bind,
      hlimit, pure, Except.pure]
    rfl
  have hnamed : ¬ Unaddressable "a\".\"b" "c\" LIMIT 3" := by
    unfold Unaddressable
    decide
  have hnull : Unaddressable "\x00" "t" := .inr (.inr (.inl (by decide)))
  obtain ⟨hdecoded, -, -, -, hcalls⟩ := generated_queries_address
  refine ⟨?_, ?_, ?_⟩
  · obtain ⟨n, hn, hread⟩ := hdecoded _ _ _ _ hquery
    obtain rfl : 50 = n := Except.ok.inj hn
    exact hread
  · obtain ⟨events, hjournal, -, haddresses⟩ := hcalls "a\".\"b" "c\" LIMIT 3" (openStage {})
    rw [hjournal]
    exact haddresses hnamed
  · obtain ⟨events, hjournal, hnone, -⟩ := hcalls "\x00" "t" (openStage {})
    rw [hjournal, hnone hnull]
    rfl

/-- Where a column was fetched, both statements are passed. -/
example :
    passedStatements ((tableDetails "a\".\"b" "t").start
      (openStage { fetchAll := [some (.ok [.object []])] })).2.world.journal =
        [(columnsQuery, ["a\".\"b", "t"]),
          ("SELECT * FROM \"a\"\".\"\"b\".\"t\" LIMIT 50", [])] := rfl

end QueryGate.Service
