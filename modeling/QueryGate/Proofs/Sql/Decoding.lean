import Mathlib
import QueryGate.Proofs.Sql.Quoting

/-!
# Reading generated SQL back

From a query for rows of a table the schema, the table and the limit can be read back, whatever
characters the names hold. A name is read up to the first quote that is not doubled, and doubled
quotes in it are halved. So different pairs of names never have the same qualified name. Only names
with a null character have none.
-/

namespace QueryGate.Sql

variable {schema table : String}

def halveQuotes : List Char → List Char
  | '"' :: '"' :: rest => '"' :: halveQuotes rest
  | c :: rest => c :: halveQuotes rest
  | [] => []

theorem halveQuotes_doubleQuotes (name : List Char) : halveQuotes (doubleQuotes name) = name := by
  induction name with
  | nil => rfl
  | cons c name ih =>
    by_cases hc : c = '"'
    · subst hc
      change '"' :: halveQuotes (doubleQuotes name) = '"' :: name
      rw [ih]
    · have hother :
          halveQuotes (c :: doubleQuotes name) = c :: halveQuotes (doubleQuotes name) := by
        rw [halveQuotes]
        rintro rest rfl
        exact absurd rfl hc
      rw [doubleQuotes_cons_ne hc, hother, ih]

/-- The quoted name at the front of a text, and the text after it. -/
def decodeName : List Char → Option (String × List Char)
  | '"' :: rest =>
      some (String.ofList (halveQuotes (throughQuote '"' rest).1.dropLast),
        (throughQuote '"' rest).2)
  | _ => none

theorem decodeName_quotedChars_append (name : String) {rest : List Char}
    (hrest : rest.head? ≠ some '"') :
    decodeName (quotedChars name.toList ++ rest) = some (name, rest) := by
  have htext : quotedChars name.toList ++ rest =
      '"' :: (doubleQuotes name.toList ++ '"' :: rest) := by
    rw [quotedChars, List.cons_append, List.append_assoc]
    rfl
  rw [htext, decodeName, throughQuote_doubleQuotes _ hrest, List.dropLast_concat,
    halveQuotes_doubleQuotes, String.ofList_toList]

/-- The two quoted names at the front of a text with a point between them, and the text after
them. -/
def decodeQualified (cs : List Char) : Option (String × String × List Char) := do
  let (schema, rest) ← decodeName cs
  let rest ← rest.dropPrefix? ['.']
  let (table, rest) ← decodeName rest
  return (schema, table, rest)

theorem dropPrefix?_append (front rest : List Char) :
    (front ++ rest).dropPrefix? front = some rest :=
  List.dropPrefix?_eq_some_iff.mpr ⟨front, rfl, beq_self_eq_true front⟩

theorem decodeQualified_append (schema table : String) {rest : List Char}
    (hrest : rest.head? ≠ some '"') :
    decodeQualified (quotedChars schema.toList ++ '.' :: (quotedChars table.toList ++ rest)) =
      some (schema, table, rest) := by
  have hpoint : ('.' :: (quotedChars table.toList ++ rest)).head? ≠ some '"' := by
    rw [List.head?_cons]
    decide
  have hdropped : ('.' :: (quotedChars table.toList ++ rest)).dropPrefix? ['.'] =
      some (quotedChars table.toList ++ rest) := dropPrefix?_append ['.'] _
  simp only [decodeQualified, decodeName_quotedChars_append _ hpoint, hdropped,
    decodeName_quotedChars_append _ hrest, Option.bind_eq_bind, Option.bind_some, Option.pure_def]

theorem decodeQualified_qualifiedName {name : String} (h : qualifiedName schema table = .ok name) :
    decodeQualified name.toList = some (schema, table, []) := by
  have hnone : ([] : List Char).head? ≠ some '"' := by simp
  have hdecoded := decodeQualified_append schema table hnone
  rw [List.append_nil] at hdecoded
  rw [qualifiedName_eq_ok h, hdecoded]

theorem qualifiedName_injective {schema' table' name : String}
    (h : qualifiedName schema table = .ok name) (h' : qualifiedName schema' table' = .ok name) :
    schema = schema' ∧ table = table' := by
  have hsame := (decodeQualified_qualifiedName h).symm.trans (decodeQualified_qualifiedName h')
  simpa using hsame

def HasNull (name : String) : Prop := '\x00' ∈ name.toList

instance : DecidablePred HasNull := fun _ => inferInstanceAs (Decidable (_ ∈ _))

theorem quoteIdentifier_of_hasNull {name : String} (h : HasNull name) :
    quoteIdentifier name = .error ⟨name⟩ := by
  rw [quoteIdentifier, if_pos (List.contains_iff_mem.mpr h)]

theorem quoteIdentifier_of_not_hasNull {name : String} (h : ¬ HasNull name) :
    quoteIdentifier name = .ok (String.ofList (quotedChars name.toList)) := by
  rw [quoteIdentifier, if_neg (fun hcontains => h (List.contains_iff_mem.mp hcontains))]

theorem qualifiedName_of_hasNull (h : HasNull schema ∨ HasNull table) :
    qualifiedName schema table = .error ⟨if HasNull schema then schema else table⟩ := by
  by_cases hschema : HasNull schema
  · rw [qualifiedName, quoteIdentifier_of_hasNull hschema, if_pos hschema]
    rfl
  · have htable : HasNull table := h.resolve_left hschema
    rw [qualifiedName, quoteIdentifier_of_not_hasNull hschema, quoteIdentifier_of_hasNull htable,
      if_neg hschema]
    rfl

theorem qualifiedName_of_not_hasNull (hschema : ¬ HasNull schema) (htable : ¬ HasNull table) :
    ∃ name, qualifiedName schema table = .ok name := by
  rw [qualifiedName, quoteIdentifier_of_not_hasNull hschema, quoteIdentifier_of_not_hasNull htable]
  exact ⟨_, rfl⟩

/-- The schema, the table and the limit of a query for rows. -/
def decodeRowsQuery (query : String) : Option (String × String × Int) := do
  let rest ← query.toList.dropPrefix? "SELECT * FROM ".toList
  let (schema, table, rest) ← decodeQualified rest
  let rest ← rest.dropPrefix? " LIMIT ".toList
  let limit ← (String.ofList rest).toInt?
  return (schema, table, limit)

theorem decodeRowsQuery_of_rowsChars {query : String} {limit : Int}
    (h : query.toList = rowsChars schema.toList table.toList limit) :
    decodeRowsQuery query = some (schema, table, limit) := by
  have hselect : query.toList.dropPrefix? "SELECT * FROM ".toList =
      some (quotedChars schema.toList ++ ('.' :: (quotedChars table.toList ++
        (" LIMIT ".toList ++ (toString limit).toList)))) := by
    rw [h]
    exact dropPrefix?_append _ _
  have hnames := decodeQualified_append schema table (head_limit (toString limit).toList)
  have hlimit : (" LIMIT ".toList ++ (toString limit).toList).dropPrefix? " LIMIT ".toList =
      some (toString limit).toList := dropPrefix?_append _ _
  have hnumber : (String.ofList (toString limit).toList).toInt? = some limit := by
    rw [String.ofList_toList]
    exact Int.toInt?_repr limit
  simp only [decodeRowsQuery, hselect, hnames, hlimit, hnumber, Option.bind_eq_bind,
    Option.bind_some, Option.pure_def]

theorem decodeRowsQuery_sampleRowsQueryOf {limit : Value} {query : String}
    (h : sampleRowsQueryOf schema table limit = .ok query) :
    ∃ n, limit.toInteger = .ok n ∧ decodeRowsQuery query = some (schema, table, n) := by
  obtain ⟨n, hlimit, hquery⟩ := sampleRowsQueryOf_eq_ok h
  exact ⟨n, hlimit, decodeRowsQuery_of_rowsChars hquery⟩

theorem sampleRowsQueryOf_of_hasNull (h : HasNull schema ∨ HasNull table) (limit : Value) :
    sampleRowsQueryOf schema table limit =
      .error (Fault.ofUnsafeIdentifier ⟨if HasNull schema then schema else table⟩) := by
  rw [sampleRowsQueryOf, qualifiedName_of_hasNull h]
  rfl

theorem sampleRowsQueryOf_of_not_hasNull (hschema : ¬ HasNull schema) (htable : ¬ HasNull table)
    {limit : Value} {n : Int} {digits : String} (hlimit : limit.toInteger = .ok n)
    (hdigits : integerText n = .ok digits) :
    ∃ query, sampleRowsQueryOf schema table limit = .ok query := by
  obtain ⟨name, hname⟩ := qualifiedName_of_not_hasNull hschema htable
  refine ⟨rowsQuery name digits, ?_⟩
  simp only [sampleRowsQueryOf, hname, hlimit, hdigits, Except.mapError, bind, Except.bind, pure,
    Except.pure]

theorem sampleRowsQuery_of_hasNull (h : HasNull schema ∨ HasNull table) (limit : Int) :
    sampleRowsQuery schema table limit =
      .error ⟨if HasNull schema then schema else table⟩ := by
  rw [sampleRowsQuery, qualifiedName_of_hasNull h]
  rfl

theorem sampleRowsQuery_of_not_hasNull (hschema : ¬ HasNull schema) (htable : ¬ HasNull table)
    (limit : Int) : ∃ query, sampleRowsQuery schema table limit = .ok query := by
  obtain ⟨name, hname⟩ := qualifiedName_of_not_hasNull hschema htable
  rw [sampleRowsQuery, hname]
  exact ⟨_, rfl⟩

theorem decodeRowsQuery_sampleRowsQuery {query : String} {limit : Int}
    (h : sampleRowsQuery schema table limit = .ok query) :
    decodeRowsQuery query = some (schema, table, limit) := by
  rw [sampleRowsQuery] at h
  cases hname : qualifiedName schema table with
  | error failure =>
    rw [hname] at h
    cases h
  | ok name =>
    rw [hname] at h
    obtain rfl : rowsQuery name (toString limit) = query := Except.ok.inj h
    exact decodeRowsQuery_of_rowsChars (toList_rowsQuery hname limit)

end QueryGate.Sql
