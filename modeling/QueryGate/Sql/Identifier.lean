/-!
# Identifiers

Schema and table names enter generated SQL as quoted identifiers: a double quote inside the name
is doubled, and the whole stands between double quotes. A name with a null character cannot be
quoted.
-/

namespace QueryGate.Sql

/-- A name that cannot be written as an identifier, because it holds a null character. -/
structure UnsafeIdentifier where
  identifier : String
  deriving DecidableEq, Repr

/-- The reason why a name is refused. -/
def UnsafeIdentifier.message : String := "Identifier cannot contain null bytes"

def doubleQuotes : List Char → List Char
  | [] => []
  | c :: rest => if c = '"' then '"' :: '"' :: doubleQuotes rest else c :: doubleQuotes rest

/-- A name between double quotes, with its own double quotes doubled. -/
def quotedChars (name : List Char) : List Char := '"' :: (doubleQuotes name ++ ['"'])

/-- Quote a name for use in generated SQL. -/
def quoteIdentifier (name : String) : Except UnsafeIdentifier String :=
  if name.toList.contains '\x00' then .error ⟨name⟩
  else .ok (String.ofList (quotedChars name.toList))

/-- A quoted schema and a quoted table with a point between them. The schema is judged first. -/
def qualifiedName (schema table : String) : Except UnsafeIdentifier String := do
  let quotedSchema ← quoteIdentifier schema
  let quotedTable ← quoteIdentifier table
  return quotedSchema ++ "." ++ quotedTable

/-- How many sample rows of a table are read. -/
def sampleRowLimit : Int := 50

/-- The query that reads rows of a table by its qualified name, up to a limit. -/
def rowsQuery (name limit : String) : String := "SELECT * FROM " ++ name ++ " LIMIT " ++ limit

def sampleRowsQuery (schema table : String) (limit : Int) : Except UnsafeIdentifier String := do
  let name ← qualifiedName schema table
  return rowsQuery name (toString limit)

end QueryGate.Sql
