import QueryGate.Text.Lower
import QueryGate.Validation.Check

/-!
# Settings

The settings of the server come from the environment or from a mapping of field names to values.
Flags and numbers in the environment fall back to their defaults where they cannot be read;
limits are checked in the same way for both sources.

The values in an environment are raw texts. One that is no text is no flag and no number, and names
no database, but it may name the certificate file.
-/

namespace QueryGate

open QueryGate.Number QueryGate.Text QueryGate.Validation

/-- The environment: names of variables with their values. -/
abbrev Environment := List (String × RawText)

namespace Environment

def get? (environment : Environment) (name : String) : Option RawText := environment.lookup name

/-- The value of a variable, if it is a text. -/
def text? (environment : Environment) (name : String) : Option String :=
  (environment.get? name).bind (·.text?)

end Environment

structure Settings where
  databaseUrl : String
  /-- Write statements may be run. -/
  allowWrites : Bool
  /-- How many connections the pool holds at most. -/
  maxConnections : Int
  /-- The time to wait for a connection, in seconds. -/
  connectTimeout : Int
  /-- The time that a statement may take, in milliseconds. -/
  statementTimeout : Int
  /-- Everything is logged. -/
  debug : Bool
  /-- The file with the certificates that the database's certificate is checked against. -/
  rootCertificate : Option RawText
  /-- The connection must be encrypted. -/
  requireTls : Bool
  deriving DecidableEq, Repr

def flagOnWords : List String := ["true", "1", "yes", "on", "y", "t"]

def flagOffWords : List String := ["false", "0", "no", "off", "", "n", "f"]

/-- Read a flag; the default stands in for an absent variable and for an unknown word. -/
def readFlag (value : Option String) (default : Bool) : Bool :=
  match value with
  | none => default
  | some s =>
      let word := String.ofList (lower (trim s.toList))
      if flagOnWords.contains word then true
      else if flagOffWords.contains word then false
      else default

/-- Read an integer; a number with a fraction is cut toward zero, and the default stands in for
everything that is no finite number. -/
def readCount (value : Option String) (default : Int) : Int :=
  match value with
  | none => default
  | some s => match readLiberal (trim s.toList) with
    | some x => if x.isFinite then x.truncate else default
    | none => default

namespace Settings

/-- The settings under the names of their fields, with a value for the certificate file. -/
def entries (settings : Settings) (certificate : Value) : Entries :=
  [("database_url", .text settings.databaseUrl),
   ("allow_write_ops", .bool settings.allowWrites),
   ("max_connections", .int settings.maxConnections),
   ("connection_timeout", .int settings.connectTimeout),
   ("statement_timeout", .int settings.statementTimeout),
   ("debug", .bool settings.debug),
   ("ssl_root_cert", certificate),
   ("require_ssl", .bool settings.requireTls)]

/-- The name of the field for the database. -/
def databaseField : String := "database_url"

/-- Check the entries of all fields but those of the database and the certificate file, which are
checked already. -/
def checkWith (databaseUrl : Checked String) (rootCertificate : Checked (Option RawText))
    (entries : Entries) : Checked Settings :=
  Settings.mk <$> databaseUrl
    <*> optional "allow_write_ops" false boolean.check entries
    <*> optional "max_connections" 10 (integerFrom 1 (some 100)).check entries
    <*> optional "connection_timeout" 30 (integerFrom 1 (some 300)).check entries
    <*> optional "statement_timeout" 30000 (integerFrom 0 none).check entries
    <*> optional "debug" false boolean.check entries
    <*> rootCertificate
    <*> optional "require_ssl" false boolean.check entries

/-- The path of a file, or nothing. -/
def path : Rule (Option RawText) := fun value => (orNull text value).map (·.map .ofString)

/-- Check the entries of a mapping. Entries under other names are passed over. -/
def check (entries : Entries) : Checked Settings :=
  checkWith (required databaseField nonemptyText.check entries)
    (optional "ssl_root_cert" none path.check entries) entries

/-- The name of the database, which has to be a text. -/
def databaseName (databaseUrl : RawText) : Except Issue String :=
  match databaseUrl.text? with
  | some s => nonemptyText (.text s)
  | none => .error .undecodableText

/-- Check a raw text for the database. A violation shows it as error streams do. -/
def checkDatabase (databaseUrl : RawText) : Checked String :=
  match databaseName databaseUrl with
  | .ok name => .valid name
  | .error issue => .invalid [⟨[.field databaseField], issue, .text databaseUrl.escaped⟩]

/-- Check settings whose database may be a raw text. Any certificate file is accepted. -/
def recheck (databaseUrl : RawText) (settings : Settings) : Checked Settings :=
  checkWith (checkDatabase databaseUrl) (.valid settings.rootCertificate) (settings.entries .null)

end Settings

/-- A parameter of a connection: a value, or the path of a file. -/
inductive Parameter where
  | value (value : Value)
  | path (path : RawText)
  deriving Repr

abbrev Parameters := List (String × Parameter)

inductive SettingsError where
  /-- The environment does not say where the database is. -/
  | noDatabase
  /-- Some values break a rule. -/
  | invalid (violations : List Violation)
  deriving Repr

/-- The description of the failure: each violated field with its message. -/
def SettingsError.message (failure : SettingsError) : String :=
  "Configuration validation failed: " ++
    match failure with
    | .noDatabase => "DATABASE_URL: DATABASE_URL is required"
    | .invalid violations => joinWith ", " (violations.map fun violation =>
        violation.location ++ ": " ++ violation.issue.message)

namespace Settings

/-- What was checked, or the failure that its violations are. -/
def accepted : Checked Settings → Except SettingsError Settings
  | .valid settings => .ok settings
  | .invalid violations => .error (.invalid violations)

/-- Settings from a mapping of field names to values. -/
def ofEntries (entries : Entries) : Except SettingsError Settings := accepted (check entries)

/-- What can be validated: a mapping of field names to values, or settings once more. -/
inductive Candidate where
  | mapping (entries : Entries)
  | settings (settings : Settings)

def Candidate.check : Candidate → Checked Settings
  | .mapping entries => Settings.check entries
  | .settings given => recheck given.databaseUrl given

def validate (candidate : Candidate) : Except SettingsError Settings := accepted candidate.check

/-- The settings that an environment states, for a database. -/
def stated (environment : Environment) (databaseUrl : String) : Settings where
  databaseUrl := databaseUrl
  allowWrites := readFlag (environment.text? "DANGEROUSLY_ALLOW_WRITE_OPS") false
  maxConnections := readCount (environment.text? "PG_MAX_CONNECTIONS") 10
  connectTimeout := readCount (environment.text? "PG_CONNECTION_TIMEOUT") 30
  statementTimeout := readCount (environment.text? "PG_STATEMENT_TIMEOUT") 30000
  debug := readFlag (environment.text? "DEBUG") false
  rootCertificate := (environment.get? "PG_SSL_ROOT_CERT").filter fun path => !path.isEmpty
  requireTls := readFlag (environment.text? "PG_REQUIRE_SSL") false

/-- Settings from the environment. The database must be named by a text that is not blank. -/
def ofEnvironment (environment : Environment) : Except SettingsError Settings :=
  let databaseUrl := (environment.get? "DATABASE_URL").getD ""
  if databaseUrl.isBlank then .error .noDatabase
  else accepted (recheck databaseUrl (stated environment databaseUrl.escaped))

/-- The file with root certificates, if one is named. -/
def certificateFile (settings : Settings) : Option RawText :=
  settings.rootCertificate.filter fun path => !path.isEmpty

def usesTls (settings : Settings) : Bool :=
  settings.certificateFile.isSome || settings.requireTls

/-- The parameters of a connection. With a certificate file the database is verified fully;
otherwise encryption may be asked for. -/
def connectionParameters (settings : Settings) : Parameters :=
  [("dsn", .value (.text settings.databaseUrl)),
   ("connect_timeout", .value (.int settings.connectTimeout))] ++
    match settings.certificateFile with
    | some path => [("sslmode", .value (.text "verify-full")), ("sslrootcert", .path path)]
    | none => if settings.requireTls then [("sslmode", .value (.text "require"))] else []

end Settings

end QueryGate
