import StoredRoutines.Command.Arguments
import StoredRoutines.Settings
import StoredRoutines.Sql.Connection
import StoredRoutines.Text.Letters

/-!
The settings of a run: what the arguments say, else what the environment says, else a default. The
database is named by the environment alone.
-/

namespace StoredRoutines.Command

abbrev Environment := List (String × String)

namespace Environment

def valueOr (env : Environment) (name default : String) : String := (env.lookup name).getD default

/-- A variable that says true or anything else. -/
def flag (env : Environment) (name default : String) : Bool :=
  Text.lower (env.valueOr name default) == "true"

def path? (env : Environment) (name : String) : Option Path :=
  match env.lookup name with
  | some s => if s.isEmpty then none else some (Path.ofString s)
  | none => none

def defaultSqlMode : String :=
  "ONLY_FULL_GROUP_BY,STRICT_ALL_TABLES,NO_ZERO_IN_DATE,NO_ZERO_DATE," ++
    "ERROR_FOR_DIVISION_BY_ZERO,NO_ENGINE_SUBSTITUTION"

def settings (env : Environment) : LoaderSettings where
  sourceDirectory := Path.ofString (env.valueOr "SOURCE_DIR" "lib/psql")
  extension := env.valueOr "SOURCE_EXTENSION" ".psql"
  store := Path.ofString (env.valueOr "METADATA_PATH" "etc/routines.json")
  constants := env.path? "CONSTANTS_PATH"
  session :=
    { sqlMode := env.valueOr "SQL_MODE" defaultSqlMode
      characterSet := env.valueOr "CHARACTER_SET" "utf8mb4"
      collation := env.valueOr "COLLATION" "utf8mb4_general_ci" }
  dropsObsolete := env.flag "DROP_OBSOLETE" "true"
  dryRun := env.flag "DRY_RUN" "false"

end Environment

def Arguments.settings (a : Arguments) (env : Environment) : LoaderSettings :=
  let base := env.settings
  { base with
    sourceDirectory := (a.sourceDirectory.text?.map Path.ofString).getD base.sourceDirectory
    extension := a.extension.text?.getD base.extension
    store := (a.metadata.text?.map Path.ofString).getD base.store
    constants := (a.constants.text?.map Path.ofString).or base.constants
    dryRun := a.dryRun || base.dryRun }

/-- Why the environment names no database. -/
inductive CredentialFault where
  | missing (names : List String)
  | portNumber (text : String)
  deriving DecidableEq, Repr

namespace CredentialFault

def lines : CredentialFault → List String
  | missing names =>
    ["ERROR: Missing required credentials: " ++ ", ".intercalate names,
      "Set them via environment variables or a .env file."]
  | portNumber text => ["ERROR: DB_PORT is not a number: " ++ Text.quoted text]

end CredentialFault

namespace Environment

def requiredNames : List String := ["DB_HOST", "DB_USER", "DB_PASSWORD", "DB_NAME"]

def connectOptions (env : Environment) : Except CredentialFault Sql.ConnectOptions :=
  match requiredNames.filter fun n => (env.valueOr n "").isEmpty with
  | [] =>
    let portText := env.valueOr "DB_PORT" "3306"
    match Text.integer? portText with
    | some n =>
      .ok
        { host := .text (env.valueOr "DB_HOST" "")
          portNumber := .int n
          user := .text (env.valueOr "DB_USER" "")
          password := .text (env.valueOr "DB_PASSWORD" "")
          database := .text (env.valueOr "DB_NAME" "") }
    | none => .error (.portNumber portText)
  | names => .error (.missing names)

end Environment

end StoredRoutines.Command
