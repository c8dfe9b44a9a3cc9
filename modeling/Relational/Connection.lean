import Relational.Config
import Relational.Text.Numeral

/-!
# Connection arguments

A connection needs a user and a database; all other parameters have defaults. The parameters can be
read from the section `MYSQL` of a configuration.
-/

namespace Relational

/-- The parameters of a connection. -/
structure ConnectionArguments where
  user : String
  database : String
  password : String := ""
  host : String := "127.0.0.1"
  port : Int := 3306
  useUnicode : Bool := true
  charset : String := "utf8mb4"
  autocommit : Bool := true
  sqlMode : String := "TRADITIONAL"
  deriving DecidableEq

namespace ConnectionArguments

/-- The words for truth values in a configuration. -/
def truthValue? (s : String) : Option Bool :=
  let word := Text.lower s
  if word ∈ ["1", "yes", "true", "on"] then some true
  else if word ∈ ["0", "no", "false", "off"] then some false
  else none

/-- The section with the parameters of a connection. -/
def sectionName : String := "MYSQL"

/-- Require that a value can be read. -/
def require {α : Type} : Option α → Except Error α
  | some a => .ok a
  | none => .error (.fault .badValue)

/-- Read an optional parameter, or keep its default. -/
def parameter {α : Type} (sections : Config.Sections) (option : String)
    (read : String → Option α) (fallback : α) : Except Error α := do
  match ← Config.option? sections sectionName option with
  | none => return fallback
  | some s => require (read s)

/-- The parameters of a configuration. -/
def ofSections (sections : Config.Sections) : Except Error ConnectionArguments := do
  if (sections.lookup sectionName).isNone then throw .noConfigSection
  if (Config.value? sections sectionName "user").isNone ||
      (Config.value? sections sectionName "database").isNone then
    throw .incompleteConfig
  let user ← parameter sections "user" some ""
  let database ← parameter sections "database" some ""
  let base : ConnectionArguments := { user, database }
  let password ← parameter sections "password" some base.password
  let host ← parameter sections "host" some base.host
  let charset ← parameter sections "charset" some base.charset
  let sqlMode ← parameter sections "sqlmode" some base.sqlMode
  let port ← parameter sections "port" Text.readInteger base.port
  let useUnicode ← parameter sections "useunicode" truthValue? base.useUnicode
  let autocommit ← parameter sections "autocommit" truthValue? base.autocommit
  return { base with password, host, charset, sqlMode, port, useUnicode, autocommit }

/-- The parameters in the text of a configuration. -/
def ofConfig (text : String) : Except Error ConnectionArguments :=
  match Config.read text with
  | .ok sections => ofSections sections
  | .error e => .error (.fault (.config e))

end ConnectionArguments
end Relational
