import Eligibility.Settings.Basic
set_option autoImplicit false

/-!
# Settings: environment variables

Each setting has a variable.  An empty variable counts as one that is not set,
and lists are separated by commas.
-/

namespace Eligibility.Settings

/-- The lead of every variable. -/
def variableLead : String := "TRAIT_VERIFY_"

/-- The variables that hold one value, with the fields that they set. -/
def valueVariables : List (String × String) :=
  [("app_url", "APP_URL"), ("chain_id", "CHAIN_ID"), ("statement", "STATEMENT"),
   ("statement_ttl_hours", "STATEMENT_TTL_HOURS"),
   ("signature_cache_ttl_seconds", "SIGNATURE_CACHE_TTL"), ("authority_url", "AUTHORITY_URL"),
   ("publisher_key", "PUBLISHER_KEY"), ("authority_timeout", "AUTHORITY_TIMEOUT"),
   ("log_level", "LOG_LEVEL")]

/-- The variables that hold a list, with the fields that they set. -/
def listVariables : List (String × String) :=
  [("allowed_origins", "ALLOWED_ORIGINS"), ("trusted_hosts", "TRUSTED_HOSTS")]

/-- The names of all variables. -/
def variableNames : List String :=
  (valueVariables ++ listVariables).map fun (_, name) => variableLead ++ name

/-- The value of the variable that a table gives for a field, unless it is empty. -/
def lookUp (environment : String → Option String) (table : List (String × String))
    (name : String) : Option String := do
  let value ← environment (variableLead ++ (← table.lookup name))
  if value.isEmpty then none else some value

/-- The settings of environment variables. -/
def ofEnvironment (environment : String → Option String) : Field.Checked Settings :=
  ofFields fun name =>
    match lookUp environment valueVariables name with
    | some value => some (.text value)
    | none =>
      (lookUp environment listVariables name).map fun value =>
        Json.texts (Text.itemsBetween ',' value)

end Eligibility.Settings
