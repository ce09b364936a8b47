import Storefront.Number.Layout
import Storefront.Number.Reader
import Storefront.Settings.Variables
import Storefront.Text.Quoted

/-! Settings from the environment and from a file of variables. -/
namespace Storefront

structure Settings where
  shopDomain : Option String := none
  apiKey : Option String := none
  appId : Option String := none
  timeout : Option Number := some (.real (.ofDecimal false 30 0))
  userAgent : Option String := some "buy-client-python/1.0.0"
  logLevel : String := "INFO"

/-- Why settings are refused. -/
inductive SettingsError where
  | unreadableTimeout (text : String)
  | missing (names : List String)
  | nullCharacter
  | nameWithEquals
deriving DecidableEq

def SettingsError.message : SettingsError → String
  | .unreadableTimeout text => "could not convert string to float: " ++ Text.quoted text
  | .missing names =>
    "Missing required environment variables: " ++ ", ".intercalate names ++
      "\nPlease check your .env file and ensure all required variables are set."
  | .nullCharacter => "embedded null byte"
  | .nameWithEquals => "illegal environment variable name"

namespace Settings

/-- The small letter that a letter counts as when words are compared. -/
def foldLetter (c : Char) : Char := if c = '\u017F' then 's' else c.toLower

/-- Tells whether an environment says that files of variables are passed over. -/
def ignoresFile (env : Pairs String) : Bool :=
  ((env.get? "PYTHON_DOTENV_DISABLED").map fun s =>
    ["1", "true", "t", "yes", "y"].contains (String.ofList (s.toList.map foldLetter))).getD false

def put (env : Pairs String) (name value : String) : Except SettingsError (Pairs String) :=
  if name.toList.contains '\x00' || value.toList.contains '\x00' then .error .nullCharacter
  else if name.toList.contains '=' then .error .nameWithEquals
  else .ok (env.put name value)

/-- The environment, completed by those variables that it does not have. -/
def complete (env : Pairs String) (vars : Pairs (Option String)) :
    Except SettingsError (Pairs String) :=
  vars.foldlM (fun t p => match p.2 with
    | some v => if (env.get? p.1).isSome then .ok t else put t p.1 v
    | none => .ok t) env

/-- The environment, completed by a file of variables if there is one. -/
def environment (env : Pairs String) (file : Option String) :
    Except SettingsError (Pairs String) :=
  match file with
  | some s =>
    if ignoresFile env then .ok env else complete env (Variables.resolve env (Variables.read s))
  | none => .ok env

def ofEnvironment (vars : Pairs String) : Except SettingsError Settings :=
  let timeout : Except SettingsError (Option Number) := match vars.get? "HTTP_TIMEOUT" with
    | none => .ok ({} : Settings).timeout
    | some text =>
      match Binary64.read? text with
      | some x => .ok (some (.real x))
      | none => .error (.unreadableTimeout text)
  timeout.map fun timeout =>
    { shopDomain := vars.get? "SHOP_DOMAIN"
      apiKey := vars.get? "SHOPIFY_API_KEY"
      appId := vars.get? "SHOPIFY_APP_ID"
      timeout
      userAgent := vars.get? "USER_AGENT" <|> ({} : Settings).userAgent
      logLevel := (vars.get? "LOG_LEVEL").getD ({} : Settings).logLevel }

/-- The settings of an environment and a file of variables. -/
def read (env : Pairs String) (file : Option String) : Except SettingsError Settings := do
  ofEnvironment (← environment env file)

def validate (s : Settings) : Except SettingsError Unit :=
  if (s.shopDomain.getD "").isEmpty then .error (.missing ["SHOP_DOMAIN"]) else .ok ()

end Settings

end Storefront
