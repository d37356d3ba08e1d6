import SubscriptionLedger.Document.Reader
import SubscriptionLedger.Form

namespace SubscriptionLedger

structure Settings where
  appName : String
  appVersion : String
  debug : Bool
  logLevel : String
  host : String
  port : Int
  reload : Bool
  corsOrigins : List String
  corsAllowCredentials : Bool
  corsAllowMethods : List String
  corsAllowHeaders : List String
  databaseUrl : String
  databaseKey : String
  tokenSecret : String
  paymentKey : String
  webhookSecret : String
  paymentVersion : String
  -- how many seconds a delivery may be old
  webhookTolerance : Int
  enableBilling : Bool
deriving DecidableEq, Repr

abbrev Environment := List (String × String)

namespace Settings

def form : Form Settings :=
  mk <$> .defaulted "app_name" "Subledger API" Rule.text <*> .defaulted "app_version" "0.1.0" Rule.text
    <*> .defaulted "debug" false Rule.truth <*> .defaulted "log_level" "INFO" Rule.text
    <*> .defaulted "host" "0.0.0.0" Rule.text <*> .defaulted "port" 8000 Rule.whole
    <*> .defaulted "reload" false Rule.truth
    <*> .defaulted "cors_origins" ["http://localhost:5173", "http://localhost:3000"] (Rule.listOf Rule.text)
    <*> .defaulted "cors_allow_credentials" true Rule.truth
    <*> .defaulted "cors_allow_methods" ["*"] (Rule.listOf Rule.text)
    <*> .defaulted "cors_allow_headers" ["*"] (Rule.listOf Rule.text)
    <*> .defaulted "supabase_url" "" Rule.text <*> .defaulted "supabase_service_role_key" "" Rule.text
    <*> .defaulted "supabase_jwt_secret" "" Rule.text <*> .defaulted "stripe_secret_key" "" Rule.text
    <*> .defaulted "stripe_webhook_secret" "" Rule.text <*> .defaulted "stripe_api_version" "" Rule.text
    <*> .defaulted "stripe_webhook_tolerance" 300 Rule.whole <*> .defaulted "enable_billing" true Rule.truth

def toDocument (s : Settings) : Document :=
  .object [("app_name", .text s.appName), ("app_version", .text s.appVersion), ("debug", .bool s.debug),
    ("log_level", .text s.logLevel), ("host", .text s.host), ("port", .int s.port), ("reload", .bool s.reload),
    ("cors_origins", .list (s.corsOrigins.map .text)),
    ("cors_allow_credentials", .bool s.corsAllowCredentials),
    ("cors_allow_methods", .list (s.corsAllowMethods.map .text)),
    ("cors_allow_headers", .list (s.corsAllowHeaders.map .text)),
    ("supabase_url", .text s.databaseUrl), ("supabase_service_role_key", .text s.databaseKey),
    ("supabase_jwt_secret", .text s.tokenSecret), ("stripe_secret_key", .text s.paymentKey),
    ("stripe_webhook_secret", .text s.webhookSecret), ("stripe_api_version", .text s.paymentVersion),
    ("stripe_webhook_tolerance", .int s.webhookTolerance), ("enable_billing", .bool s.enableBilling)]

def plainNames : List String :=
  ["app_name", "app_version", "debug", "log_level", "host", "port", "reload", "cors_allow_credentials",
    "supabase_url", "supabase_service_role_key", "supabase_jwt_secret", "stripe_secret_key",
    "stripe_webhook_secret", "stripe_api_version", "stripe_webhook_tolerance", "enable_billing"]

def listNames : List String := ["cors_origins", "cors_allow_methods", "cors_allow_headers"]

-- The value of a variable; of several that differ only in case the last counts.
def valueOf? (environment : Environment) (name : String) : Option String :=
  (environment.reverse.find? fun v => Text.lower v.1 == name).map (·.2)

def plainMember? (environment : Environment) (name : String) : Option (String × Document) :=
  (valueOf? environment name).map fun value => (name, .text value)

-- A list that is no document refuses the whole environment.
def listMember (environment : Environment) (name : String) : Except ReadError (Option (String × Document)) :=
  match valueOf? environment name with
  | none => .ok none
  | some value =>
    (Document.read value).map fun d => if d = .null then none else some (name, d)

def members (environment : Environment) : Except ReadError Members :=
  (listNames.mapM (listMember environment)).map fun lists =>
    plainNames.filterMap (plainMember? environment) ++ lists.filterMap id

end Settings
end SubscriptionLedger
