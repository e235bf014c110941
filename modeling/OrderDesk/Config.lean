import OrderDesk.Breaker
import OrderDesk.Text.Digit

/-!
# Settings

The service is set up by flags on the command line, by environment variables, and by defaults, in
this order of precedence.  A flag is written `--name value` or `--name=value`; a value that starts
with a hyphen needs the second form.  Arguments are read from left to right and the first fault
counts, with one exception: the value of a flag is looked at only when the next argument is known
to be a flag, so an argument that is no flag is reported first.  Environment variables are looked
at last.
-/

namespace OrderDesk

/-- How log lines are written. -/
inductive LogFormat where
  | pretty
  | json
deriving DecidableEq

/-- The name of a log format. -/
def LogFormat.label : LogFormat → String
  | .pretty => "pretty"
  | .json => "json"

/-- The settings of the service. -/
structure Config where
  host : String
  port : Nat
  metricsPort : Nat
  /-- The address of a product service; without one the built-in catalog is used. -/
  catalogUrl : Option String
  /-- The token for the product service when the caller brings none. -/
  catalogToken : Option String
  /-- The milliseconds that a question to the catalog may take. -/
  catalogTimeout : Nat
  /-- The failures in a row that open the circuit. -/
  failureThreshold : Nat
  /-- The seconds that the circuit stays open. -/
  cooldownSeconds : Nat
  /-- Are the demo users and orders loaded? -/
  seed : Bool
  logFormat : LogFormat
deriving DecidableEq

/-- What is wrong with the arguments. -/
inductive ConfigError where
  | unknownArgument
  | missingValue
  /-- Not a whole number in the range of the setting. -/
  | malformedNumber
  /-- Not one of the words that the setting can be. -/
  | unknownChoice
  | repeatedFlag
  /-- A value for a flag that takes none. -/
  | unexpectedValue
  /-- Nothing is wrong, but help is asked for instead of running. -/
  | helpRequested
deriving DecidableEq

/-- What is wrong with the arguments, in words. -/
def ConfigError.message : ConfigError → String
  | .unknownArgument => "unexpected argument"
  | .missingValue => "a value is required"
  | .malformedNumber => "not a whole number in the range of the setting"
  | .unknownChoice => "not one of the possible values"
  | .repeatedFlag => "the same flag cannot be given twice"
  | .unexpectedValue => "a value is given to a flag that takes none"
  | .helpRequested => "help is asked for"

namespace Config

/-- The defaults. -/
def standard : Config where
  host := "0.0.0.0"
  port := 8080
  metricsPort := 9090
  catalogUrl := none
  catalogToken := none
  catalogTimeout := 5000
  failureThreshold := 5
  cooldownSeconds := 30
  seed := true
  logFormat := .pretty

/-- The circuit breaker in front of the product service. -/
def breaker (c : Config) : BreakerConfig :=
  { BreakerConfig.standard with
    failureThreshold := c.failureThreshold
    cooldown := c.cooldownSeconds * 1000 }

/-! ## Single settings -/

/-- The settings, in the order in which environment variables are looked at. -/
inductive Setting where
  | host
  | port
  | metricsPort
  | catalogUrl
  | catalogToken
  | catalogTimeout
  | failureThreshold
  | cooldown
  | seed
  | logFormat
deriving DecidableEq

namespace Setting

/-- All settings. -/
def all : List Setting :=
  [.host, .port, .metricsPort, .catalogUrl, .catalogToken, .catalogTimeout, .failureThreshold,
    .cooldown, .seed, .logFormat]

/-- The flag of a setting, without its hyphens. -/
def flag : Setting → String
  | .host => "host"
  | .port => "port"
  | .metricsPort => "metrics-port"
  | .catalogUrl => "product-service-url"
  | .catalogToken => "product-service-token"
  | .catalogTimeout => "catalog-timeout-ms"
  | .failureThreshold => "circuit-failure-threshold"
  | .cooldown => "circuit-cooldown-secs"
  | .seed => "seed"
  | .logFormat => "log-format"

/-- The environment variable of a setting. -/
def environmentName : Setting → String
  | .host => "HOST"
  | .port => "PORT"
  | .metricsPort => "METRICS_PORT"
  | .catalogUrl => "PRODUCT_SERVICE_URL"
  | .catalogToken => "PRODUCT_SERVICE_TOKEN"
  | .catalogTimeout => "CATALOG_TIMEOUT_MS"
  | .failureThreshold => "CATALOG_CIRCUIT_FAILURES"
  | .cooldown => "CATALOG_CIRCUIT_COOLDOWN_SECS"
  | .seed => "SEED_DATA"
  | .logFormat => "LOG_FORMAT"

/-- A whole number up to `limit`, which may have a plus sign; a minus sign is good in front of
zero. -/
def number (limit : Nat) (text : String) : Except ConfigError Nat :=
  let value? :=
    match text.toList with
    | '-' :: digits => (Text.readNat? digits).bind fun n => if n = 0 then some 0 else none
    | s => Text.readNatSigned? s
  match value? with
  | some n => if n ≤ limit then .ok n else .error .malformedNumber
  | none => .error .malformedNumber

/-- A whole number of 64 bits, which may have a plus sign. -/
def longNumber (text : String) : Except ConfigError Nat :=
  match Text.readNatSigned? text.toList with
  | some n => if n < Nat.pow 2 64 then .ok n else .error .malformedNumber
  | none => .error .malformedNumber

/-- The settings with one of them read from a text. -/
def assign (s : Setting) (text : String) (c : Config) : Except ConfigError Config :=
  match s with
  | .host => .ok { c with host := text }
  | .port => do return { c with port := ← number 65535 text }
  | .metricsPort => do return { c with metricsPort := ← number 65535 text }
  | .catalogUrl => .ok { c with catalogUrl := some text }
  | .catalogToken => .ok { c with catalogToken := some text }
  | .catalogTimeout => do return { c with catalogTimeout := ← longNumber text }
  | .failureThreshold => do return { c with failureThreshold := ← number 4294967295 text }
  | .cooldown => do return { c with cooldownSeconds := ← longNumber text }
  | .seed =>
    if text = "true" then .ok { c with seed := true }
    else if text = "false" then .ok { c with seed := false }
    else .error .unknownChoice
  | .logFormat =>
    if text = "pretty" then .ok { c with logFormat := .pretty }
    else if text = "json" then .ok { c with logFormat := .json }
    else .error .unknownChoice

end Setting

/-- How the settings are given, a line each. -/
def usage : String :=
  String.intercalate "\n" ("Options:" :: Setting.all.map fun s =>
    "  --" ++ s.flag ++ " <value>  [env: " ++ s.environmentName ++ "]")

/-! ## The command line -/

/-- What has been read of the command line. -/
structure Reading where
  config : Config
  given : List Setting
  /-- The last flag, with its value if that has come. -/
  pending : Option (Setting × Option String)
  /-- Was there a lone `--`, behind which nothing is a flag? -/
  closed : Bool

namespace Reading

/-- A flag and its value. -/
def give (r : Reading) (s : Setting) (text : Option String) : Except ConfigError Reading :=
  match text with
  | none => .error .missingValue
  | some text =>
    if s ∈ r.given then .error .repeatedFlag
    else do
      let config ← s.assign text r.config
      return { r with config, given := s :: r.given, pending := none }

/-- Looks at the value of the last flag. -/
def settle (r : Reading) : Except ConfigError Reading :=
  match r.pending with
  | none => .ok r
  | some (s, text) => r.give s text

/-- An argument that starts with two hyphens, without them. -/
def longFlag (r : Reading) (arg : List Char) : Except ConfigError Reading :=
  let name := String.ofList (arg.takeWhile (· ≠ '='))
  let value? :=
    match arg.dropWhile (· ≠ '=') with
    | '=' :: value => some (String.ofList value)
    | _ => none
  if name = "help" then
    match value? with
    | none => do
      let _ ← r.settle
      .error .helpRequested
    | some _ => .error .unexpectedValue
  else
    match Setting.all.find? (·.flag = name) with
    | none => .error .unknownArgument
    | some s => do
      let r ← r.settle
      match value? with
      | some value => r.give s (some value)
      | none => return { r with pending := some (s, none) }

/-- An argument that starts with one hyphen, without it. -/
def shortFlag (r : Reading) (arg : List Char) : Except ConfigError Reading :=
  match arg with
  | 'h' :: _ => do
    let _ ← r.settle
    .error .helpRequested
  | _ => .error .unknownArgument

/-- An argument that is no flag: the value of the last flag, or one too many. -/
def plain (r : Reading) (arg : String) : Except ConfigError Reading :=
  match r.pending with
  | some (s, none) => .ok { r with pending := some (s, some arg) }
  | _ => .error .unknownArgument

/-- One argument more. -/
def next (r : Reading) (arg : String) : Except ConfigError Reading :=
  if r.closed then .error .unknownArgument
  else
    match arg.toList with
    | ['-', '-'] => .ok { r with closed := true }
    | '-' :: '-' :: rest => r.longFlag rest
    | '-' :: c :: rest => r.shortFlag (c :: rest)
    | _ => r.plain arg

/-- Takes a setting that has not been given from the environment. -/
def fromEnvironment (env : List (String × String)) (r : Reading) (s : Setting) :
    Except ConfigError Reading :=
  if s ∈ r.given then .ok r
  else
    match env.lookup s.environmentName with
    | none => .ok r
    | some text => do return { r with config := ← s.assign text r.config }

end Reading

/-- The settings that arguments and environment variables make. -/
def parse (args : List String) (env : List (String × String)) : Except ConfigError Config := do
  let r ← args.foldlM Reading.next ⟨standard, [], none, false⟩
  let r ← r.settle
  let r ← Setting.all.foldlM (Reading.fromEnvironment env) r
  return r.config

end Config

end OrderDesk
