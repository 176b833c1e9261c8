import OdbcFast.Native.Security.Sanitize

/-!
# The connection string of a pool

Some attributes of the string are options of the pool and are taken out before a driver sees it.
The text is cut at its semicolons, those behind an opening brace that no closing one follows
excepted.

A pool is known by its server, port and user, which are read from the string that is left. This
reader cuts at every semicolon.
-/

namespace OdbcFast.Native

/-- One of the names. -/
def isOneOf (names : List String) (key : List Char) : Bool :=
  names.any fun name => name.toList = key

def isPoolCheckoutOption (key : List Char) : Bool :=
  isOneOf ["pooltestoncheckout", "testoncheckout", "pool_test_on_checkout",
    "pool_test_on_check_out", "test_on_checkout", "test_on_check_out"] key

def isPoolHealthCheckOption (key : List Char) : Bool :=
  isOneOf ["poolhealthcheckquery", "healthcheckquery", "pool_health_check_query",
    "health_check_query"] key

def parseBoolFlag (value : List Char) : Option Bool :=
  let flag := (trim value).map Char.toLower
  if isOneOf ["1", "true", "yes", "on"] flag then some true
  else if isOneOf ["0", "false", "no", "off"] flag then some false
  else none

/-- `saturating_add(1)` of a `u32`. -/
def braceDepthBehind (depth : Nat) : Nat := min (depth + 1) 4294967295

/-- The loop over the characters, with the brace depth and the part that is being read. -/
def splitParts : Nat → List Char → List Char → List (List Char)
  | _, part, [] => [part]
  | depth, part, ch :: rest =>
    if ch = '{' then splitParts (braceDepthBehind depth) (part ++ [ch]) rest
    else if ch = '}' then splitParts (depth - 1) (part ++ [ch]) rest
    else if ch = ';' ∧ depth = 0 then part :: splitParts depth [] rest
    else splitParts depth (part ++ [ch]) rest

def splitConnectionStringParts (connectionString : List Char) : List (List Char) :=
  splitParts 0 [] connectionString

/-- `split_once('=')`. -/
def splitOnceEquals (part : List Char) : Option (List Char × List Char) :=
  match part.dropWhile (· ≠ '=') with
  | [] => none
  | _ :: value => some (part.takeWhile (· ≠ '='), value)

def isBrace (c : Char) : Bool := c == '{' || c == '}'

/-- `trim_matches` of braces. -/
def trimBraces (text : List Char) : List Char :=
  ((text.dropWhile isBrace).reverse.dropWhile isBrace).reverse

/-- What becomes of a part. -/
inductive PartFate where
  | skipped
  | checkout (value : List Char)
  | healthCheck (value : List Char)
  | kept
  deriving DecidableEq, Repr

def partFate (part : List Char) : PartFate :=
  if trim part = [] then .skipped
  else
    match splitOnceEquals part with
    | some (key, rawValue) =>
      let normalizedKey := (trim key).map Char.toLower
      if isPoolCheckoutOption normalizedKey then .checkout (trimBraces (trim rawValue))
      else if isPoolHealthCheckOption normalizedKey then
        .healthCheck (trimBraces (trim rawValue))
      else .kept
    | none => .kept

/-- The variables of the loop over the parts. -/
structure PoolStringOptions where
  sanitizedParts : List (List Char) := []
  connOverride : Option Bool := none
  healthCheckQuery : Option (List Char) := none
  deriving DecidableEq, Repr

/-- A part with its fate. A value that is no flag and an empty query change nothing. -/
def PoolStringOptions.take (options : PoolStringOptions) (part : List Char × PartFate) :
    PoolStringOptions :=
  match part.2 with
  | .skipped => options
  | .checkout value =>
    match parseBoolFlag value with
    | some parsed => { options with connOverride := some parsed }
    | none => options
  | .healthCheck value =>
    if value ≠ [] then { options with healthCheckQuery := some value } else options
  | .kept => { options with sanitizedParts := options.sanitizedParts ++ [part.1] }

def readParts (connectionString : List Char) : List (List Char × PartFate) :=
  (splitConnectionStringParts connectionString).map fun part => (trim part, partFate part)

/-- `trim_end().ends_with(';')`. -/
def endsWithSemicolon (text : List Char) : Bool :=
  (text.reverse.dropWhile isWhitespace).head? = some ';'

def parsePoolOptionsFromConnectionString (connectionString : List Char) :
    List Char × Option Bool × Option (List Char) :=
  let options := (readParts connectionString).foldl PoolStringOptions.take {}
  let joined := [';'].intercalate options.sanitizedParts
  let sanitized :=
    if endsWithSemicolon connectionString ∧ joined ≠ [] then joined ++ [';'] else joined
  (sanitized, options.connOverride, options.healthCheckQuery)

example :
    parsePoolOptionsFromConnectionString
      "PWD={ab;c};PoolTestOnCheckout=false;DSN=MainDsn".toList =
        ("PWD={ab;c};DSN=MainDsn".toList, some false, none) := by
  decide +kernel

/-! ## The identity of a pool -/

inductive PoolKey where
  | server
  | port
  | uid
  deriving DecidableEq, Repr

/-- No letter but an ASCII one has one of the letters of these names as its lower case. -/
def poolKey (key : List Char) : Option PoolKey :=
  let k := (trim key).map Char.toLower
  if isOneOf ["server", "host", "hostname"] k then some .server
  else if isOneOf ["port"] k then some .port
  else if isOneOf ["uid", "user", "username"] k then some .uid
  else none

/-- What a part contributes: an empty value contributes nothing. -/
def poolComponent (part : List Char) : Option (PoolKey × List Char) :=
  match splitOnceEquals (trim part) with
  | some (key, value) =>
    let v := trimBraces (trim value)
    (poolKey key).bind fun k => if v ≠ [] then some (k, v) else none
  | none => none

structure PoolComponents where
  server : List Char := []
  port : List Char := []
  uid : List Char := []
  deriving DecidableEq, Repr

def PoolComponents.set (components : PoolComponents) :
    PoolKey × List Char → PoolComponents
  | (.server, v) => { components with server := v }
  | (.port, v) => { components with port := v }
  | (.uid, v) => { components with uid := v }

/-- The identity that components give; without any it is the string. -/
def PoolComponents.text (components : PoolComponents) (connStr : List Char) : List Char :=
  if components.server = [] ∧ components.port = [] ∧ components.uid = [] then connStr
  else components.server ++ ':' :: (components.port ++ ':' :: components.uid)

def extractPoolComponents (connStr : List Char) : List Char :=
  (((connStr.splitOn ';').filterMap poolComponent).foldl PoolComponents.set {}).text connStr

/-- What a pool keeps is the string without the options. -/
structure ConnectionPool where
  connectionString : List Char
  deriving DecidableEq, Repr

def ConnectionPool.new (connectionString : List Char) : ConnectionPool :=
  ⟨(parsePoolOptionsFromConnectionString connectionString).1⟩

def ConnectionPool.getPoolId (pool : ConnectionPool) : List Char :=
  extractPoolComponents pool.connectionString

end OdbcFast.Native
