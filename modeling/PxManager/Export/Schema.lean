import PxManager.Core.Hex
import PxManager.Core.JsonSchema

/-!
# PxManager.Export.Schema

The schema of MegaProxy documents, `tests/schemas/megaproxy-v8.schema.json`.

The definitions stand in the order in which they use each other. Patterns are read as Python's
`re.search` reads them, where `$` is also before a newline that ends the text.
-/

namespace PxManager.Export

open PxManager.Core

/-! ### Patterns -/

/-- `^…$`, given what stands between. -/
def anchored (body : Text → Bool) (text : Text) : Bool :=
  body text || (text.getLast? = some '\n' && body text.dropLast)

/-- `[^\s/:@?#\\]`, and `[^\s*/:@?#\\]`. -/
def isHostChar (asterisk : Bool) (c : Char) : Bool :=
  !isSpace c && c ∉ ['/', ':', '@', '?', '#', '\\'] && (asterisk || c ≠ '*')

/-- `\[?(?:[0-9a-fA-F]{0,4}:){2,7}[0-9a-fA-F]{0,4}\]?`. -/
def isIpv6 (text : Text) : Bool :=
  let text := if text.head? = some '[' then text.tail else text
  let text := if text.getLast? = some ']' then text.dropLast else text
  let groups := text.splitOn ':'
  3 ≤ groups.length && groups.length ≤ 8 &&
    groups.all fun group => group.length ≤ 4 && group.all fun c => (hexDigit? c).isSome

/-- `[^\s/:@?#\\]+`, or `[^\s*/:@?#\\]+`. -/
def isHostName (asterisk : Bool) (text : Text) : Bool :=
  text ≠ [] && text.all (isHostChar asterisk)

/-- `[a-zA-Z0-9*](?:[a-zA-Z0-9.*-]*[a-zA-Z0-9*])?`. -/
def isWildcard (text : Text) : Bool :=
  let isEnd := fun c : Char => c.isAlphanum || c = '*'
  text.head?.any isEnd && text.getLast?.any isEnd &&
    text.all fun c => isEnd c || c = '.' || c = '-'

/-- `[a-z0-9][a-z0-9_-]{0,63}`. -/
def isSourceName (text : Text) : Bool :=
  let isStart := fun c : Char => c.isLower || c.isDigit
  text.head?.any isStart && text.length ≤ 64 &&
    text.all fun c => isStart c || c = '_' || c = '-'

/-- `[A-Za-z0-9_.]+`. -/
def isPackage (text : Text) : Bool :=
  text ≠ [] && text.all fun c => c.isAlphanum || c = '_' || c = '.'

/-- `([A-Z]{2})?`. -/
def isOptionalCountryCode (text : Text) : Bool :=
  text = [] || (text.length = 2 && text.all Char.isUpper)

/-- `^https://`. -/
def isHttpsUrl (text : Text) : Bool := "https://".toList.isPrefixOf text

/-- `[^…]*`. -/
def hasNone (excluded : List Char) (text : Text) : Bool := text.all fun c => c ∉ excluded

namespace Schema

/-! ### Shapes of values -/

/-- A string of at most `n` characters. -/
def textUpTo (n : Nat) (more : List Schema) : Schema :=
  .allOf ([.ofType .string, .maxLength n] ++ more)

/-- One of some strings. -/
def choice (values : List String) : Schema := .allOf [.ofType .string, .enum values]

/-- An integer within bounds. -/
def integerIn (low high : ℤ) : Schema :=
  .allOf [.ofType .integer, .minimum low, .maximum high]

/-- An array of at most `n` items. -/
def arrayUpTo (n : Nat) (item : Schema) (more : List Schema) : Schema :=
  .allOf ([.ofType .array, .items item, .maxItems n] ++ more)

def boolean : Schema := .ofType .boolean

/-! ### Fields -/

def host : Schema :=
  textUpTo 253 [.minLength 1,
    .pattern (anchored fun text => isHostName true text || isIpv6 text)]

def domain : Schema :=
  textUpTo 253 [.minLength 1,
    .pattern (anchored fun text => isHostName false text || isWildcard text || isIpv6 text)]

def profileId : Schema := textUpTo 256 [.minLength 1]

def profileIdOrNull : Schema := .anyOf [profileId, .ofType .null]

def name : Schema := textUpTo 256 []

def port : Schema := integerIn 1 65535

def username : Schema := textUpTo 4096 [.pattern (anchored (hasNone [':', '\r', '\n']))]

def password : Schema := textUpTo 16384 [.pattern (anchored (hasNone ['\r', '\n']))]

def subscriptionLogin : Schema := textUpTo 1024 []

/-! ### Definitions -/

def tls : Schema :=
  .object
    [("fingerprint", choice ["DEFAULT", "CHROME_ANDROID", "FIREFOX_ANDROID", "EDGE_ANDROID",
      "RANDOMIZED", "SAMSUNG_INTERNET", "YANDEX_BROWSER", "CUSTOM"]),
    ("customJa3", textUpTo 8192 [])] []

def routing : Schema :=
  .object
    [("bypassLocalNetworks", boolean), ("routeAllApps", boolean),
    ("selectedPackages", arrayUpTo 1000 (textUpTo 256 [.pattern (anchored isPackage)]) []),
    ("allowIpv6", boolean)] []

def dns : Schema :=
  .object
    [("provider", choice ["CLOUDFLARE", "GOOGLE", "QUAD9", "YANDEX", "YANDEX_SAFE",
      "YANDEX_FAMILY", "CUSTOM"]),
    ("customDohUrl", textUpTo 2048 [])] []

/-- The profiles of SSH clients. -/
def sshProfile : Schema :=
  choice ["DEFAULT", "OPENSSH_TERMUX", "CONNECTBOT", "JUICESSH", "TERMIUS_ANDROID"]

def ssh : Schema :=
  .object
    [("fingerprint", sshProfile), ("authMode", choice ["AUTO", "PASSWORD_ONLY", "KEY_ONLY"]),
    ("keepaliveSeconds", integerIn 0 3600), ("maxChannels", integerIn 1 256),
    ("rotationMinutes", integerIn 0 1440), ("rotationMb", integerIn 0 10240)] []

def failover : Schema :=
  .object
    [("mode", choice ["DISABLED", "SELECTED", "ALL"]),
    ("profileIds", arrayUpTo 1000 profileId [.uniqueItems])] []

def jump : Schema :=
  .object
    [("host", host), ("port", port), ("sameAuthentication", boolean), ("username", username),
    ("password", password), ("privateKey", textUpTo 65536 []),
    ("trustedHostKey", textUpTo 256 []), ("acceptAnyHostKey", boolean),
    ("allowInvalidProxyCertificate", boolean)] ["host", "port"]

/-- A proxy of a type with a jump has one. -/
def jumpIfNeeded : Schema :=
  .ifThen
    (.allOf [.properties [("type", .enum ["HTTPS_JUMP", "SSH_JUMP"])], .required ["type"]])
    (.allOf [.required ["jump"], .properties [("jump", jump)]])

def proxy : Schema :=
  .allOf [.object
    [("type", choice ["HTTPS", "SOCKS5", "HTTPS_JUMP", "SSH", "SSH_JUMP", "MASQUE"]),
    ("host", host), ("port", port), ("username", username), ("password", password),
    ("privateKey", textUpTo 65536 []), ("allowInvalidProxyCertificate", boolean),
    ("sshProfile", sshProfile), ("trustedHostKey", textUpTo 256 []),
    ("acceptAnyHostKey", boolean), ("jump", jump)] ["type", "host", "port"],
    jumpIfNeeded]

def browserProfile : Schema :=
  .object
    [("knockHost", .anyOf [.const (.str ""), host]),
    ("bypass", arrayUpTo 1000 host [.uniqueItems]), ("authMode", choice ["auto", "challenge"]),
    ("masqueTemplate", textUpTo 2048 [])] []

def profile : Schema :=
  .object
    [("id", profileId), ("name", name), ("color", integerIn 0 2147483647),
    ("countryCode", textUpTo 2 [.pattern (anchored isOptionalCountryCode)]), ("proxy", proxy),
    ("tls", tls), ("dns", dns), ("routing", routing), ("browser", browserProfile)]
    ["id", "proxy"]

def browserSubscriptions : Schema :=
  let sources := arrayUpTo 64
    (.allOf [.ofType .string, .pattern (anchored isSourceName)]) [.uniqueItems]
  .object
    [("domainSources", sources), ("siteSources", sources), ("autoUpdate", boolean),
    ("throughProxy", boolean)] []

def assignment : Schema :=
  .object
    [("domain", textUpTo 253 [.minLength 1, .pattern (anchored (isHostName false))]),
    ("profileId", profileId), ("includeSubdomains", boolean)] ["domain", "profileId"]

def browserRouting : Schema :=
  .object
    [("enabled", boolean), ("mode", choice ["domains", "tabs"]),
    ("domains", arrayUpTo 1000 domain [.uniqueItems]),
    ("sites", arrayUpTo 1000 domain [.uniqueItems]), ("subscriptions", browserSubscriptions),
    ("assignments", arrayUpTo 1000 assignment []),
    ("strategy", choice ["manual", "lists", "profiles", "tabs", "failover"])] []

def configSubscription : Schema :=
  .object
    [("url", textUpTo 2048 [.pattern isHttpsUrl]), ("username", subscriptionLogin),
    ("password", subscriptionLogin), ("intervalMinutes", integerIn 1 10080),
    ("enabled", boolean),
    ("fallbackUrls", arrayUpTo 7 (textUpTo 2048 [.pattern isHttpsUrl]) [.uniqueItems])] ["url"]

def subscription : Schema := .anyOf [.ofType .null, configSubscription]

def browser : Schema :=
  .object
    [("theme", choice ["system", "light", "dark"]), ("language", choice ["auto", "en", "ru"]),
    ("routing", browserRouting),
    ("webRTC", choice ["browser", "default", "default_public_and_private_interfaces",
      "default_public_interface_only", "disable_non_proxied_udp", "proxy_only", "disabled"])] []

/-- `megaproxy-v8.schema.json`. -/
def megaProxy : Schema :=
  .object
    [("schema", choice ["net.megaproxy487.config", "dev.megaproxy.config"]),
    ("version", .const (.int 8)), ("passwordsIncluded", boolean),
    ("privateKeysIncluded", boolean), ("activeProfileId", profileIdOrNull),
    ("alwaysOnProfileId", profileIdOrNull), ("diagnosticLogLimitMb", integerIn 1 100),
    ("tls", tls), ("ssh", ssh), ("failover", failover), ("routing", routing),
    ("profiles", arrayUpTo 1000 profile [.minItems 1]), ("browser", browser),
    ("subscription", subscription)] ["schema", "version", "profiles"]

end Schema

end PxManager.Export
