import NouvaAgent.CredentialShapes
import NouvaAgent.Json
import Mathlib.Data.List.Sort

namespace NouvaAgent.LogRedaction

open LiteralRedaction LiteralSecretMatcher CredentialShapes

abbrev EnvironmentVariableMap := List (Units × Option Units)

/-- What redaction takes from its process: the process's own environment, the string values of the
object that `JSON.parse` reads from a text (none if it is not an object), and the passes over the
shapes of credentials. -/
structure LogProcess where
  environment : EnvironmentVariableMap
  keyringValues : Units → List Units
  redactCredentialShapes : Units → Units := CredentialShapes.redactCredentialShapes

structure LogRedactionOptions where
  assignedNames : List Units := []
  environmentVariables : Option EnvironmentVariableMap := none
  exactStructuredValues : List Units := []
  operationalValues : List Units := []
  platformGeneratedValues : List Units := []
  preserveObjectKeys : Bool := false
  secretValues : Option (List Units) := none

/-- Beside `A` to `Z`, the characters that have a Latin letter as their lower case. -/
def toLowerCase (value : Units) : Units :=
  value.flatMap fun c =>
    if c = 8490 then [107] else if c = 304 then [105, 775] else [lower c]

def trim (value : Units) : Units :=
  ((value.dropWhile isWhiteSpace).reverse.dropWhile isWhiteSpace).reverse

def normalizeLogKey (value : Units) : Units :=
  (toLowerCase value).filter fun c => !((units "-_.").contains c || isWhiteSpace c)

def includes (value search : Units) : Bool := decide (search <:+: value)

def sensitiveLogKeyNames : List Units :=
  [units "authorization", units "body", units "cookie", units "credential", units "formdata",
    units "idempotencykey", units "password", units "payload", units "proxyauthorization",
    units "rawbody", units "requestbody", units "responsebody", units "secret", units "setcookie",
    units "token"]

def sensitiveEnvironmentNames : List Units :=
  [units "connectionstring", units "databaseurl", units "environmentmapencryptionkeys",
    units "redisurl"]

def secretAttributeEnvironmentNameSuffixes : List Units :=
  [units "dir", units "disabled", units "domain", units "enabled", units "file", units "name",
    units "names", units "path", units "version"]

def publicEnvironmentNamePrefix : Units := units "nextpublic"

def flagEnvironmentValues : List Units :=
  [units "0", units "1", units "false", units "no", units "off", units "on", units "true",
    units "yes"]

def isSensitiveLogKey (value : Units) : Bool :=
  let normalized := normalizeLogKey value
  sensitiveLogKeyNames.contains normalized ||
    [units "authorization", units "cookie", units "credential", units "idempotencykey",
      units "password", units "privatekey", units "secret", units "signature", units "token",
      units "apikey", units "accesskey"].any (includes normalized)

def isSecretAttributeEnvironmentName (normalized : Units) : Bool :=
  publicEnvironmentNamePrefix.isPrefixOf normalized ||
    secretAttributeEnvironmentNameSuffixes.any fun suffix => suffix.isSuffixOf normalized

def isSensitiveEnvironmentName (value : Units) : Bool :=
  let normalized := normalizeLogKey value
  if isSecretAttributeEnvironmentName normalized then false
  else isSensitiveLogKey value || sensitiveEnvironmentNames.contains normalized ||
    (units "dsn").isSuffixOf normalized || (units "key").isSuffixOf normalized ||
    includes normalized (units "privatekey")

def isFlagEnvironmentValue (value : Units) : Bool :=
  flagEnvironmentValues.contains (toLowerCase (trim value))

def minSubstringTokenLength : ℕ := 3

def maxWordTokenLength : ℕ := 12

def isUpper (c : UInt16) : Bool := 65 ≤ c && c ≤ 90

def isLower (c : UInt16) : Bool := 97 ≤ c && c ≤ 122

def isDigit (c : UInt16) : Bool := 48 ≤ c && c ≤ 57

/-- `/^(?:[A-Za-z][a-z]*|[A-Z]+)$/`. -/
def matchesWordToken : Units → Bool
  | [] => false
  | c :: rest => ((isUpper c || isLower c) && rest.all isLower) || (c :: rest).all isUpper

def numberOf (digits : Units) : ℕ := digits.foldl (fun n c => 10 * n + (c.toNat - 48)) 0

/-- `/^[1-9]\d{0,4}$/`, and a number of 16 bits. -/
def isPortNumber : Units → Bool
  | [] => false
  | c :: rest => (49 ≤ c && c ≤ 57) && rest.all isDigit && rest.length ≤ 4 &&
    numberOf (c :: rest) ≤ 65535

inductive RedactionTokenProvenance where
  | customer | platform
  deriving DecidableEq, Repr

inductive RedactionTokenMatch where
  | boundary | substring
  deriving DecidableEq, Repr

def classifyRedactionToken (token : Units) (provenance : RedactionTokenProvenance) :
    RedactionTokenMatch :=
  if token.length < minSubstringTokenLength then .boundary
  else if provenance ≠ .platform then .substring
  else if token.length ≤ maxWordTokenLength ∧ matchesWordToken token = true then .boundary
  else .substring

def tokenMatch (platformGeneratedValues : List Units) (token : Units) : RedactionTokenMatch :=
  classifyRedactionToken token
    (if platformGeneratedValues.contains token then .platform else .customer)

def partitionRedactionTokens (tokens platformGeneratedValues : List Units) :
    List Units × List Units :=
  (tokens.filter fun token => tokenMatch platformGeneratedValues token = .boundary,
    tokens.filter fun token => tokenMatch platformGeneratedValues token = .substring)

def uniqueSortedSecretValues (secretValues : List Units) : List Units :=
  ((secretValues.filter fun value => 0 < value.length).eraseDups).insertionSort
    fun left right => right.length ≤ left.length

def normalizedConfiguredSecretValues (secretValues : List Units) : List Units :=
  uniqueSortedSecretValues (secretValues.filter fun value =>
    0 < value.length && value != redactedLogValue && value != units "undefined")

def collectEnvironmentMapSecretValues (environmentVariables : EnvironmentVariableMap) :
    List Units :=
  uniqueSortedSecretValues (environmentVariables.flatMap fun (key, value) =>
    (if 0 < key.length then [key] else []) ++ (value.toList.filter fun value => 0 < value.length))

def collectEnvironmentMapValues (environmentVariables : EnvironmentVariableMap) : List Units :=
  uniqueSortedSecretValues (environmentVariables.flatMap fun (_, value) =>
    value.toList.filter fun value => !isFlagEnvironmentValue value)

def collectConfiguredSecretValues (process : LogProcess) : List Units :=
  normalizedConfiguredSecretValues (process.environment.flatMap fun (key, value) =>
    match value with
    | none => []
    | some value =>
      if !isSensitiveEnvironmentName key || isFlagEnvironmentValue value then []
      else value :: if normalizeLogKey key = units "environmentmapencryptionkeys" then
        process.keyringValues value else [])

def percentEncoded (byte : ℕ) : Units :=
  units "%" ++ [byte / 16, byte % 16].map fun digit =>
    UInt16.ofNat (if digit < 10 then digit + 48 else digit + 55)

def utf8Bytes (c : ℕ) : List ℕ :=
  if c < 128 then [c]
  else if c < 2048 then [192 + c / 64, 128 + c % 64]
  else if c < 65536 then [224 + c / 4096, 128 + c / 64 % 64, 128 + c % 64]
  else [240 + c / 262144, 128 + c / 4096 % 64, 128 + c / 64 % 64, 128 + c % 64]

def isUnreserved (c : UInt16) : Bool :=
  isUpper c || isLower c || isDigit c || (units "-_.!~*'()").contains c

def encodeURIComponent : Units → Option Units
  | [] => some []
  | c :: rest =>
    if isUnreserved c then (encodeURIComponent rest).map (c :: ·)
    else if 0xDC00 ≤ c ∧ c ≤ 0xDFFF then none
    else if 0xD800 ≤ c ∧ c ≤ 0xDBFF then
      match rest with
      | [] => none
      | d :: rest =>
        if 0xDC00 ≤ d ∧ d ≤ 0xDFFF then
          (encodeURIComponent rest).map
            ((utf8Bytes (65536 + (c.toNat - 0xD800) * 1024 + (d.toNat - 0xDC00))).flatMap
              percentEncoded ++ ·)
        else none
    else (encodeURIComponent rest).map ((utf8Bytes c.toNat).flatMap percentEncoded ++ ·)

/-- The operational values as they are and encoded; none when an encoding throws. -/
def operationalExclusions : List Units → Option (List Units)
  | [] => some []
  | value :: rest =>
    if value.length = 0 then operationalExclusions rest
    else do
      let encoded ← encodeURIComponent value
      let exclusions ← operationalExclusions rest
      return value :: encoded :: exclusions

def resolveOperationalValueExclusions (options : LogRedactionOptions) : Option (List Units) :=
  (operationalExclusions options.operationalValues).map
    (· ++ options.platformGeneratedValues.filter isPortNumber)

def excludeOperationalValues (secretValues : List Units) (options : LogRedactionOptions) :
    Option (List Units) :=
  (resolveOperationalValueExclusions options).map fun exclusions =>
    secretValues.filter fun value => !exclusions.contains value

def optionEnvironmentValues (options : LogRedactionOptions) : List Units :=
  match options.environmentVariables with
  | none => []
  | some environmentVariables => collectEnvironmentMapSecretValues environmentVariables

def resolveSecretValues (process : LogProcess) (options : LogRedactionOptions) :
    Option (List Units) :=
  let configuredOrExplicitValues := match options.secretValues with
    | none => collectConfiguredSecretValues process
    | some secretValues => uniqueSortedSecretValues secretValues
  (excludeOperationalValues (configuredOrExplicitValues ++ optionEnvironmentValues options)
    options).map uniqueSortedSecretValues

def resolveExactStructuredValues (process : LogProcess) (options : LogRedactionOptions) :
    Option (List Units) := do
  let secretValues ← resolveSecretValues process options
  let values ← excludeOperationalValues
    (options.exactStructuredValues ++ secretValues ++ optionEnvironmentValues options) options
  return uniqueSortedSecretValues values

structure CompiledLogRedaction where
  assignedNames : List Units
  boundaryTextValues : List Units
  exactStructuredValues : List Units
  preserveObjectKeys : Bool
  substringMatcher : LiteralSecretMatcher UInt16

def compileLogRedaction (process : LogProcess) (options : LogRedactionOptions) :
    Option CompiledLogRedaction := do
  let secretValues ← resolveSecretValues process options
  let exactStructuredValues ← resolveExactStructuredValues process options
  let (boundary, substring) :=
    partitionRedactionTokens secretValues options.platformGeneratedValues
  return { assignedNames := options.assignedNames
           boundaryTextValues := boundary
           exactStructuredValues := exactStructuredValues
           preserveObjectKeys := options.preserveObjectKeys
           substringMatcher := createLiteralSecretMatcher substring }

def redactTextWithSecretMatcher (process : LogProcess) (value : Units)
    (redaction : CompiledLogRedaction) : Units :=
  process.redactCredentialShapes (redactLiteralSecretsWithMatcher value
    redaction.substringMatcher redaction.boundaryTextValues)

def createLogTextRedactor (process : LogProcess) (options : LogRedactionOptions) :
    Option (Units → Units) :=
  (compileLogRedaction process options).map fun redaction value =>
    redactTextWithSecretMatcher process value redaction

def createBuildLogRedactor (process : LogProcess) (environmentVariables : EnvironmentVariableMap)
    (platformGeneratedValues : List Units) : Option (Units → Units) :=
  createLogTextRedactor process {
    platformGeneratedValues := platformGeneratedValues
    secretValues := some (collectConfiguredSecretValues process ++
      collectEnvironmentMapValues environmentVariables) }

def sanitizeStructuredText (process : LogProcess) (value : Units)
    (redaction : CompiledLogRedaction) : Units :=
  if redaction.exactStructuredValues.contains value then redactedLogValue
  else redactTextWithSecretMatcher process value redaction

def sanitizeString (process : LogProcess) (redaction : CompiledLogRedaction) (value : Units) :
    Units :=
  if redaction.assignedNames.contains value then process.redactCredentialShapes value
  else sanitizeStructuredText process value redaction

mutual

def sanitizeValue (process : LogProcess) (redaction : CompiledLogRedaction) : Json → Json
  | .null => .null
  | .bool value => .bool value
  | .num value => .num value
  | .str value => .str (sanitizeString process redaction value)
  | .arr items => .arr (sanitizeItems process redaction items)
  | .obj entries => .obj (sanitizeEntries process redaction entries [])

def sanitizeItems (process : LogProcess) (redaction : CompiledLogRedaction) :
    List Json → List Json
  | [] => []
  | item :: rest =>
    sanitizeValue process redaction item :: sanitizeItems process redaction rest

def sanitizeEntries (process : LogProcess) (redaction : CompiledLogRedaction) :
    List (Units × Json) → List (Units × Json) → List (Units × Json)
  | [], result => result
  | (key, entry) :: rest, result =>
    let safeKey :=
      if redaction.preserveObjectKeys then key else sanitizeStructuredText process key redaction
    sanitizeEntries process redaction rest (Json.assign result safeKey
      (if isSensitiveLogKey key then .str redactedLogValue
        else sanitizeValue process redaction entry))

end

def sanitizeLogValue (process : LogProcess) (value : Json) (options : LogRedactionOptions) :
    Option Json :=
  (compileLogRedaction process options).map fun redaction => sanitizeValue process redaction value

def sanitizeSensitiveValue (process : LogProcess) (value : Json)
    (environmentVariables : EnvironmentVariableMap)
    (operationalValues assignedNames : List Units) : Option Json :=
  sanitizeLogValue process value {
    assignedNames := assignedNames
    environmentVariables := some environmentVariables
    operationalValues := operationalValues }

def sanitizeSensitiveProtocolValue (process : LogProcess) (value : Json)
    (environmentVariables : EnvironmentVariableMap)
    (operationalValues assignedNames : List Units) : Option Json :=
  sanitizeLogValue process value {
    assignedNames := assignedNames
    operationalValues := operationalValues
    preserveObjectKeys := true
    secretValues := some (collectConfiguredSecretValues process ++
      collectEnvironmentMapValues environmentVariables) }

end NouvaAgent.LogRedaction
