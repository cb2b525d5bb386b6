import SingBox.Lib.Wire
import SingBox.Route.HeadlessBuilder

namespace SingBox.Srs

open Lib.Errors Lib.Wire Route

/-- The formats of the libraries. A list of ranges is read into a slice of known length, so its elements
are written one by one. -/
structure Formats (lib : Library) where
  strings : Format (List String)
  uint16s : Format (List UInt16)
  writeMatcher : (legacy : Bool) → List String → List String → Bytes
  readMatcher : Reader DomainMatcher
  reads_matcher : ∀ legacy domains suffixes, ∃ dump, ∀ rest,
    Reads readMatcher (writeMatcher legacy domains suffixes ++ rest)
      ⟨lib.newMatcher domains suffixes, dump⟩ rest
  writeAdGuardMatcher : List String → Bytes
  readAdGuardMatcher : Reader (String → Bool)
  reads_adGuardMatcher : ∀ lines rest,
    Reads readAdGuardMatcher (writeAdGuardMatcher lines ++ rest) (lib.newAdGuardMatcher lines) rest
  writeRange : Bytes × Bytes → Bytes
  readRanges : ℕ → Reader (List (Bytes × Bytes))
  reads_ranges : ∀ ranges, ranges ≠ [] → ∀ rest,
    Reads (readRanges ranges.length) (ranges.flatMap writeRange ++ rest) ranges rest
  buildIPSet_ne_nil : ∀ ranges, ranges ≠ [] → lib.buildIPSet ranges ≠ []
  asSlice : Option IPAddr → Bytes
  addrFromIP : Bytes → Option IPAddr
  addrFromIP_asSlice : ∀ ranges, ∀ range ∈ lib.buildIPSet ranges,
    addrFromIP (asSlice range.first) = range.first ∧ addrFromIP (asSlice range.last) = range.last
  prefixes : List IPRange → List String
  compress : Bytes → Bytes
  /-- What the zlib reader hands over up to its end or its first error, truncation and a wrong checksum
  among them; an error only if there is no zlib header. -/
  delivers : Bytes → Except String Bytes
  delivers_compress : ∀ data, delivers (compress data) = .ok data

inductive RuleItemType where
  | queryType
  | network
  | domain
  | domainKeyword
  | domainRegex
  | sourceIPCIDR
  | ipCIDR
  | sourcePort
  | sourcePortRange
  | port
  | portRange
  | processName
  | processPath
  | packageName
  | wifiSSID
  | wifiBSSID
  | adGuardDomain
  deriving DecidableEq, Repr

namespace RuleItemType

def all : List RuleItemType :=
  [queryType, network, domain, domainKeyword, domainRegex, sourceIPCIDR, ipCIDR, sourcePort,
    sourcePortRange, port, portRange, processName, processPath, packageName, wifiSSID, wifiBSSID,
    adGuardDomain]

def code : RuleItemType → UInt8
  | queryType => 0
  | network => 1
  | domain => 2
  | domainKeyword => 3
  | domainRegex => 4
  | sourceIPCIDR => 5
  | ipCIDR => 6
  | sourcePort => 7
  | sourcePortRange => 8
  | port => 9
  | portRange => 10
  | processName => 11
  | processPath => 12
  | packageName => 13
  | wifiSSID => 14
  | wifiBSSID => 15
  | adGuardDomain => 16

def ofByte (b : UInt8) : Option RuleItemType := all.find? fun t => t.code == b

lemma ofByte_code (t : RuleItemType) : ofByte t.code = some t := by
  cases t <;> decide

end RuleItemType

def ruleItemFinal : UInt8 := 0xFF

lemma RuleItemType.code_ne_final (t : RuleItemType) : t.code ≠ ruleItemFinal := by
  cases t <;> decide

def magicBytes : Bytes := [0x53, 0x52, 0x53]

variable {lib : Library} (w : Formats lib) (generateUnstable : Bool)

def writeIPSet (ipSet : List IPRange) : Bytes :=
  1 :: putBigEndian 8 ipSet.length ++
    ipSet.flatMap fun range => w.writeRange (w.asSlice range.first, w.asSlice range.last)

def writeItem {α : Type} (itemType : RuleItemType) (write : List α → Bytes) (values : List α) :
    Bytes :=
  if values.isEmpty then [] else itemType.code :: write values

def writeRuleItemCIDR (itemType : RuleItemType) (name : String) (values : List String) :
    Except String Bytes :=
  if values.isEmpty then .ok []
  else match HeadlessItem.parseIPSet lib values with
    | .ok ipSet => .ok (itemType.code :: writeIPSet w ipSet)
    | .error err => .error (cause err name)

def writeDomain (domains suffixes : List String) : Bytes :=
  if !domains.isEmpty || !suffixes.isEmpty then
    RuleItemType.domain.code :: w.writeMatcher (!generateUnstable) domains suffixes
  else []

def writeDefaultRule (o : DefaultHeadlessOptions) : Except String Bytes := do
  let sourceIPCIDR ← writeRuleItemCIDR w .sourceIPCIDR "source_ip_cidr" o.sourceIPCIDR.values
  let ipCIDR ← writeRuleItemCIDR w .ipCIDR "ipcidr" o.ipCIDR.values
  let items : List Bytes :=
    [writeItem .queryType w.uint16s.write o.queryType.values,
      writeItem .network w.strings.write o.network.values,
      writeDomain w generateUnstable o.domain.values o.domainSuffix.values,
      writeItem .domainKeyword w.strings.write o.domainKeyword.values,
      writeItem .domainRegex w.strings.write o.domainRegex.values,
      sourceIPCIDR,
      ipCIDR,
      writeItem .sourcePort w.uint16s.write o.sourcePort.values,
      writeItem .sourcePortRange w.strings.write o.sourcePortRange.values,
      writeItem .port w.uint16s.write o.port.values,
      writeItem .portRange w.strings.write o.portRange.values,
      writeItem .processName w.strings.write o.processName.values,
      writeItem .processPath w.strings.write o.processPath.values,
      writeItem .packageName w.strings.write o.packageName.values,
      writeItem .wifiSSID w.strings.write o.wifiSSID.values,
      writeItem .wifiBSSID w.strings.write o.wifiBSSID.values,
      writeItem .adGuardDomain w.writeAdGuardMatcher o.adGuardDomain.values]
  return 0 :: (items.flatten ++ [ruleItemFinal, putBool o.invert])

/-- The panic on a mode that is neither `and` nor `or` is an error here. -/
def writeMode (mode : String) : Except String UInt8 :=
  if mode == "and" then .ok 0
  else if mode == "or" then .ok 1
  else .error ("unknown logical mode: " ++ mode)

mutual

def writeRule : HeadlessRuleOptions → Except String Bytes
  | .default o => writeDefaultRule w generateUnstable o
  | .logical mode rules invert => do
    let modeByte ← writeMode mode
    let subs ← writeRules rules
    return 1 :: modeByte :: (writeUvarint rules.length ++ (subs.flatten ++ [putBool invert]))

def writeRules : List HeadlessRuleOptions → Except String (List Bytes)
  | [] => .ok []
  | rule :: rules => do
    let data ← writeRule rule
    let rest ← writeRules rules
    return data :: rest

end

def write (rules : List HeadlessRuleOptions) : Except String Bytes := do
  let data ← writeRules w generateUnstable rules
  return magicBytes ++
    (if generateUnstable then 2 else 1) :: w.compress (writeUvarint rules.length ++ data.flatten)

variable (w : Formats lib) (recover : Bool)

def readIPSet : Reader (List IPRange) := do
  let version ← readByte
  if version ≠ 1 then fail "invalid argument"
  else do
    let length ← readBigEndian 8
    let ranges ← w.readRanges length
    return ranges.map fun data => ⟨w.addrFromIP data.1, w.addrFromIP data.2⟩

def readItem (rule : DefaultHeadlessOptions) : RuleItemType → Reader DefaultHeadlessOptions
  | .queryType => (fun l => { rule with queryType := some l }) <$> w.uint16s.read
  | .network => (fun l => { rule with network := some l }) <$> w.strings.read
  | .domain => do
    let matcher ← w.readMatcher
    let rule := { rule with domainMatcher := some matcher }
    return if recover then
        { rule with domain := some matcher.dump.1, domainSuffix := some matcher.dump.2 }
      else rule
  | .domainKeyword => (fun l => { rule with domainKeyword := some l }) <$> w.strings.read
  | .domainRegex => (fun l => { rule with domainRegex := some l }) <$> w.strings.read
  | .sourceIPCIDR => do
    let ipSet ← readIPSet w
    let rule := { rule with sourceIPSet := some ipSet }
    return if recover then { rule with sourceIPCIDR := some (w.prefixes ipSet) } else rule
  | .ipCIDR => do
    let ipSet ← readIPSet w
    let rule := { rule with ipSet := some ipSet }
    return if recover then { rule with ipCIDR := some (w.prefixes ipSet) } else rule
  | .sourcePort => (fun l => { rule with sourcePort := some l }) <$> w.uint16s.read
  | .sourcePortRange => (fun l => { rule with sourcePortRange := some l }) <$> w.strings.read
  | .port => (fun l => { rule with port := some l }) <$> w.uint16s.read
  | .portRange => (fun l => { rule with portRange := some l }) <$> w.strings.read
  | .processName => (fun l => { rule with processName := some l }) <$> w.strings.read
  | .processPath => (fun l => { rule with processPath := some l }) <$> w.strings.read
  | .packageName => (fun l => { rule with packageName := some l }) <$> w.strings.read
  | .wifiSSID => (fun l => { rule with wifiSSID := some l }) <$> w.strings.read
  | .wifiBSSID => (fun l => { rule with wifiBSSID := some l }) <$> w.strings.read
  | .adGuardDomain =>
    if recover then fail "unable to decompile binary AdGuard rules to rule-set"
    else (fun matcher => { rule with adGuardDomainMatcher := some matcher }) <$> w.readAdGuardMatcher

/-- The loop of `readDefaultRule`. Each turn takes at least a byte, so that the loop is at the end
of its input when it has had as many turns as the input has bytes. -/
def readItems : ℕ → UInt8 → DefaultHeadlessOptions → Reader DefaultHeadlessOptions
  | 0, _, _ => fail "EOF"
  | turns + 1, lastItemType, rule => do
    let itemType ← readByte
    if itemType = ruleItemFinal then (fun invert => { rule with invert }) <$> readBool
    else match RuleItemType.ofByte itemType with
      | none => fail ("unknown rule item type: " ++ toString itemType ++ ", last type: " ++
          toString lastItemType)
      | some t => do
        let rule ← readItem w recover rule t
        readItems turns itemType rule

def readDefaultRule : Reader DefaultHeadlessOptions := fun s =>
  readItems w recover s.length 0 {} s

def readMode : Reader String := do
  let mode ← readByte
  if mode = 0 then return "and"
  else if mode = 1 then return "or"
  else fail ("unknown logical mode: " ++ toString mode)

def readLogicalRule (readRule : Reader HeadlessRuleOptions) : Reader HeadlessRuleOptions := do
  let mode ← readMode
  let length ← readUvarint
  let rules ← readMany readRule
    (fun i err => cause err ("read logical rule [" ++ toString i ++ "]")) 0 length
  let invert ← readBool
  return .logical mode rules invert

def readRule : ℕ → Reader HeadlessRuleOptions
  | 0 => fail "EOF"
  | depth + 1 => do
    let ruleType ← readByte
    if ruleType = 0 then HeadlessRuleOptions.default <$> readDefaultRule w recover
    else if ruleType = 1 then readLogicalRule (readRule depth)
    else fail ("unknown rule type: " ++ toString ruleType)

def readRules : Reader (List HeadlessRuleOptions) := fun s => (do
  let length ← readUvarint
  readMany (readRule w recover s.length)
    (fun i err => cause err ("read rule[" ++ toString i ++ "]")) 0 length : Reader _) s

def readHeader : Reader Unit := do
  let magic ← readFull 3
  if magic ≠ magicBytes then fail "invalid sing-box rule-set file"
  else do
    let version ← readByte
    if 2 < version then fail ("unsupported version: " ++ toString version) else return

/-- The rules are read while the stream expands, and what follows them is not asked for. -/
def read (data : Bytes) : Except String (List HeadlessRuleOptions) := do
  let header ← readHeader data
  let plain ← w.delivers header.2
  let rules ← readRules w recover plain
  return rules.1

end SingBox.Srs
