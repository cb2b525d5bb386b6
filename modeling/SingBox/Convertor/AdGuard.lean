import SingBox.Lib.Text
import SingBox.Route.HeadlessBuilder

namespace SingBox.AdGuard

open Lib.Text Route String

abbrev Line := List Char

/-- `netip.ParseAddr` with whether the address is unspecified, and `M.ParseAddr(s).IsUnspecified`. -/
structure Addresses where
  parseAddr : Line → Option Bool
  isUnspecified : Line → Bool

structure RuleLine where
  ruleLine : String
  isRawDomain : Bool := false
  isExclude : Bool := false
  isSuffix : Bool := false
  hasStart : Bool := false
  hasEnd : Bool := false
  isRegexp : Bool := false
  isImportant : Bool := false
  deriving DecidableEq

inductive Parsed where
  | ignored
  | rule (line : RuleLine)
  | panic

variable (env : Env) (addrs : Addresses)

def parseHostLine (line : Line) : Option Parsed :=
  match cut [' '] line with
  | none => none
  | some (address, domain) =>
    match addrs.parseAddr address with
    | none => none
    | some false => some .ignored
    | some true =>
      if !env.isDomainName (ofList domain) then none
      else if domain.isEmpty then some .ignored
      else some (.rule
        { ruleLine := ofList domain, isRawDomain := true, hasStart := true, hasEnd := true })

def modifier (param : Line) : Option Bool :=
  match param.splitOn '=' with
  | [name] => if name = "important".toList then some true else none
  | [name, value] =>
    if name = "important".toList then some true
    else if name = "dnsrewrite".toList ∧ addrs.isUnspecified value then some false
    else none
  | _ => none

def modifiers (line : Line) : Option Bool :=
  if !(['/'].isPrefixOf line) && (cut ['$'] line).isSome then
    (((substringAfter ['$'] line).splitOn ',').mapM (modifier addrs)).map fun l => l.any id
  else some false

def withoutModifiers (line : Line) : Line :=
  if ['/'].isPrefixOf line then line else substringBefore ['$'] line

def parseUint8 (s : Line) : Option ℕ := (digits? s).filter (· < 256)

def ignoreIPCIDRRegexp (line : Line) : Bool :=
  let number (rest : Line) : Bool := (parseUint8 (substringBefore "\\.".toList rest)).isSome
  if "(http?:\\/\\/)".toList.isPrefixOf line then number (line.drop 12)
  else if "(https?:\\/\\/)".toList.isPrefixOf line then number (line.drop 13)
  else if ['^'].isPrefixOf line then number (line.drop 1)
  else false

/-- The bytes that become the address, and the length of the network. -/
def parseADGuardIPCIDRLine (line : Line) : Option (List ℕ × ℕ) :=
  let isPrefix := ['.'].isSuffixOf line
  let ruleStringParts := (trimSuffix ['.'] line).splitOn '.'
  if ruleStringParts.length > 4 ∨ ruleStringParts.length < 4 ∧ !isPrefix then none
  else (ruleStringParts.mapM parseUint8).map fun ruleParts =>
    (ruleParts ++ List.replicate (4 - ruleParts.length) 0, ruleParts.length * 8)

/-- A pattern that is no domain name is ignored, whether it is an address, has a port or neither. The
bytes of an address are converted to an array of four, which panics if there are fewer. -/
def parsePattern (rule : RuleLine) (line : Line) : Parsed :=
  let line := substringAfter "://".toList line
  let domainCheck := if ['.'].isPrefixOf line || ['-'].isPrefixOf line then 'r' :: line else line
  if line.contains '/' || (cut "##".toList line).isSome || (cut "#$#".toList line).isSome then .ignored
  else if line.isEmpty then .ignored
  else if !env.isDomainName (ofList (domainCheck.map fun c => if c = '*' then 'x' else c)) then
    if (parseADGuardIPCIDRLine line).any fun x => x.1.length < 4 then .panic else .ignored
  else .rule { rule with ruleLine := ofList line }

/-- The expression between slashes; a single slash is both the first and the last one. -/
def parseRegexp (rule : RuleLine) (line : Line) : Parsed :=
  if line.length < 2 then .panic
  else
    let regexp := (line.drop 1).dropLast
    if ignoreIPCIDRRegexp regexp then .ignored
    else .rule { rule with ruleLine := ofList regexp, isRegexp := true }

def parseRule (isImportant : Bool) (line : Line) : Parsed :=
  let isExclude := "@@".toList.isPrefixOf line
  let line := if isExclude then line.drop 2 else line
  let line := trimSuffix ['|'] line
  let isSuffix := "||".toList.isPrefixOf line
  let hasStart := !isSuffix && ['|'].isPrefixOf line
  let line := if isSuffix then line.drop 2 else if hasStart then line.drop 1 else line
  let hasEnd := ['^'].isSuffixOf line
  let line := trimSuffix ['^'] line
  let rule : RuleLine := { ruleLine := "", isExclude, isSuffix, hasStart, hasEnd, isImportant }
  if ['/'].isPrefixOf line && ['/'].isSuffixOf line then parseRegexp rule line
  else parsePattern env rule line

def parseLine (line : Line) : Parsed :=
  if line.isEmpty || line.head? == some '!' || line.head? == some '#' then .ignored
  else if env.isDomainName (ofList line) then
    .rule { ruleLine := ofList line, isRawDomain := true }
  else match parseHostLine env addrs line with
    | some parsed => parsed
    | none =>
      let line := trimSuffix ['|'] line
      match modifiers addrs line with
      | none => .ignored
      | some isImportant => parseRule env isImportant (withoutModifiers line)

def Parsed.rule? : Parsed → Option RuleLine
  | .rule line => some line
  | _ => none

def Parsed.isPanic : Parsed → Bool
  | .panic => true
  | _ => false

def dropCR (line : Line) : Line := trimSuffix ['\r'] line

def textLines (text : String) : List Line := text.toList.splitOn '\n'

/-- `bufio.Scanner` stops at a line that does not fit into its buffer. -/
def scan (lines : List Line) : List Line :=
  lines.takeWhile fun line => (ofList line).utf8ByteSize < 64 * 1024

def ruleLines (env : Env) (addrs : Addresses) (lines : List Line) : List RuleLine :=
  lines.filterMap fun line => (parseLine env addrs (dropCR line)).rule?

def mapDomain (it : RuleLine) : String :=
  (if it.isSuffix then "||" ++ it.ruleLine else if it.hasStart then "|" ++ it.ruleLine else it.ruleLine) ++
    if it.hasEnd then "^" else ""

def select (isImportant isExclude isRegexp : Bool) (lines : List RuleLine) : List String :=
  (lines.filter fun it =>
    it.isImportant == isImportant && it.isRegexp == isRegexp && it.isExclude == isExclude).map mapDomain

def classRule (isImportant isExclude invert : Bool) (lines : List RuleLine) : HeadlessRuleOptions :=
  .default
    { adGuardDomain := some (select isImportant isExclude false lines)
      domainRegex := some (select isImportant isExclude true lines)
      invert }

def hasClass (isImportant isExclude : Bool) (lines : List RuleLine) : Bool :=
  !(select isImportant isExclude false lines).isEmpty || !(select isImportant isExclude true lines).isEmpty

def excludeRule (lines : List RuleLine) : HeadlessRuleOptions :=
  if hasClass false true lines then
    .logical "and" [classRule false true true lines, classRule false false false lines] false
  else classRule false false false lines

def importantRule (lines : List RuleLine) : HeadlessRuleOptions :=
  if hasClass true false lines then
    .logical "or" [classRule true false false lines, excludeRule lines] false
  else excludeRule lines

def importantExcludeRule (lines : List RuleLine) : HeadlessRuleOptions :=
  if hasClass true true lines then
    .logical "and" [classRule true true true lines, importantRule lines] false
  else importantRule lines

def convertLines (lines : List RuleLine) : HeadlessRuleOptions :=
  if lines.all RuleLine.isRawDomain then .default { domain := some (lines.map RuleLine.ruleLine) }
  else importantExcludeRule lines

inductive Failure where
  | error (err : String)
  | panic

def convert (env : Env) (addrs : Addresses) (text : String) :
    Except Failure (List HeadlessRuleOptions) :=
  let lines := scan (textLines text)
  if lines.any fun line => (parseLine env addrs (dropCR line)).isPanic then .error .panic
  else if (ruleLines env addrs lines).isEmpty then
    .error (.error "AdGuard rule-set is empty or all rules are unsupported")
  else .ok [convertLines (ruleLines env addrs lines)]

end SingBox.AdGuard
