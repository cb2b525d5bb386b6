import SingBox.Lib.Errors
import SingBox.Lib.Loops
import SingBox.Lib.Text

namespace SingBox.Dns.Servers

open Lib.Errors Lib.Loops Lib.Text

structure URL where
  scheme : String := ""
  hostname : String := ""
  path : String := ""

structure ServerOptions (δ : Type) where
  tag : String := ""
  address : List String
  addressResolver : String := ""
  rest : δ

/-- No value of `parseURL` stands for an error of `url.Parse`; a transport is made with the tag of its
resolver, if it needs one. -/
structure Env (δ : Type) where
  toLower : String → String
  parseURL : String → Option URL
  isAddress : String → Bool
  inHosts : String → Bool
  createTransport : String → ServerOptions δ → Option String → Except String Unit

inductive Failure where
  | error (text : String)
  | circular (unresolvedTags : List String)
  | panic
  | spins
  deriving DecidableEq

def Failure.text : Failure → String
  | .error text => text
  | .circular unresolvedTags => "found circular reference in dns servers: " ++ join " " unresolvedTags
  | _ => ""

variable {δ : Type}

def serverTag (i : ℕ) (server : ServerOptions δ) : String :=
  if server.tag ≠ "" then server.tag else toString i

def transportTags (servers : List (ServerOptions δ)) : List String := servers.mapIdx serverTag

def duplicate? : List String → List String → Option String
  | _, [] => none
  | seen, tag :: tags => if seen.contains tag then some tag else duplicate? (tag :: seen) tags

variable (env : Env δ)

def needsResolver (address serverAddress : String) : Bool :=
  let serverAddress := if serverAddress = "" then address else serverAddress
  !env.isAddress serverAddress && !env.inHosts serverAddress

/-- Whether the address has to be resolved. The URL is used without a look at the error. -/
def addressNeeds (tag : String) (i : ℕ) (address : String) : Except Failure Bool :=
  let address := trimSpace address
  let place := "parse dns server[" ++ tag ++ "].address[" ++ toString i ++ "]"
  if env.toLower address = "" then .error (.error (place ++ ": empty address"))
  else if env.toLower address = "local" ∨ env.toLower address = "fakeip" then .ok false
  else if contains address "://" then
    match env.parseURL address with
    | none => .error .panic
    | some serverURL =>
      if serverURL.scheme = "rcode" ∨ serverURL.scheme = "dhcp" then .ok false
      else if serverURL.hostname ≠ "" then .ok (needsResolver env address serverURL.hostname)
      else if serverURL.scheme ≠ "" then .error (.error (place ++ ": missing hostname"))
      else .ok (needsResolver env address serverURL.path)
  else .ok (needsResolver env address "")

def needUpstream (tag : String) : ℕ → List String → Except Failure Bool
  | _, [] => .ok false
  | i, address :: rest => do
    let needs ← addressNeeds env tag i address
    let others ← needUpstream tag (i + 1) rest
    return needs || others

def findResolver (tags : List String) (tag : String) (server : ServerOptions δ) :
    Bool → Except Failure (Option String)
  | false => .ok none
  | true =>
    if server.addressResolver = "" then
      .error (.error ("parse dns server[" ++ tag ++ "]: missing address_resolver"))
    else if !tags.contains server.addressResolver then
      .error (.error ("parse dns server[" ++ tag ++ "]: address resolver not found: " ++ server.addressResolver))
    else .ok (some server.addressResolver)

def upstreamOf (tags : List String) (tag : String) (server : ServerOptions δ) :
    Except Failure (Option String) :=
  if server.address = [] then .error (.error ("parse dns server[" ++ tag ++ "]: missing address"))
  else needUpstream env tag 0 server.address >>= findResolver tags tag server

def build (tag : String) (server : ServerOptions δ) (upstream : Option String) (built : List String) :
    Except Failure (List String) :=
  match env.createTransport tag server upstream with
  | .ok () => .ok (built ++ [tag])
  | .error err => .error (.error (cause err ("parse dns server[" ++ tag ++ "]")))

def serverStep (tags : List String) (built : List String) (entry : String × ServerOptions δ) :
    Except Failure (List String) :=
  if built.contains entry.1 then .ok built
  else match upstreamOf env tags entry.1 entry.2 with
    | .error failure => .error failure
    | .ok upstream =>
      if upstream.all built.contains then build env entry.1 entry.2 upstream built else .ok built

def pass (tags : List String) (entries : List (String × ServerOptions δ)) (built : List String) :
    Except Failure (List String) :=
  entries.foldlM (serverStep env tags) built

def unresolvedTags (tags built : List String) : List String :=
  (tags.filter fun tag => !built.contains tag).mapIdx fun i _ => tags.getD i ""

def buildTurn (tags : List String) (entries : List (String × ServerOptions δ)) (built : List String) :
    Turn (List String) (Except Failure Unit) :=
  match pass env tags entries built with
  | .error failure => .leave built (.error failure)
  | .ok built' =>
    if entries.length = built'.length then .leave built' (.ok ())
    else if built.length ≠ built'.length then .again built'
    else if (unresolvedTags tags built').isEmpty then .leave built' (.error .panic)
    else .leave built' (.error (.circular (unresolvedTags tags built')))

def newTransports (servers : List (ServerOptions δ)) : Except Failure (List String) :=
  let tags := transportTags servers
  match duplicate? [] tags with
  | some tag => .error (.error ("duplicate dns server tag: " ++ tag))
  | none => match loop (buildTurn env tags (tags.zip servers)) (servers.length + 1) [] with
    | some (built, result) => result.map fun _ => built
    | none => .error .spins

end SingBox.Dns.Servers
