import SingBox.Outbound.System

namespace SingBox.Provider

open Adapter Groups Lib.Errors Lib.Table

structure Options (δ : Type) where
  type : OutboundType
  tag : String
  port : UInt16
  data : δ
  deriving DecidableEq

/-- What the provider with a given tag is made with: its parser (which applies the overrides of
the provider) and the constructor of outbounds, which may reject options. What it writes through
the pointers in the options stays in them, and is written again over the same options. -/
structure Env (δ : Type) where
  decodeBase64Safe : String → String
  isSubInfo : String → Bool
  newParser : String → String → Except String (List (Options δ))
  new : Options δ → Option (List Network)
  leaves : Options δ → δ
  leaves_leaves : ∀ o, leaves { o with data := leaves o } = leaves o
  new_leaves : ∀ o, new { o with data := leaves o } = new o

/-- Constructors that leave their options as they are, and contents that are not encoded. -/
def Env.plain {δ : Type} (newParser : String → String → Except String (List (Options δ)))
    (new : Options δ → Option (List Network)) : Env δ where
  decodeBase64Safe := id
  isSubInfo _ := false
  newParser := newParser
  new := new
  leaves := Options.data
  leaves_leaves _ := rfl
  new_leaves _ := rfl

inductive LogEntry where
  | start (id : ℕ) (ok : Bool)
  | close (id : ℕ) (listed : Bool)
  deriving DecidableEq, Repr

structure World (δ : Type) where
  net : State
  static : List Outbound := []
  routerStarted : Bool := true
  filters : String → Filter := fun _ => {}
  lastOuts : String → List (Options δ) := fun _ => []
  lastEtag : String → String := fun _ => ""
  nextId : ℕ := 0
  origin : ℕ → Option (Options δ) := fun _ => none
  log : List LogEntry := []

variable {δ : Type} [DecidableEq δ]

/-- The comparison is by tag, with the last of several options of one tag. -/
def checkChange (lastOuts outbounds : List (Options δ)) : Bool :=
  if lastOuts.length ≠ outbounds.length then true
  else !outbounds.all fun it => match fill Options.tag lastOuts it.tag with
    | some out => out == it
    | none => false

def finalOuts (filter : Filter) (outbounds : List (Options δ)) : List (Options δ) :=
  outbounds.filter fun it => filter.accepts it.tag it.type.name it.port

def isSkipped : OutboundType → Bool
  | .direct | .block | .dns | .selector | .urlTest => true
  | _ => false

def Options.left (leaves : Options δ → δ) (o : Options δ) : Options δ :=
  if isSkipped o.type then o else { o with data := leaves o }

variable (env : Env δ)

def construct (id : ℕ) (start : StartMethod) (o : Options δ) : Option Outbound :=
  if isSkipped o.type then none
  else (env.new o).map fun network =>
    { id, tag := o.tag, type := o.type, port := o.port, network, start }

def constructEach (starts : ℕ → StartMethod) : ℕ → List (Options δ) → List (Outbound × Options δ)
  | _, [] => []
  | id, o :: rest => match construct env id (starts id) o with
    | none => constructEach starts (id + 1) rest
    | some out => (out, o.left env.leaves) :: constructEach starts (id + 1) rest

/-- The options as the constructors leave them are the second result. -/
def createOutbounds (starts : ℕ → StartMethod) (outbounds : List (Options δ)) (w : World δ) :
    List Outbound × List (Options δ) × World δ :=
  let made := constructEach env starts w.nextId outbounds
  (made.map Prod.fst, outbounds.map (Options.left env.leaves), { w with
    nextId := w.nextId + outbounds.length
    origin := fun id => match made.find? fun x => x.1.id == id with
      | some x => some x.2
      | none => w.origin id })

/-- An empty list stands for the nil slice, which means both that nothing has changed and that no
outbound could be constructed. The constructors work on the slice that is kept as `lastOuts`. -/
def parseOutbounds (p content : String) (starts : ℕ → StartMethod) (w : World δ) :
    Except String (List Outbound) × World δ :=
  match env.newParser p content with
  | .error err => (.error err, w)
  | .ok outbounds =>
    let final := finalOuts (w.filters p) outbounds
    if !checkChange (w.lastOuts p) final then (.ok [], w)
    else
      let (outs, left, w) := createOutbounds env starts final w
      (.ok outs, { w with lastOuts := Function.update w.lastOuts p left })

def numbered (tag : String) (i : ℕ) : String := tag ++ "[" ++ toString i ++ "]"

def freshTag (used : List String) (tag : String) : String :=
  match (List.range (used.length + 1)).find? fun i => !used.contains (numbered tag (i + 1)) with
  | some i => numbered tag (i + 1)
  | none => tag

structure StartRun where
  outbounds : List Outbound
  log : List LogEntry
  err : Option String

/-- `SetTag` is called only for a tag that is in use, so an outbound without a tag keeps none. -/
def startEach (pTag : String) : ℕ → List String → List Outbound → StartRun
  | _, _, [] => ⟨[], [], none⟩
  | i, used, out :: rest =>
    let wanted := Startup.defaultTag pTag i out.tag
    let tag := if used.contains wanted then freshTag used wanted else wanted
    let out := if used.contains wanted then out.setTag tag else out
    match out.start with
    | .fails err => ⟨out :: rest, [.start out.id false],
        some (cause err ("initialize outbound provider[" ++ pTag ++ "] outbound/" ++
          out.type.name ++ "[" ++ tag ++ "]"))⟩
    | .succeeds =>
      let next := startEach pTag (i + 1) (tag :: used) rest
      ⟨out :: next.outbounds, .start out.id true :: next.log, next.err⟩
    | .absent =>
      let next := startEach pTag (i + 1) (tag :: used) rest
      ⟨out :: next.outbounds, next.log, next.err⟩

def usedTags (p : String) (w : World δ) : List String :=
  (if w.routerStarted then w.static.map Outbound.tag else []) ++
    (w.net.providers.filter fun q => q.tag != p).flatMap fun q => q.outbounds.map Outbound.tag

def startOutbounds (p : String) (outbounds : List Outbound) (w : World δ) : StartRun :=
  startEach p 0 (usedTags p w) outbounds

def World.setLists (p : String) (outbounds : List Outbound)
    (outboundByTag : String → Option Outbound) (w : World δ) : World δ :=
  { w with net := { w.net with
    providers := w.net.providers.map fun q =>
      if q.tag = p then { q with outbounds, outboundByTag } else q } }

def World.provider (p : String) (w : World δ) : Option Startup.Provider :=
  w.net.providers.find? fun q => q.tag == p

def World.outbounds (p : String) (w : World δ) : List Outbound :=
  ((w.provider p).map Startup.Provider.outbounds).getD []

def World.outboundByTag (p : String) (w : World δ) : String → Option Outbound :=
  ((w.provider p).map Startup.Provider.outboundByTag).getD fun _ => none

/-- Groups are updated in the order of the router until one fails. -/
def updateEach (p : String) : List ℕ → State → State × Option String
  | [], s => (s, none)
  | id :: ids, s => match s.find id with
    | none => updateEach p ids s
    | some g => match s.updateOutbounds p g with
      | .ok g => updateEach p ids (s.put g)
      | .error err => (s, some (cause err ("update outbound group[" ++ g.adapter.tag ++
          "] with outbound provider[" ++ p ++ "]")))

def updateGroups (p : String) (w : World δ) : World δ × Option String :=
  let result := updateEach p (if w.routerStarted then w.net.groups.map Group.id else []) w.net
  ({ w with net := result.1 }, result.2)

def closeOutbounds (p : String) (outbounds : List Outbound) (w : World δ) : World δ :=
  { w with log := w.log ++ outbounds.map fun out =>
      .close out.id ((w.outbounds p).any fun o => o.id == out.id) }

def installOutbounds (p : String) (outbounds : List Outbound) (w : World δ) :
    Except String Bool × World δ :=
  let started := startOutbounds p outbounds w
  let w := { w with log := w.log ++ started.log }
  match started.err with
  | some err => (.error err, w)
  | none =>
    let updated := updateGroups p
      (w.setLists p started.outbounds (fill Outbound.tag started.outbounds))
    match updated.2 with
    | some err => (.error err,
        (closeOutbounds p started.outbounds updated.1).setLists p (w.outbounds p) (w.outboundByTag p))
    | none => (.ok true, updated.1)

def updateProviderFromContent (p content : String) (starts : ℕ → StartMethod) (w : World δ) :
    Except String Bool × World δ :=
  match parseOutbounds env p (env.decodeBase64Safe content) starts w with
  | (.error err, w) => (.error err, w)
  | (.ok [], w) => (.ok false, w)
  | (.ok outbounds, w) => installOutbounds p outbounds w

inductive Response where
  | failed (err : String)
  | notModified
  | unexpected (status : String)
  | unreadable (err : String)
  | body (etag subInfo content : String)

def getFirstLine (content : String) : String × String :=
  match content.splitOn "\n" with
  | [] => ("", "")
  | [line] => (line, "")
  | line :: others => (line, String.intercalate "\n" others)

def strippedContent (subInfo raw : String) : String :=
  let content := env.decodeBase64Safe raw
  let lines := getFirstLine content
  if !env.isSubInfo subInfo && env.isSubInfo lines.1 then env.decodeBase64Safe lines.2 else content

def fetchOnce (p : String) (response : Response) (starts : ℕ → StartMethod) (w : World δ) :
    Option String × World δ :=
  match response with
  | .failed err => (some err, w)
  | .notModified => (none, w)
  | .unexpected status => (some ("unexpected status: " ++ status), w)
  | .unreadable err => (some err, w)
  | .body etag subInfo raw =>
    if raw = "" then (some "empty response", w)
    else
      let w := if etag = "" then w else { w with lastEtag := Function.update w.lastEtag p etag }
      match updateProviderFromContent env p (strippedContent env subInfo raw) starts w with
      | (.error err, w) => (some err, w)
      | (.ok _, w) => (none, w)

def idleWorld : World Unit where
  net := {
    outboundByTag := fun _ => none
    outboundless := { id := 0, tag := "OUTBOUNDLESS", type := .block }
    providers := [{ tag := "p", outbounds := [], outboundByTag := fun _ => none }]
    groups := []
    histories := fun _ _ => none }
  nextId := 1

end SingBox.Provider
