import Mathlib.Data.List.Forall2
import PushRelay.Config.Load
import PushRelay.Proofs.Config.Validation

/-!
# Settings in the environment and in a file

`Setting.all` lists what can be set, each setting under the name of its variable and its name in a file.
`ExportedBy` says that the variables of an environment say just what is set, `WrittenBy` that a text in
YAML does, both in whatever spelling.  What is read is then what is set, and `InRange` keeps out what is
refused under another name in either, or ignored in only one.

    o.WrittenIn doc → ofYaml? doc = some o                                          (ofYaml?_written)
    o.nodes.getD [] ≠ [] → load file readFile = load vars readFile                     (load_file_eq)

Without nodes the two differ.  An environment lists the node itself then, under the name that it has
there.  Under a file there is an environment too, in which nothing is set; it has listed the node under
the default name before the file gives it another one.
-/

namespace PushRelay.Config

/-! ## Settings -/

/-- A name that stands for itself in a list separated by commas. -/
def IsName (name : String) : Prop :=
  name ≠ "" ∧ ',' ∉ name.toList ∧ Text.trim name.toList = name.toList

instance (name : String) : Decidable (IsName name) :=
  inferInstanceAs (Decidable (name ≠ "" ∧ ',' ∉ name.toList ∧ Text.trim name.toList = name.toList))

/-- What a setting may be set to. -/
inductive Value where
  | text (s : String)
  | number (n : Nat)
  | integer (n : Int)
  | switch (on : Bool)
  | names (l : List String)
  deriving DecidableEq

namespace Value

/-- An environment variable with this text says the value. -/
def SaidBy (text : String) : Value → Prop
  | .text s => text = s
  | .number n =>
    Numeral.natural? Numeral.wordBound (Utf8.ofChars (Text.trim text.toList)) = some n
  | .integer n =>
    Numeral.integer? Numeral.int64Min Numeral.int64Max (Utf8.ofChars (Text.trim text.toList)) = some n
  | .switch on => ["1", "true", "yes"].contains text = on
  | .names l => Environment.splitNodes text = l

instance (text : String) : (v : Value) → Decidable (v.SaidBy text)
  | .text s => inferInstanceAs (Decidable (text = s))
  | .number _ | .integer _ => inferInstanceAs (Decidable (_ = some _))
  | .switch on => inferInstanceAs (Decidable (_ = on))
  | .names l => inferInstanceAs (Decidable (_ = l))

/-- A node of a document says the value. -/
def WrittenAs (doc : YamlDocument) (y : Yaml) : Value → Prop
  | .text s => y.text? = some s
  | .number n => Overrides.word? y = some n
  | .integer n => Overrides.int64? y = some n
  | .switch on => y.bool? = some on
  | .names l => Overrides.texts? doc y = some l

instance (doc : YamlDocument) (y : Yaml) : (v : Value) → Decidable (v.WrittenAs doc y)
  | .text _ | .number _ | .integer _ | .switch _ | .names _ => inferInstanceAs (Decidable (_ = some _))

/-- Numbers are such as their type has them, and names stand for themselves. -/
def Fits : Value → Prop
  | .text _ | .switch _ => True
  | .number n => n < Numeral.wordBound
  | .integer n => Numeral.int64Min ≤ n ∧ n ≤ Numeral.int64Max
  | .names l => ∀ name ∈ l, IsName name

instance : (v : Value) → Decidable v.Fits
  | .text _ | .switch _ => .isTrue trivial
  | .number n => inferInstanceAs (Decidable (n < Numeral.wordBound))
  | .integer n => inferInstanceAs (Decidable (Numeral.int64Min ≤ n ∧ n ≤ Numeral.int64Max))
  | .names l => inferInstanceAs (Decidable (∀ name ∈ l, IsName name))

end Value

/-- A setting under the name of its variable and its name in a file. -/
structure Setting where
  exported : String
  name : String
  value : Overrides → Option Value

namespace Setting

variable (exported name : String)

def text (get : Overrides → Option String) : Setting := ⟨exported, name, fun o => (get o).map .text⟩

def number (get : Overrides → Option Nat) : Setting := ⟨exported, name, fun o => (get o).map .number⟩

def integer (get : Overrides → Option Int) : Setting :=
  ⟨exported, name, fun o => (get o).map .integer⟩

def switch (get : Overrides → Option Bool) : Setting :=
  ⟨exported, name, fun o => (get o).map .switch⟩

def names (get : Overrides → Option (List String)) : Setting :=
  ⟨exported, name, fun o => (get o).map .names⟩

/-- All of them. -/
def all : List Setting :=
  [.text "COMET_NODE_ID" "node_id" (·.nodeId),
    .text "COMET_TCP_BIND" "tcp_bind" (·.tcpBind),
    .text "COMET_WS_BIND" "websocket_bind" (·.websocketBind),
    .text "COMET_ADMIN_BIND" "admin_bind" (·.adminBind),
    .text "COMET_METRICS_BIND" "metrics_bind" (·.metricsBind),
    .text "COMET_CHANNEL_KIND" "channel_kind" (·.channelKind),
    .number "COMET_CHANNEL_BUCKETS" "channel_buckets" (·.channelBuckets),
    .number "COMET_CHANNEL_EXPIRE_SECS" "channel_expire_secs" (·.channelExpireSecs),
    .number "COMET_MAX_CONNS" "max_conns_per_key" (·.maxConnsPerKey),
    .number "COMET_MAX_MESSAGES" "max_messages_per_key" (·.maxMessagesPerKey),
    .switch "COMET_TOKEN_AUTH" "token_auth" (·.tokenAuth),
    .number "COMET_MAX_TOKENS" "max_tokens" (·.maxTokens),
    .number "COMET_TOKEN_EXPIRE_SECS" "token_expire_secs" (·.tokenExpireSecs),
    .number "COMET_HEARTBEAT_SECS" "default_heartbeat_secs" (·.defaultHeartbeatSecs),
    .number "COMET_MAX_HEARTBEAT_SECS" "max_heartbeat_secs" (·.maxHeartbeatSecs),
    .number "COMET_CONN_QUEUE_DEPTH" "conn_queue_depth" (·.connQueueDepth),
    .number "COMET_MAX_ARG_BYTES" "max_arg_bytes" (·.maxArgBytes),
    .number "COMET_VNODES" "vnodes" (·.vnodes),
    .integer "COMET_WORKER_ID" "worker_id" (·.workerId),
    .text "COMET_MESSAGE_URL" "message_store_url" (·.messageStoreUrl),
    .text "COMET_MEMBERSHIP_URL" "membership_url" (·.membershipUrl),
    .number "COMET_MEMBERSHIP_POLL_MS" "membership_poll_ms" (·.membershipPollMs),
    .names "COMET_NODES" "nodes" (·.nodes)]

end Setting

/-- The configuration of which nothing is set. -/
def defaults : Config where
  nodeId := "1"
  tcpBind := .v4 [0, 0, 0, 0] 6969
  websocketBind := .v4 [0, 0, 0, 0] 6968
  adminBind := .v4 [127, 0, 0, 1] 6970
  metricsBind := .v4 [0, 0, 0, 0] 6971
  channelKind := .inner
  channelBuckets := 16
  channelExpireSecs := 3600
  maxConnsPerKey := 16
  maxMessagesPerKey := 64
  tokenAuth := false
  maxTokens := 16
  tokenExpireSecs := 86400
  defaultHeartbeatSecs := 30
  maxHeartbeatSecs := 600
  connQueueDepth := 64
  maxArgBytes := 1024
  vnodes := 255
  workerId := 0
  messageStoreUrl := none
  membershipUrl := none
  membershipPollMs := 2000
  nodes := ["1"]

namespace Overrides

variable {o : Overrides} {env : Environment} {doc : YamlDocument}

/-- The environment has the variables of what is set, and no others. -/
def ExportedBy (o : Overrides) (env : Environment) : Prop :=
  ∀ s ∈ Setting.all,
    List.Forall₂ Value.SaidBy (env.get? s.exported).toList (s.value o).toList

instance : Decidable (o.ExportedBy env) :=
  inferInstanceAs (Decidable (∀ s ∈ Setting.all, List.Forall₂ _ _ _))

/-- The document is a mapping with one entry for each setting that is set, and none for the others.  It
may have entries of other names. -/
def WrittenIn (o : Overrides) (doc : YamlDocument) : Prop :=
  ∃ entries ∈ named? doc, ∀ s ∈ Setting.all,
    List.Forall₂ (fun e v => e.2.isUnset? = some false ∧ v.WrittenAs doc e.2)
      (entries.filter (·.1 == s.name)) (s.value o).toList

instance : Decidable (o.WrittenIn doc) :=
  inferInstanceAs (Decidable (∃ entries ∈ named? doc, ∀ s ∈ Setting.all, List.Forall₂ _ _ _))

/-- The text is that of such a document. -/
def WrittenBy (o : Overrides) (text : String) : Prop := ∃ doc ∈ Yaml.parse? text.toList, o.WrittenIn doc

instance (text : String) : Decidable (o.WrittenBy text) :=
  inferInstanceAs (Decidable (∃ doc ∈ Yaml.parse? text.toList, o.WrittenIn doc))

/-- What is set is what can be meant: addresses and the channel kind are well-formed, numbers are those of
their type, names stand for themselves, and the poll interval is positive. -/
structure InRange (o : Overrides) : Prop where
  nodeId : ∀ name ∈ o.nodeId, IsName name
  addresses : ∀ address ∈ [o.tcpBind, o.websocketBind, o.adminBind, o.metricsBind], ∀ text ∈ address,
    (SocketAddress.parse? text).isSome
  channelKind : ∀ text ∈ o.channelKind, (ChannelKind.parse text).isOk
  fits : ∀ s ∈ Setting.all, ∀ v ∈ s.value o, v.Fits
  poll : ∀ n ∈ o.membershipPollMs, 0 < n

instance : Decidable o.InRange :=
  decidable_of_iff
    ((∀ name ∈ o.nodeId, IsName name) ∧
      (∀ address ∈ [o.tcpBind, o.websocketBind, o.adminBind, o.metricsBind], ∀ text ∈ address,
        (SocketAddress.parse? text).isSome) ∧
      (∀ text ∈ o.channelKind, (ChannelKind.parse text).isOk) ∧
      (∀ s ∈ Setting.all, ∀ v ∈ s.value o, v.Fits) ∧ ∀ n ∈ o.membershipPollMs, 0 < n)
    ⟨fun ⟨h₁, h₂, h₃, h₄, h₅⟩ => ⟨h₁, h₂, h₃, h₄, h₅⟩, fun ⟨h₁, h₂, h₃, h₄, h₅⟩ => ⟨h₁, h₂, h₃, h₄, h₅⟩⟩

/-! ## The environment -/

section Exported

variable {α : Type} {exported name : String} (he : o.ExportedBy env) (i : Nat)
include he

/-- What is read from the text of a variable, where a default stands for what is not set. -/
theorem ExportedBy.read {mk : α → Value} {get : Overrides → Option α}
    (hi : Setting.all[i]? = some ⟨exported, name, fun o => (get o).map mk⟩) {f : String → Option α}
    (hf : ∀ text a, (mk a).SaidBy text → f text = some a) :
    (env.get? exported).bind f = get o := by
  have hr : List.Forall₂ Value.SaidBy (env.get? exported).toList ((get o).map mk).toList :=
    he _ (List.mem_of_getElem? hi)
  cases hv : get o with
  | none =>
    rw [hv] at hr
    rw [Option.toList_eq_nil_iff.1 (List.forall₂_nil_right_iff.1 hr)]
    rfl
  | some a =>
    rw [hv] at hr
    obtain ⟨text, rest, hs, hnil, htext⟩ := List.forall₂_cons_right_iff.1 hr
    rw [List.forall₂_nil_right_iff.1 hnil] at htext
    rw [Option.toList_eq_singleton_iff.1 htext]
    exact hf text a hs

theorem ExportedBy.text {get : Overrides → Option String}
    (hi : Setting.all[i]? = some (.text exported name get)) : env.get? exported = get o := by
  rw [← he.read i hi fun text s hs => congrArg some hs]
  cases env.get? exported <;> rfl

theorem ExportedBy.number {get : Overrides → Option Nat}
    (hi : Setting.all[i]? = some (.number exported name get)) (default : Nat) :
    env.nat exported default = (get o).getD default := by
  rw [Environment.nat, Environment.trimmed?, Option.bind_map]
  exact congrArg (Option.getD · default) (he.read i hi fun text n hs => hs)

theorem ExportedBy.integer {get : Overrides → Option Int}
    (hi : Setting.all[i]? = some (.integer exported name get)) (default : Int) :
    env.int exported default = (get o).getD default := by
  rw [Environment.int, Environment.trimmed?, Option.bind_map]
  exact congrArg (Option.getD · default) (he.read i hi fun text n hs => hs)

theorem ExportedBy.switch {get : Overrides → Option Bool}
    (hi : Setting.all[i]? = some (.switch exported name get)) :
    env.flag exported = (get o).getD false := by
  rw [← he.read i hi fun text on hs => congrArg some hs, Environment.flag]
  cases env.get? exported <;> rfl

theorem ExportedBy.names {get : Overrides → Option (List String)}
    (hi : Setting.all[i]? = some (.names exported name get)) :
    (env.get? exported).map Environment.splitNodes = get o := by
  rw [← he.read i hi fun text l hs => congrArg some hs]
  cases env.get? exported <;> rfl

end Exported

/-! ## The file -/

/-- What is read from the entries of a name. -/
theorem field?_written {α : Type} {entries : List (String × Yaml)} {name : String} {f : Yaml → Option α}
    {mk : α → Value} {v : Option α}
    (he : List.Forall₂ (fun e v => e.2.isUnset? = some false ∧ v.WrittenAs doc e.2)
      (entries.filter (·.1 == name)) (v.map mk).toList)
    (hf : ∀ y a, (mk a).WrittenAs doc y → f y = some a) : field? f name entries = some v := by
  cases v with
  | none =>
    rw [field?, List.forall₂_nil_right_iff.1 he]
  | some a =>
    obtain ⟨⟨key, y⟩, rest, ⟨hset, hy⟩, hnil, hentries⟩ := List.forall₂_cons_right_iff.1 he
    rw [List.forall₂_nil_right_iff.1 hnil] at hentries
    rw [field?, hentries]
    simp only [hset, hf y a hy]
    rfl

/-- A document from which what is set can be read. -/
theorem ofYaml?_written (hw : o.WrittenIn doc) : ofYaml? doc = some o := by
  obtain ⟨entries, hnamed, he⟩ := hw
  have field {α : Type} (i : Nat) {exported name : String} {mk : α → Value}
      {get : Overrides → Option α} {f : Yaml → Option α}
      (hi : Setting.all[i]? = some ⟨exported, name, fun o => (get o).map mk⟩)
      (hf : ∀ y a, (mk a).WrittenAs doc y → f y = some a) : field? f name entries = some (get o) :=
    field?_written (he _ (List.mem_of_getElem? hi)) hf
  have text (i : Nat) {exported name : String} {get : Overrides → Option String}
      (hi : Setting.all[i]? = some (.text exported name get)) :
      field? Yaml.text? name entries = some (get o) := field i hi fun _ _ h => h
  have number (i : Nat) {exported name : String} {get : Overrides → Option Nat}
      (hi : Setting.all[i]? = some (.number exported name get)) :
      field? word? name entries = some (get o) := field i hi fun _ _ h => h
  have switch : field? Yaml.bool? "token_auth" entries = some o.tokenAuth :=
    field 10 rfl fun _ _ h => h
  have integer : field? int64? "worker_id" entries = some o.workerId := field 18 rfl fun _ _ h => h
  have names : field? (texts? doc) "nodes" entries = some o.nodes := field 22 rfl fun _ _ h => h
  rw [ofYaml?, hnamed]
  show Option.bind (field? Yaml.text? "node_id" entries) _ = _
  rw [text 0 rfl, text 1 rfl, text 2 rfl, text 3 rfl, text 4 rfl, text 5 rfl, number 6 rfl,
    number 7 rfl, number 8 rfl, number 9 rfl, switch, number 11 rfl, number 12 rfl, number 13 rfl,
    number 14 rfl, number 15 rfl, number 16 rfl, number 17 rfl, integer, text 19 rfl, text 20 rfl,
    number 21 rfl, names]
  rfl

/-! ## Both -/

/-- Nothing is set. -/
def unset : Overrides :=
  ⟨none, none, none, none, none, none, none, none, none, none, none, none, none, none, none, none,
    none, none, none, none, none, none, none⟩

/-- An address that is set, or the default, is the same in the environment and in a file. -/
theorem address_eq {value : Option String} {exported name default : String} {a : SocketAddress}
    (hd : SocketAddress.parse? default = some a) (hget : env.get? exported = value)
    (hv : ∀ text ∈ value, (SocketAddress.parse? text).isSome) :
    ∃ b, env.address exported default = .ok b ∧ pickAddress name value a = .ok b := by
  cases value with
  | none => exact ⟨a, by rw [Environment.address, hget, Option.getD_none, hd], rfl⟩
  | some text =>
    obtain ⟨b, hb⟩ := Option.isSome_iff_exists.1 (hv text rfl)
    exact ⟨b, by rw [Environment.address, hget, Option.getD_some, hb], by rw [pickAddress, hb]⟩

theorem kind_eq {value : Option String} {exported name : String} (hget : env.get? exported = value)
    (hv : ∀ text ∈ value, (ChannelKind.parse text).isOk) :
    ∃ kind, env.kind exported = .ok kind ∧ pickKind name value .inner = .ok kind := by
  cases value with
  | none => exact ⟨.inner, by rw [Environment.kind, hget], rfl⟩
  | some text =>
    have hok := hv text rfl
    cases hkind : ChannelKind.parse text with
    | error e => rw [hkind] at hok; cases hok
    | ok kind =>
      exact ⟨kind, by simp only [Environment.kind, hget, hkind, Except.mapError],
        by simp only [pickKind, hkind, Except.mapError]⟩

/-- The environment gives what the file gives, except that a list of nodes that is not set is that of the
node in the one and that of the default in the other. -/
theorem ofEnvironment_exported (hr : o.InRange) (he : o.ExportedBy env) :
    ∃ c, defaults.override o = .ok c ∧
      c.nodeId = o.nodeId.getD "1" ∧ (o.nodes.getD [] = [] → c.nodes = ["1"]) ∧
      ofEnvironment env = .ok { c with
        nodes := if o.nodes.getD [] = [] then [c.nodeId] else c.nodes } := by
  obtain ⟨tcp, htcp, htcp'⟩ : ∃ a, env.address "COMET_TCP_BIND" "0.0.0.0:6969" = .ok a ∧
      pickAddress "tcp_bind" o.tcpBind defaults.tcpBind = .ok a :=
    address_eq rfl (he.text 1 rfl) (hr.addresses _ (by simp))
  obtain ⟨ws, hws, hws'⟩ : ∃ a, env.address "COMET_WS_BIND" "0.0.0.0:6968" = .ok a ∧
      pickAddress "websocket_bind" o.websocketBind defaults.websocketBind = .ok a :=
    address_eq rfl (he.text 2 rfl) (hr.addresses _ (by simp))
  obtain ⟨admin, hadmin, hadmin'⟩ : ∃ a, env.address "COMET_ADMIN_BIND" "127.0.0.1:6970" = .ok a ∧
      pickAddress "admin_bind" o.adminBind defaults.adminBind = .ok a :=
    address_eq rfl (he.text 3 rfl) (hr.addresses _ (by simp))
  obtain ⟨metrics, hmetrics, hmetrics'⟩ : ∃ a,
      env.address "COMET_METRICS_BIND" "0.0.0.0:6971" = .ok a ∧
      pickAddress "metrics_bind" o.metricsBind defaults.metricsBind = .ok a :=
    address_eq rfl (he.text 4 rfl) (hr.addresses _ (by simp))
  obtain ⟨kind, hkind, hkind'⟩ : ∃ kind, env.kind "COMET_CHANNEL_KIND" = .ok kind ∧
      pickKind "channel_kind" o.channelKind defaults.channelKind = .ok kind :=
    kind_eq (he.text 5 rfl) hr.channelKind
  have hpoll : o.membershipPollMs.filter (0 < ·) = o.membershipPollMs := by
    cases hn : o.membershipPollMs with
    | none => rfl
    | some n => rw [Option.filter_some, if_pos (decide_eq_true (hr.poll n hn))]
  have hnodes : (env.get? "COMET_NODES").map Environment.splitNodes = o.nodes := he.names 22 rfl
  have hlist (self : String) : (if (o.nodes.getD []).isEmpty then [self] else o.nodes.getD []) =
      if o.nodes.getD [] = [] then [self]
      else (o.nodes.filter fun nodes => !nodes.isEmpty).getD defaults.nodes := by
    rcases o.nodes with _ | _ | _ <;> rfl
  cases hc : defaults.override o with
  | error e =>
    simp only [override, htcp', hws', hadmin', hmetrics', hkind'] at hc
    cases hc
  | ok c =>
    simp only [override, htcp', hws', hadmin', hmetrics', hkind', hpoll] at hc
    cases hc
    refine ⟨_, rfl, rfl, ?_, ?_⟩
    · rcases o.nodes with _ | _ | _
      · exact fun _ => rfl
      · exact fun _ => rfl
      · exact nofun
    · simp only [ofEnvironment, htcp, hws, hadmin, hmetrics, hkind, hnodes, he.text 0 rfl,
        he.number 6 rfl, he.number 7 rfl, he.number 8 rfl, he.number 9 rfl, he.switch 10 rfl,
        he.number 11 rfl, he.number 12 rfl, he.number 13 rfl, he.number 14 rfl, he.number 15 rfl,
        he.number 16 rfl, he.number 17 rfl, he.integer 18 rfl, he.text 19 rfl, he.text 20 rfl,
        he.number 21 rfl, hlist, defaults, Option.or_none]
      rfl

theorem ofEnvironment_unset (he : unset.ExportedBy env) : ofEnvironment env = .ok defaults := by
  have hnone : ∀ s ∈ Setting.all, s.value unset = none := by decide
  have hr : unset.InRange := by
    refine ⟨nofun, by simp [unset], nofun, fun s hs v hv => ?_, nofun⟩
    rw [hnone s hs] at hv
    cases hv
  obtain ⟨c, hc, -, -, hload⟩ := ofEnvironment_exported hr he
  cases hc
  exact hload

example : ofEnvironment [] = .ok defaults := rfl

end Overrides

/-! ## Loading -/

section Load

variable {c c' : Config} {o : Overrides} {env : Environment} {readFile : String → Option String}
  {path text : String}

/-- A configuration unless it is refused. -/
def validated (c : Config) : Except ConfigError Config := c.validate.map fun () => c

theorem load_alone (hc : ofEnvironment env = .ok c) (hpath : env.get? "COMET_CONFIG" = none) :
    load env readFile = c.validated := by
  simp only [load, hc, hpath]
  show (c.validate.bind fun _ => pure c) = c.validated
  unfold validated
  cases c.validate <;> rfl

theorem load_file (hc : ofEnvironment env = .ok c) (hpath : env.get? "COMET_CONFIG" = some path)
    (hread : readFile path = some text) (ho : Overrides.parse? text = some o)
    (hc' : c.override o = .ok c') : load env readFile = c'.validated := by
  simp only [load, hc, hpath, hread, ho]
  show ((c.override o).bind fun c => c.validate.bind fun _ => pure c) = c'.validated
  rw [hc']
  show (c'.validate.bind fun _ => pure c') = c'.validated
  unfold validated
  cases c'.validate <;> rfl

/-- A file gives what the environment gives, unless no nodes are set.  Then the configuration that the
environment gives is refused for a node of another name than the default. -/
theorem load_file_eq {vars file : Environment} (hr : o.InRange) (hvars : o.ExportedBy vars)
    (hnopath : vars.get? "COMET_CONFIG" = none) (hfile : Overrides.unset.ExportedBy file)
    (hpath : file.get? "COMET_CONFIG" = some path) (hread : readFile path = some text)
    (htext : o.WrittenBy text) :
    load file readFile =
      if o.nodes.getD [] = [] then
        (load vars readFile).bind fun c =>
          if o.nodeId.getD "1" = "1" then .ok c else .error (.selfMissing (o.nodeId.getD "1") ["1"])
      else load vars readFile := by
  obtain ⟨doc, hdoc, hw⟩ := htext
  have hparse : Overrides.parse? text = some o := by
    rw [Overrides.parse?, hdoc]
    exact Overrides.ofYaml?_written hw
  obtain ⟨c, hc, hself, hnodes, henv⟩ := Overrides.ofEnvironment_exported hr hvars
  rw [load_alone henv hnopath,
    load_file (Overrides.ofEnvironment_unset hfile) hpath hread hparse hc]
  split
  · next hnone =>
    have hthis : { c with nodes := ["1"] } = c := by rw [← hnodes hnone]
    have hv := validate_nodes c ["1"]
    rw [hthis] at hv
    rw [← hself]
    unfold validated
    rw [hv]
    cases { c with nodes := [c.nodeId] }.validate with
    | error e => rfl
    | ok _ =>
      by_cases h : c.nodeId = "1"
      · have hone : c.nodes = [c.nodeId] := by rw [hnodes hnone, h]
        have halone : { c with nodes := [c.nodeId] } = c := by rw [← hone]
        rw [if_pos (List.mem_singleton.2 h), halone]
        exact (if_pos h).symm
      · rw [if_neg (mt List.mem_singleton.1 h)]
        exact (if_neg h).symm
  · rfl

end Load

end PushRelay.Config
