import Mathlib.Control.Monad.Basic
import PushRelay.Proofs.Config.Sources
import PushRelay.Proofs.Yaml.Document

/-!
# Settings written down

`Overrides.exports` writes what is set as variables, `Overrides.render` as a flow mapping on one line.
Every value in range is read back from either, so that it can be set in an environment and in a file, and
the two agree about it unless the nodes are not listed (`load_environment_or_file`).
-/

namespace PushRelay.Config

/-! ## One value -/

theorem trim_eq_self {s : List Char} (hs : ∀ c ∈ s, Text.isBlank c = false) : Text.trim s = s := by
  have hdrop {s : List Char} (hs : ∀ c ∈ s, Text.isBlank c = false) : s.dropWhile Text.isBlank = s := by
    cases s with
    | nil => rfl
    | cons c s => rw [List.dropWhile_cons, hs c List.mem_cons_self, if_neg Bool.false_ne_true]
  rw [Text.trim, hdrop hs, hdrop fun c hc => hs c (List.mem_reverse.1 hc), List.reverse_reverse]

theorem trim_decimal (i : Int) : Text.trim (Numeral.decimal i) = Numeral.decimal i :=
  trim_eq_self (Numeral.forall_mem_decimal (by decide +kernel) (by decide +kernel) i)

/-- Names with commas between them are split into these names. -/
theorem splitNodes_intercalate {l : List String} (hl : ∀ name ∈ l, IsName name) :
    Environment.splitNodes (String.ofList ([','].intercalate (l.map String.toList))) = l := by
  by_cases hne : l = []
  · rw [hne]
    decide +kernel
  have hcomma : ∀ name ∈ l.map String.toList, ',' ∉ name :=
    List.forall_mem_map.2 fun name h => (hl name h).2.1
  have htrim : ∀ name ∈ l,
      ((fun name => String.ofList (Text.trim name)) ∘ String.toList) name = name := fun name h => by
    rw [Function.comp_apply, (hl name h).2.2, String.ofList_toList]
  have hkeep : ∀ name ∈ l, (!name.isEmpty) = true := fun name h => by
    rw [Bool.not_eq_true', ← Bool.not_eq_true, String.isEmpty_iff]
    exact (hl name h).1
  rw [Environment.splitNodes, String.toList_ofList,
    List.splitOn_intercalate ',' hcomma (mt List.map_eq_nil_iff.1 hne), List.map_map,
    List.map_congr_left htrim, List.map_id', List.filter_eq_self.2 hkeep]

namespace Value

variable {v : Value}

/-- A text that says the value. -/
def say : Value → String
  | .text s => s
  | .number n => String.ofList (Numeral.decimal n)
  | .integer n => String.ofList (Numeral.decimal n)
  | .switch on => if on then "true" else "false"
  | .names l => String.ofList ([','].intercalate (l.map String.toList))

theorem saidBy_say (hv : v.Fits) : v.SaidBy v.say := by
  cases v with
  | text s => rfl
  | number n =>
    rw [SaidBy, say, String.toList_ofList, trim_decimal, Numeral.ofChars_decimal]
    exact Numeral.natural?_ofNat hv
  | integer n =>
    rw [SaidBy, say, String.toList_ofList, trim_decimal, Numeral.ofChars_decimal]
    exact Numeral.integer?_ofInt hv.1 hv.2
  | switch on => cases on <;> decide
  | names l => exact splitNodes_intercalate hv

/-- The value in a flow mapping. -/
def flow : Value → Yaml.Flow.Value
  | .text s => .text s.toList
  | .number n => .word (Numeral.decimal n)
  | .integer n => .word (Numeral.decimal n)
  | .switch on => .word (if on then "true".toList else "false".toList)
  | .names l => .texts (l.map String.toList)

theorem isSound_flow (v : Value) : v.flow.IsSound := by
  have hdecimal (i : Int) : (Yaml.Flow.Value.word (Numeral.decimal i)).IsSound :=
    ⟨Numeral.decimal_ne_nil i, Numeral.forall_mem_decimal (by decide) (by decide) i⟩
  cases v with
  | text s => trivial
  | number n => exact hdecimal n
  | integer n => exact hdecimal n
  | switch on => cases on <;> exact ⟨by decide, List.all_eq_true.1 (by decide)⟩
  | names l => trivial

theorem texts?_flow (doc : YamlDocument) (l : List String) :
    Overrides.texts? doc (Value.names l).flow.node = some l := by
  show ((l.map String.toList).map fun t => .scalar .quoted none t).mapM
    (fun item => (doc.deref item).text?) = some l
  induction l with
  | nil => rfl
  | cons name l ih =>
    rw [List.map_cons, List.map_cons, List.mapM_cons, ih]
    exact congrArg (fun name => some (name :: l)) String.ofList_toList

theorem writtenAs_flow (doc : YamlDocument) (hv : v.Fits) :
    v.flow.node.isUnset? = some false ∧ v.WrittenAs doc v.flow.node := by
  cases v with
  | text s => exact ⟨rfl, congrArg some String.ofList_toList⟩
  | number n => exact ⟨Yaml.isUnset?_decimal n, Yaml.nat?_decimal hv⟩
  | integer n => exact ⟨Yaml.isUnset?_decimal n, Yaml.int?_decimal hv.1 hv.2⟩
  | switch on => cases on <;> exact ⟨rfl, rfl⟩
  | names l => exact ⟨rfl, texts?_flow doc l⟩

end Value

/-! ## Settings with values -/

section Keyed

variable {ι α : Type} {key : ι → String} {f : ι → Option α} {l : List ι} {i : ι}

/-- The pairs of the values that there are, under their keys. -/
def keyed (key : ι → String) (f : ι → Option α) (l : List ι) : List (String × α) :=
  l.filterMap fun i => (f i).map fun a => (key i, a)

theorem key_of_mem_keyed {e : String × α} (he : e ∈ keyed key f l) :
    ∃ i ∈ l, key i = e.1 ∧ f i = some e.2 := by
  obtain ⟨i, hi, he⟩ := List.mem_filterMap.1 he
  obtain ⟨a, ha, rfl⟩ := Option.map_eq_some_iff.1 he
  exact ⟨i, hi, rfl, ha⟩

theorem filter_keyed_of_notMem {name : String} (hname : name ∉ l.map key) :
    (keyed key f l).filter (·.1 == name) = [] := by
  refine List.filter_eq_nil_iff.2 fun e he hkey => hname ?_
  obtain ⟨i, hi, hi', -⟩ := key_of_mem_keyed he
  exact List.mem_map.2 ⟨i, hi, hi'.trans (beq_iff_eq.1 hkey)⟩

/-- Under a key there is its value, if keys are distinct. -/
theorem filter_keyed (hl : (l.map key).Nodup) (hi : i ∈ l) :
    (keyed key f l).filter (·.1 == key i) = ((f i).map fun a => (key i, a)).toList := by
  induction l with
  | nil => cases hi
  | cons j l ih =>
    obtain ⟨hj, hl⟩ := List.nodup_cons.1 hl
    have hsplit : keyed key f (j :: l) = ((f j).map fun a => (key j, a)).toList ++ keyed key f l := by
      rw [keyed, List.filterMap_cons]
      cases f j <;> rfl
    rw [hsplit, List.filter_append]
    rcases List.mem_cons.1 hi with rfl | hi
    · rw [filter_keyed_of_notMem hj, List.append_nil]
      cases f i <;> simp
    · have hne : (key j == key i) = false :=
        beq_eq_false_iff_ne.2 fun he => hj (he ▸ List.mem_map_of_mem hi)
      rw [ih hl hi]
      cases f j <;> simp [hne]

theorem lookup_eq_filter (l : List (String × α)) (name : String) :
    (l.lookup name).toList = ((l.filter (·.1 == name)).map (·.2)).take 1 := by
  induction l with
  | nil => rfl
  | cons e l ih =>
    rw [List.lookup_cons, List.filter_cons, BEq.comm]
    cases h : e.1 == name <;> simp [ih]

end Keyed

namespace Overrides

variable {o : Overrides}

/-- Variables that say what is set. -/
def exports (o : Overrides) : Environment :=
  keyed Setting.exported (fun s => (s.value o).map Value.say) Setting.all

/-- What is set, by name. -/
def settings (o : Overrides) : List (String × Value) := keyed Setting.name (·.value o) Setting.all

def entries (o : Overrides) : List Yaml.Flow.Entry := o.settings.map fun e => (e.1.toList, e.2.flow)

/-- A text that says what is set: a flow mapping on one line. -/
def render (o : Overrides) : String := String.ofList (Yaml.Flow.text o.entries)

theorem exportedBy_exports (hr : o.InRange) : o.ExportedBy o.exports := by
  have hnames : (Setting.all.map Setting.exported).Nodup := by decide
  intro s hs
  rw [Environment.get?, lookup_eq_filter, exports, filter_keyed hnames hs]
  cases hv : s.value o with
  | none => exact .nil
  | some v => exact .cons (Value.saidBy_say (hr.fits s hs v hv)) .nil

theorem exports_no_file (o : Overrides) : o.exports.get? "COMET_CONFIG" = none := by
  have hname : "COMET_CONFIG" ∉ Setting.all.map Setting.exported := by decide
  rw [← Option.toList_eq_nil_iff, Environment.get?, lookup_eq_filter, exports,
    filter_keyed_of_notMem hname]
  rfl

theorem named?_mapping (es : List Yaml.Flow.Entry) :
    named? ⟨.mapping (es.map Yaml.Flow.Entry.node), []⟩ =
      some (es.map fun e => (String.ofList e.1, e.2.node)) := by
  have hnode (doc : YamlDocument) (v : Yaml.Flow.Value) : doc.deref v.node = v.node := by
    cases v <;> rfl
  have hentries (doc : YamlDocument) : (es.map Yaml.Flow.Entry.node).mapM (fun e =>
      (doc.deref e.1).text?.map fun key => (key, doc.deref e.2)) =
      some (es.map fun e => (String.ofList e.1, e.2.node)) := by
    induction es with
    | nil => rfl
    | cons e es ih =>
      rw [List.map_cons, List.mapM_cons, ih]
      show some ((String.ofList e.1, doc.deref e.2.node) :: _) = _
      rw [hnode]
      rfl
  exact hentries _

theorem writtenBy_render (hr : o.InRange) : o.WrittenBy o.render := by
  have hnames : (Setting.all.map Setting.name).Nodup := by decide
  have hlengths : ∀ s ∈ Setting.all, Yaml.octets (Yaml.quote s.name.toList) ≤ Yaml.maxKey := by
    decide +kernel
  have hsound : ∀ e ∈ o.entries, e.IsSound := by
    refine List.forall_mem_map.2 fun e he => ?_
    obtain ⟨s, hs, hname, -⟩ := key_of_mem_keyed he
    exact ⟨hname ▸ hlengths s hs, e.2.isSound_flow⟩
  have hparse : Yaml.parse? o.render.toList =
      some ⟨.mapping (o.entries.map Yaml.Flow.Entry.node), []⟩ := by
    rw [render, String.toList_ofList, Yaml.Flow.parse?_text o.entries hsound]
  have hentries : o.entries.map (fun e => (String.ofList e.1, e.2.node)) =
      o.settings.map fun e => (e.1, e.2.flow.node) := by
    rw [entries, List.map_map]
    exact List.map_congr_left fun e _ => congrArg (·, e.2.flow.node) String.ofList_toList
  refine ⟨_, hparse, _, named?_mapping o.entries, fun s hs => ?_⟩
  have hfilter : (o.settings.map fun e => (e.1, e.2.flow.node)).filter (·.1 == s.name) =
      ((s.value o).map fun v => (s.name, v)).toList.map fun e => (e.1, e.2.flow.node) := by
    rw [List.filter_map]
    exact congrArg _ (filter_keyed hnames hs)
  rw [hentries, hfilter]
  cases hv : s.value o with
  | none => exact .nil
  | some v => exact .cons (Value.writtenAs_flow _ (hr.fits s hs v hv)) .nil

/-- The node has a name of its own, and no nodes are listed. -/
def Unlisted (o : Overrides) : Prop := o.nodes.getD [] = [] ∧ o.nodeId.getD "1" ≠ "1"

end Overrides

/-! ## Environments and files -/

/-- What is in range can be set in an environment and in a file.  However that is written, both give the
same configuration or the same error, unless the node has a name of its own and no nodes are listed: then
the file is refused whenever the environment is accepted. -/
theorem load_environment_or_file {o : Overrides} (hr : o.InRange) :
    (∃ vars, o.ExportedBy vars ∧ vars.get? "COMET_CONFIG" = none) ∧ (∃ text, o.WrittenBy text) ∧
    ∀ (vars file : Environment) (path text : String) (readFile : String → Option String),
      o.ExportedBy vars → vars.get? "COMET_CONFIG" = none →
      Overrides.unset.ExportedBy file → file.get? "COMET_CONFIG" = some path →
      readFile path = some text → o.WrittenBy text →
      (load file readFile = load vars readFile ↔
        ¬ (o.Unlisted ∧ ∃ c, load vars readFile = .ok c)) ∧
      (o.Unlisted → ∀ c, load vars readFile = .ok c →
        load file readFile = .error (.selfMissing (o.nodeId.getD "1") ["1"])) := by
  refine ⟨⟨o.exports, Overrides.exportedBy_exports hr, o.exports_no_file⟩,
    ⟨o.render, Overrides.writtenBy_render hr⟩, ?_⟩
  intro vars file path text readFile hvars hnopath hfile hpath hread htext
  have heq := load_file_eq hr hvars hnopath hfile hpath hread htext
  generalize load file readFile = r at heq ⊢
  have hrefused : o.Unlisted → ∀ c, load vars readFile = .ok c →
      r = .error (.selfMissing (o.nodeId.getD "1") ["1"]) := by
    rintro ⟨hnodes, hself⟩ c hc
    rw [heq, if_pos hnodes, hc]
    exact if_neg hself
  refine ⟨⟨?_, fun hno => ?_⟩, hrefused⟩
  · rintro hsame ⟨hunlisted, c, hc⟩
    have herror := hrefused hunlisted c hc
    rw [hsame, hc] at herror
    cases herror
  · rw [heq]
    split
    · next hnodes =>
      cases hc : load vars readFile with
      | error e => rfl
      | ok c =>
        have hself : o.nodeId.getD "1" = "1" := Classical.byContradiction fun h =>
          hno ⟨⟨hnodes, h⟩, c, hc⟩
        exact if_pos hself
    · rfl

theorem load_environment_or_file_two_nodes :
    let o : Overrides := { Overrides.unset with
      nodeId := some "2", workerId := some 3, tokenAuth := some true, nodes := some ["1", "2"] }
    let vars := [("COMET_NODE_ID", "2"), ("COMET_WORKER_ID", " +3"), ("COMET_TOKEN_AUTH", "yes"),
      ("COMET_NODES", "1, 2,")]
    let file := [("COMET_CONFIG", "comet.yaml")]
    let text := "node_id: 2\nnodes:\n  - '1'\n  - \"2\"\nworker_id: 0x3\ntoken_auth: True\n"
    o.InRange ∧ o.ExportedBy vars ∧ Overrides.unset.ExportedBy file ∧ o.WrittenBy text ∧
      load file (fun _ => some text) = load vars (fun _ => some text) := by
  intro o vars file text
  have hr : o.InRange := by decide +kernel
  have hvars : o.ExportedBy vars := by decide +kernel
  have hfile : Overrides.unset.ExportedBy file := by decide +kernel
  have htext : o.WrittenBy text := by decide +kernel
  have hlisted : ¬ o.Unlisted := fun h => absurd h.1 (by decide)
  have hsame := ((load_environment_or_file hr).2.2 vars file "comet.yaml" text (fun _ => some text)
    hvars rfl hfile rfl rfl htext).1
  exact ⟨hr, hvars, hfile, htext, hsame.2 fun h => hlisted h.1⟩

/-- A node that is named, with nothing else set. -/
theorem load_named_node :
    let o : Overrides := { Overrides.unset with nodeId := some "2" }
    let vars := [("COMET_NODE_ID", "2")]
    let file := [("COMET_CONFIG", "comet.yaml")]
    let text := "node_id: \"2\"\n"
    o.InRange ∧ o.ExportedBy vars ∧ Overrides.unset.ExportedBy file ∧ o.WrittenBy text ∧
      load vars (fun _ => some text) = .ok { defaults with nodeId := "2", nodes := ["2"] } ∧
      load file (fun _ => some text) = .error (.selfMissing "2" ["1"]) :=
  ⟨by decide +kernel, by decide +kernel, by decide +kernel, by decide +kernel, by decide +kernel,
    by decide +kernel⟩

end PushRelay.Config
