import PushRelay.Proofs.Yaml.Flow

/-!
# Flow mappings read back

From the tokens of a flow mapping the reader makes the mapping that was written.

    (∀ e ∈ es, e.IsSound) → parse? (text es) = some ⟨.mapping (es.map Entry.node), []⟩
                                                                                    (parse?_text)

The fuel of the reader is a number of calls, of which a value takes four at most beyond its tokens.
-/

namespace PushRelay.Yaml.Flow

variable {handles : Handles} {place : Place} {ts : List Token} {names : List (List Char × Nat)}
  {anchored : List (Nat × Yaml)}

/-! ## From tokens to nodes -/

theorem node?_scalar (fuel : Nat) (style : ScalarStyle) (t : List Char) :
    node? (fuel + 2) handles place ⟨.scalar style t :: ts, names, anchored⟩ =
      some (.scalar style none t, ⟨ts, names, anchored⟩) := by
  unfold node? content?
  rfl

theorem node?_flowSeq (fuel : Nat) :
    node? (fuel + 2) handles place ⟨.flowSeqStart :: ts, names, anchored⟩ =
      (flowItems? fuel handles true ⟨ts, names, anchored⟩).map fun (items, r) => (.seq items, r) := by
  unfold node? content?
  rfl

theorem node?_flowMapping (fuel : Nat) :
    node? (fuel + 2) handles place ⟨.flowMappingStart :: ts, names, anchored⟩ =
      (flowEntries? fuel handles true ⟨ts, names, anchored⟩).map fun (es, r) => (.mapping es, r) := by
  unfold node? content?
  rfl

/-- Tokens behind an item or an entry, or those of the first one. -/
def behind (isFirst : Bool) (ts : List Token) : List Token := if isFirst then ts else .flowEntry :: ts

theorem flowItems?_behind (fuel : Nat) (isFirst : Bool) (style : ScalarStyle) (t : List Char) :
    flowItems? (fuel + 1) handles isFirst
        ⟨behind isFirst (.scalar style t :: ts), names, anchored⟩ =
      match node? fuel handles .flow ⟨.scalar style t :: ts, names, anchored⟩ with
      | none => none
      | some (item, r) =>
        (flowItems? fuel handles false r).map fun (items, r) => (item :: items, r) := by
  cases isFirst <;> rfl

theorem flowEntries?_behind (fuel : Nat) (isFirst : Bool) :
    flowEntries? (fuel + 1) handles isFirst ⟨behind isFirst (.key :: ts), names, anchored⟩ =
      match flowEntry? fuel handles ⟨ts, names, anchored⟩ with
      | none => none
      | some (entry, r) =>
        (flowEntries? fuel handles false r).map fun (es, r) => (entry :: es, r) := by
  cases isFirst <;> rfl

theorem document?_flowMapping (ts : List Token) :
    document? (.flowMappingStart :: ts) =
      match root? [] (.flowMappingStart :: ts) with
      | some (root, r) => if isOver r.tokens then some ⟨root, r.anchored⟩ else none
      | none => none := rfl

/-! ## Reading back -/

theorem flowItems?_texts (texts : List (List Char)) (isFirst : Bool) (fuel : Nat) :
    flowItems? (fuel + texts.length + 3) handles isFirst
      ⟨behind isFirst ((texts.flatMap fun t => [.scalar .quoted t, .flowEntry]) ++ .flowSeqEnd :: ts),
        names, anchored⟩ =
      some (texts.map fun t => .scalar .quoted none t, ⟨ts, names, anchored⟩) := by
  induction texts generalizing isFirst with
  | nil => cases isFirst <;> rfl
  | cons t texts ih =>
    rw [List.flatMap_cons, List.append_assoc, List.length_cons]
    refine (flowItems?_behind (fuel + texts.length + 1 + 2) isFirst .quoted t).trans ?_
    rw [node?_scalar]
    exact congrArg (Option.map _) (ih false)

theorem length_items (texts : List (List Char)) :
    (texts.flatMap fun t => [Token.scalar .quoted t, .flowEntry]).length = 2 * texts.length := by
  induction texts with
  | nil => rfl
  | cons t texts ih =>
    rw [List.flatMap_cons, List.length_append, ih, List.length_cons]
    simp only [List.length_cons, List.length_nil]
    omega

/-- A value is read back. -/
theorem node?_value (v : Value) (fuel : Nat) :
    node? (fuel + v.tokens.length + 4) handles .flow ⟨v.tokens ++ ts, names, anchored⟩ =
      some (v.node, ⟨ts, names, anchored⟩) := by
  cases v with
  | text t => exact node?_scalar _ .quoted t
  | word w => exact node?_scalar _ .plain w
  | texts texts =>
    have hitems := @flowItems?_texts handles ts names anchored texts true (fuel + texts.length + 1)
    have hfuel : fuel + (Value.texts texts).tokens.length + 4 =
        fuel + texts.length + 1 + texts.length + 3 + 2 := by
      rw [Value.tokens, List.length_append, List.length_cons, length_items, List.length_singleton]
      omega
    have hsplit : (Value.texts texts).tokens ++ ts = .flowSeqStart ::
        behind true ((texts.flatMap fun t => [.scalar .quoted t, .flowEntry]) ++ .flowSeqEnd :: ts) := by
      simp only [Value.tokens, behind, if_true, List.cons_append, List.append_assoc, List.nil_append]
    rw [hfuel, hsplit, node?_flowSeq, hitems]
    rfl

/-- An entry is read back. -/
theorem flowEntry?_entry (name : List Char) (v : Value) (fuel : Nat) :
    flowEntry? (fuel + v.tokens.length + 5) handles
      ⟨.scalar .quoted name :: .value :: (v.tokens ++ .flowEntry :: ts), names, anchored⟩ =
      some (Entry.node (name, v), ⟨.flowEntry :: ts, names, anchored⟩) := by
  have hname := @node?_scalar handles .flow (.value :: (v.tokens ++ .flowEntry :: ts)) names anchored
    (fuel + v.tokens.length + 2) .quoted name
  have hvalue := @node?_value handles (.flowEntry :: ts) names anchored v fuel
  have hends : endsFlowEntry (v.tokens ++ .flowEntry :: ts) = false := by cases v <;> rfl
  have hmissing : (endsFlowEntry (.scalar .quoted name :: .value :: (v.tokens ++ .flowEntry :: ts)) ||
      (Token.scalar .quoted name :: .value :: (v.tokens ++ .flowEntry :: ts)).head? ==
        some Token.value) = false := rfl
  unfold flowEntry?
  simp only [hmissing, hname, hends, hvalue, Bool.false_eq_true, if_false]
  rfl

theorem flowEntries?_entries (es : List Entry) (isFirst : Bool) (fuel : Nat) :
    flowEntries? (fuel + (es.flatMap Entry.tokens).length + 6) handles isFirst
      ⟨behind isFirst (es.flatMap Entry.tokens ++ .flowMappingEnd :: ts), names, anchored⟩ =
      some (es.map Entry.node, ⟨ts, names, anchored⟩) := by
  induction es generalizing isFirst fuel with
  | nil => cases isFirst <;> rfl
  | cons e es ih =>
    obtain ⟨name, v⟩ := e
    generalize hrest : es.flatMap Entry.tokens = rest at ih
    have hsplit : ((name, v) :: es).flatMap Entry.tokens ++ .flowMappingEnd :: ts =
        .key :: .scalar .quoted name :: .value :: (v.tokens ++ .flowEntry ::
          (rest ++ .flowMappingEnd :: ts)) := by
      simp only [List.flatMap_cons, Entry.tokens, hrest, List.cons_append, List.append_assoc,
        List.nil_append]
    have hfuel : fuel + (((name, v) :: es).flatMap Entry.tokens).length + 6 =
        fuel + rest.length + 4 + v.tokens.length + 5 + 1 := by
      rw [List.flatMap_cons, Entry.tokens, hrest]
      simp only [List.length_append, List.length_cons, List.length_nil]
      omega
    have hmore : fuel + rest.length + 4 + v.tokens.length + 5 =
        fuel + v.tokens.length + 3 + rest.length + 6 := by omega
    rw [hfuel, hsplit, flowEntries?_behind, flowEntry?_entry]
    simp only [hmore]
    exact congrArg _ (ih false (fuel + v.tokens.length + 3))

/-- A mapping on one line is read back. -/
theorem parse?_text (es : List Entry) (hes : ∀ e ∈ es, e.IsSound) :
    parse? (text es) = some ⟨.mapping (es.map Entry.node), []⟩ := by
  have hentries (fuel : Nat) := @flowEntries?_entries ([] ++ commonHandles) [] [] [] es true fuel
  generalize hrest : es.flatMap Entry.tokens = rest at hentries
  have hfuel : 3 * (Token.flowMappingStart :: rest ++ [Token.flowMappingEnd]).length + 3 =
      2 * rest.length + 1 + rest.length + 6 + 2 := by
    simp only [List.length_append, List.length_cons, List.length_nil]
    omega
  have hroot : root? [] (.flowMappingStart :: rest ++ [.flowMappingEnd]) =
      some (.mapping (es.map Entry.node), ⟨[], [], []⟩) := by
    rw [root?, hfuel, List.cons_append, node?_flowMapping]
    exact congrArg _ (hentries (2 * rest.length + 1))
  rw [parse?, tokens?_text es hes, hrest, Option.bind_some, List.cons_append, document?_flowMapping,
    ← List.cons_append, hroot]
  rfl

end PushRelay.Yaml.Flow
