import PushRelay.Proofs.Json.Text

/-!
# Trees of JSON read back

A tree whose leaves were made of octets and integers is read back from its compact text.

    Written j → parse? (print j) = some j                                           (Written.parse?_print)

Inside a larger text, a value is read in front of what cannot belong to it (`Reads`).  Fuel of twice the
octets of a value is enough for it, and one more for what stands between brackets.
-/

namespace PushRelay.Json

variable {j item value : Json} {items : List Json} {members : List (Bytes × Json)} {name : Bytes}
  {s t rest : Bytes} {fuel : Nat}

/-! ## What is written -/

/-- Trees whose numerals are those of integers, and whose strings and member names hold what is written for
some octets. -/
inductive Written : Json → Prop
  | null : Written .null
  | bool (b : Bool) : Written (.bool b)
  | int (n : Int) : Written (.int n)
  | octets (s : Bytes) : Written (.octets s)
  | array {items : List Json} (hitems : ∀ item ∈ items, Written item) : Written (.array items)
  | object {members : List (Bytes × Json)} (hnames : ∀ m ∈ members, ∃ name, m.1 = escape name)
      (hvalues : ∀ m ∈ members, Written m.2) : Written (.object members)

theorem Written.record {members : List (String × Json)} (h : ∀ m ∈ members, Written m.2) :
    Written (.record members) := by
  refine .object ?_ ?_
  · rintro _ hm
    obtain ⟨m, -, rfl⟩ := List.mem_map.1 hm
    exact ⟨Utf8.ofString m.1, rfl⟩
  · rintro _ hm
    obtain ⟨m, hmember, rfl⟩ := List.mem_map.1 hm
    exact h m hmember

/-- A text that starts with neither white space nor what closes an array. -/
def Opens (s : Bytes) : Prop := ∃ b t, s = b :: t ∧ isSpace b = false ∧ b ≠ closeBracket

theorem Opens.append (h : Opens s) (t : Bytes) : Opens (s ++ t) := by
  obtain ⟨b, s, rfl, hb⟩ := h
  exact ⟨b, s ++ t, rfl, hb⟩

theorem Opens.skipSpace (h : Opens s) : skipSpace s = s := by
  obtain ⟨b, s, rfl, hb, -⟩ := h
  rw [Json.skipSpace, List.dropWhile_cons, hb]
  rfl

theorem Opens.length_pos (h : Opens s) : 0 < s.length := by
  obtain ⟨b, s, rfl, -⟩ := h
  exact Nat.succ_pos _

/-- A numeral starts with a digit or a minus sign. -/
theorem opens_of_numeral {b : UInt8} (hb : b.toNat = 45 ∨ 48 ≤ b.toNat ∧ b.toNat ≤ 57) :
    Opens (b :: s) := by
  have hne : ∀ c : UInt8, c.toNat < 45 ∨ 57 < c.toNat → b ≠ c := by
    rintro c hc rfl
    omega
  refine ⟨b, s, rfl, ?_, hne 93 (by decide)⟩
  simp only [isSpace, Bool.or_eq_false_iff, beq_eq_false_iff_ne]
  exact ⟨⟨⟨hne 32 (by decide), hne 10 (by decide)⟩, hne 9 (by decide)⟩, hne 13 (by decide)⟩

theorem Written.opens (h : Written j) : Opens (print j) := by
  cases h with
  | null => exact ⟨_, _, rfl, by decide, by decide⟩
  | bool b => cases b <;> exact ⟨_, _, rfl, by decide, by decide⟩
  | int n =>
    obtain ⟨b, s, hs, hb⟩ := Numeral.head_ofInt n
    rw [Json.int, print, hs]
    exact opens_of_numeral hb
  | octets s => exact ⟨_, _, rfl, by decide, by decide⟩
  | array => exact ⟨_, _, rfl, by decide, by decide⟩
  | object => exact ⟨_, _, rfl, by decide, by decide⟩

/-! ## One value -/

theorem readWith_number {b : UInt8} (hb : b.toNat = 45 ∨ 48 ≤ b.toNat ∧ b.toNat ≤ 57)
    (h : numeral? (b :: s) = some (t, rest)) :
    readWith (fuel + 1) (b :: s) = some (.number t, rest) := by
  have hskip := (opens_of_numeral (s := s) hb).skipSpace
  rw [readWith, hskip]
  split
  next heq => cases heq
  -- no word, string, array or object starts like a numeral
  iterate 6 next heq => cases heq; exact absurd hb (by decide)
  next => rw [h]; rfl

theorem readWith_string (h : content? s = some (t, rest)) :
    readWith (fuel + 1) (quote :: s) = some (.string t, rest) := by
  show (content? s).map _ = _
  rw [h]
  rfl

theorem readWith_array (hs : Opens s) (h : itemsWith fuel s = some (items, rest)) :
    readWith (fuel + 1) (openBracket :: s) = some (.array items, rest) := by
  have hskip := hs.skipSpace
  obtain ⟨b, s, rfl, -, hb⟩ := hs
  have hopen : skipSpace (openBracket :: b :: s) = 91 :: b :: s := rfl
  rw [readWith]
  simp only [hopen, hskip]
  split
  next heq => exact absurd (List.cons.inj heq).1 hb
  next => rw [h]; rfl

theorem readWith_object (h : membersWith fuel (quote :: s) = some (members, rest)) :
    readWith (fuel + 1) (openBrace :: quote :: s) = some (.object members, rest) := by
  show (membersWith fuel (quote :: s)).map _ = _
  rw [h]
  rfl

/-! ## Items and members -/

theorem itemsWith_last (h : readWith fuel s = some (item, closeBracket :: rest)) :
    itemsWith (fuel + 1) s = some ([item], rest) := by
  rw [itemsWith, h]
  rfl

theorem itemsWith_more (h : readWith fuel s = some (item, comma :: t))
    (hmore : itemsWith fuel t = some (items, rest)) :
    itemsWith (fuel + 1) s = some (item :: items, rest) := by
  rw [itemsWith, h]
  show (itemsWith fuel t).map _ = _
  rw [hmore]
  rfl

theorem membersWith_last (hname : content? s = some (name, colon :: t))
    (h : readWith fuel t = some (value, closeBrace :: rest)) :
    membersWith (fuel + 1) (quote :: s) = some ([(name, value)], rest) := by
  have hquote : skipSpace (quote :: s) = 34 :: s := rfl
  have hcolon : skipSpace (colon :: t) = 58 :: t := rfl
  have hclose : skipSpace (closeBrace :: rest) = 125 :: rest := rfl
  rw [membersWith]
  simp only [hquote, hname, hcolon, h, hclose]

theorem membersWith_more {u : Bytes} (hname : content? s = some (name, colon :: t))
    (h : readWith fuel t = some (value, comma :: u))
    (hmore : membersWith fuel u = some (members, rest)) :
    membersWith (fuel + 1) (quote :: s) = some ((name, value) :: members, rest) := by
  have hquote : skipSpace (quote :: s) = 34 :: s := rfl
  have hcolon : skipSpace (colon :: t) = 58 :: t := rfl
  have hcomma : skipSpace (comma :: u) = 44 :: u := rfl
  rw [membersWith]
  simp only [hquote, hname, hcolon, h, hcomma, hmore, Option.map_some]

/-! ## Values in a text -/

/-- A value is read from its text in front of what cannot belong to it, with fuel of twice its octets. -/
def Reads (j : Json) : Prop :=
  ∀ fuel rest, 2 * (print j).length ≤ fuel → Stops rest →
    readWith fuel (print j ++ rest) = some (j, rest)

theorem stops_comma (s : Bytes) : Stops (comma :: s) :=
  stops_cons (by decide) (by decide) (by decide) (by decide)

theorem stops_closeBracket (s : Bytes) : Stops (closeBracket :: s) :=
  stops_cons (by decide) (by decide) (by decide) (by decide)

theorem stops_closeBrace (s : Bytes) : Stops (closeBrace :: s) :=
  stops_cons (by decide) (by decide) (by decide) (by decide)

/-- There is no value without an octet, so there always is fuel for one step. -/
theorem Opens.reads (hopens : Opens (print j))
    (h : ∀ fuel rest, 2 * (print j).length ≤ fuel + 1 → Stops rest →
      readWith (fuel + 1) (print j ++ rest) = some (j, rest)) : Reads j := by
  intro fuel rest hfuel hrest
  have hpos := hopens.length_pos
  obtain ⟨fuel, rfl⟩ := Nat.exists_eq_add_one_of_ne_zero (show fuel ≠ 0 by omega)
  exact h fuel rest hfuel hrest

theorem reads_int (n : Int) : Reads (.int n) := by
  refine (Written.int n).opens.reads fun fuel rest _ hrest => ?_
  obtain ⟨b, s, hs, hb⟩ := Numeral.head_ofInt n
  have hnumeral := numeral?_ofInt n hrest
  have hprint : print (.int n) = b :: s := hs
  rw [hs, List.cons_append] at hnumeral
  rw [hprint, List.cons_append, readWith_number hb hnumeral, ← hs]
  rfl

theorem reads_octets (s : Bytes) : Reads (.octets s) := by
  refine (Written.octets s).opens.reads fun fuel rest _ _ => ?_
  have hprint : print (.octets s) = quote :: (escape s ++ [quote]) := rfl
  rw [hprint, List.cons_append, List.append_assoc]
  exact readWith_string (content?_escape s rest)

theorem opens_printItems (hne : items ≠ []) (h : ∀ item ∈ items, Written item) :
    Opens (printItems items) := by
  cases items with
  | nil => exact absurd rfl hne
  | cons item items =>
    have hopens := (h item List.mem_cons_self).opens
    cases items with
    | nil => exact hopens
    | cons => exact hopens.append _

theorem itemsWith_printItems (hne : items ≠ []) (h : ∀ item ∈ items, Written item)
    (hreads : ∀ item ∈ items, Reads item) (hfuel : 2 * (printItems items).length + 1 ≤ fuel) :
    itemsWith fuel (printItems items ++ closeBracket :: rest) = some (items, rest) := by
  induction items generalizing fuel with
  | nil => exact absurd rfl hne
  | cons item items ih =>
    obtain ⟨fuel, rfl⟩ := Nat.exists_eq_add_one_of_ne_zero (show fuel ≠ 0 by omega)
    have hread : Reads item := hreads item List.mem_cons_self
    cases items with
    | nil =>
      rw [printItems] at hfuel ⊢
      exact itemsWith_last (hread fuel _ (by omega) (stops_closeBracket rest))
    | cons next items =>
      have hpos := (h item List.mem_cons_self).opens.length_pos
      have hprint : printItems (item :: next :: items) =
          print item ++ comma :: printItems (next :: items) := rfl
      rw [hprint, List.length_append, List.length_cons] at hfuel
      rw [hprint, List.append_assoc, List.cons_append]
      refine itemsWith_more (hread fuel _ (by omega) (stops_comma _)) (ih (by simp) ?_ ?_ (by omega))
      · exact fun i hi => h i (List.mem_cons_of_mem item hi)
      · exact fun i hi => hreads i (List.mem_cons_of_mem item hi)

/-- The text of one member. -/
def printMember (name : Bytes) (value : Json) : Bytes := quoteContent name ++ colon :: print value

theorem printMember_append (name : Bytes) (value : Json) (s : Bytes) :
    printMember name value ++ s = quote :: (name ++ quote :: colon :: (print value ++ s)) := by
  simp only [printMember, quoteContent, List.cons_append, List.append_assoc, List.nil_append]

theorem length_printMember (name : Bytes) (value : Json) :
    (printMember name value).length = name.length + (print value).length + 3 := by
  simp only [printMember, quoteContent, List.length_append, List.length_cons, List.length_nil]
  omega

/-- The text of members starts with a quote. -/
theorem printMembers_eq (hne : members ≠ []) : ∃ s, printMembers members = quote :: s := by
  cases members with
  | nil => exact absurd rfl hne
  | cons m members => cases members <;> exact ⟨_, rfl⟩

theorem membersWith_printMembers (hne : members ≠ []) (hnames : ∀ m ∈ members, ∃ name, m.1 = escape name)
    (hreads : ∀ m ∈ members, Reads m.2) (hfuel : 2 * (printMembers members).length + 1 ≤ fuel) :
    membersWith fuel (printMembers members ++ closeBrace :: rest) = some (members, rest) := by
  induction members generalizing fuel with
  | nil => exact absurd rfl hne
  | cons m members ih =>
    obtain ⟨fuel, rfl⟩ := Nat.exists_eq_add_one_of_ne_zero (show fuel ≠ 0 by omega)
    obtain ⟨name, value⟩ := m
    have hread : Reads value := hreads _ List.mem_cons_self
    obtain ⟨octets, rfl⟩ : ∃ octets, name = escape octets := hnames _ List.mem_cons_self
    have hlength := length_printMember (escape octets) value
    cases members with
    | nil =>
      have hprint : printMembers [(escape octets, value)] = printMember (escape octets) value := rfl
      rw [hprint] at hfuel
      rw [hprint, printMember_append]
      exact membersWith_last (content?_escape octets _) (hread fuel _ (by omega) (stops_closeBrace rest))
    | cons next members =>
      have hprint : printMembers ((escape octets, value) :: next :: members) =
          printMember (escape octets) value ++ comma :: printMembers (next :: members) := rfl
      rw [hprint, List.length_append, List.length_cons] at hfuel
      rw [hprint, List.append_assoc, List.cons_append, printMember_append]
      refine membersWith_more (content?_escape octets _) (hread fuel _ (by omega) (stops_comma _))
        (ih (by simp) ?_ ?_ (by omega))
      · exact fun i hi => hnames i (List.mem_cons_of_mem _ hi)
      · exact fun i hi => hreads i (List.mem_cons_of_mem _ hi)

theorem reads_array (h : ∀ item ∈ items, Written item) (hreads : ∀ item ∈ items, Reads item) :
    Reads (.array items) := by
  refine (Written.array h).opens.reads fun fuel rest hfuel _ => ?_
  have hprint : print (.array items) ++ rest =
      openBracket :: (printItems items ++ closeBracket :: rest) := by
    simp only [print, List.cons_append, List.append_assoc, List.nil_append]
  have hlength : (print (.array items)).length = (printItems items).length + 2 := by
    simp only [print, List.length_append, List.length_cons, List.length_nil]
  rw [hprint]
  by_cases hne : items = []
  · subst hne
    rfl
  · have hopens := (opens_printItems hne h).append (closeBracket :: rest)
    exact readWith_array hopens (itemsWith_printItems hne h hreads (by omega))

theorem reads_object (hnames : ∀ m ∈ members, ∃ name, m.1 = escape name)
    (h : ∀ m ∈ members, Written m.2) (hreads : ∀ m ∈ members, Reads m.2) :
    Reads (.object members) := by
  refine (Written.object hnames h).opens.reads fun fuel rest hfuel _ => ?_
  have hprint : print (.object members) ++ rest =
      openBrace :: (printMembers members ++ closeBrace :: rest) := by
    simp only [print, List.cons_append, List.append_assoc, List.nil_append]
  have hlength : (print (.object members)).length = (printMembers members).length + 2 := by
    simp only [print, List.length_append, List.length_cons, List.length_nil]
  rw [hprint]
  by_cases hne : members = []
  · subst hne
    rfl
  · have hmembers : membersWith fuel (printMembers members ++ closeBrace :: rest) =
        some (members, rest) := membersWith_printMembers hne hnames hreads (by omega)
    obtain ⟨s, hs⟩ := printMembers_eq hne
    rw [hs, List.cons_append] at hmembers ⊢
    exact readWith_object hmembers

/-- Every tree that can be written is read where it stands. -/
theorem Written.reads (h : Written j) : Reads j := by
  induction h with
  | null => exact Written.null.opens.reads fun _ _ _ _ => rfl
  | bool b =>
    refine (Written.bool b).opens.reads fun _ _ _ _ => ?_
    cases b <;> rfl
  | int n => exact reads_int n
  | octets s => exact reads_octets s
  | array h ih => exact reads_array h ih
  | object hnames h ih => exact reads_object hnames h ih

/-- A tree is read back from its text. -/
theorem Written.parse?_print (h : Written j) : parse? (print j) = some j := by
  have hread := h.reads (2 * (print j).length + 2) [] (by omega) stops_nil
  rw [List.append_nil] at hread
  rw [parse?, read, hread]
  rfl

end PushRelay.Json
