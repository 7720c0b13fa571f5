import PushRelay.Message
import PushRelay.Proofs.Base64
import PushRelay.Proofs.Json.Record

/-!
# Messages read back

A message whose numbers have 64 bits is read back from its text, whatever the order of its fields, also
when the group of a personal message is left out.  So is what clients get to see of it.

    m.Sized → m.LaidOut layout → Message.parse? (Json.record layout).print = some m
                                                                             (Message.parse?_of_laidOut)
    IsInt64 p.id → p.group < 256 → Push.parse? p.print = some p                       (Push.parse?_print)
-/

namespace PushRelay

variable {b : UInt8} {n : Int}

/-! ## Fields -/

/-- A signed 64-bit integer. -/
def IsInt64 (n : Int) : Prop := Numeral.int64Min ≤ n ∧ n ≤ Numeral.int64Max

instance (n : Int) : Decidable (IsInt64 n) := inferInstanceAs (Decidable (_ ∧ _))

theorem length_ofInt_le (h : IsInt64 n) : (Numeral.ofInt n).length ≤ 20 := by
  obtain ⟨hlo, hhi⟩ := h
  rw [Numeral.int64Min] at hlo
  rw [Numeral.int64Max] at hhi
  cases n with
  | ofNat n =>
    rw [Int.ofNat_eq_natCast] at hhi
    exact Numeral.length_ofNat_le (by decide) (by omega)
  | negSucc n =>
    have hdigits : (Numeral.ofNat (n + 1)).length ≤ 19 :=
      Numeral.length_ofNat_le (by decide) (by omega)
    exact Nat.succ_le_succ hdigits

theorem Json.int64?_int (h : IsInt64 n) : (Json.int n).int64? = some n := Json.int?_int h.1 h.2

theorem Base64.code_range : ∀ n < 256, Base64.isCode (UInt8.ofNat n) = true →
    32 ≤ n ∧ n < 128 ∧ UInt8.ofNat n ≠ Json.quote ∧ UInt8.ofNat n ≠ Json.backslash := by
  decide +kernel

/-- An octet of base 64 is a character that a string holds as it is. -/
theorem Base64.range_of_isCode (h : Base64.isCode b = true) :
    32 ≤ b.toNat ∧ b.toNat < 128 ∧ b ≠ Json.quote ∧ b ≠ Json.backslash := by
  have hrange := Base64.code_range b.toNat b.toNat_lt
  rw [UInt8.ofNat_toNat] at hrange
  exact hrange h

theorem bodyJson_eq (body : Bytes) : bodyJson body = .octets (Base64.encode body) := by
  have hplain : Json.escape (Base64.encode body) = Base64.encode body :=
    Json.escape_plain fun b hb => by
      obtain ⟨hlo, -, hquote, hescape⟩ := Base64.range_of_isCode (Base64.isCode_of_mem_encode hb)
      exact ⟨hlo, hquote, hescape⟩
  rw [bodyJson, Json.octets, hplain]

theorem body?_bodyJson (body : Bytes) : body? (bodyJson body) = some body := by
  have htext : Utf8.decode? (Base64.encode body) =
      some ((Base64.encode body).map fun b => Char.ofNat b.toNat) :=
    Utf8.decode?_ascii fun b hb => (Base64.range_of_isCode (Base64.isCode_of_mem_encode hb)).2.1
  rw [body?, bodyJson_eq, Json.octets?_octets, htext]
  exact Base64.decode?_encode body

theorem Group.ofJson?_text (g : Group) : Group.ofJson? (.text g.name) = some g := by
  have hname : Group.ofName? g.name = some g := by cases g <;> rfl
  show (Json.text? (.text g.name)).bind Group.ofName? = some g
  rw [Json.text?_text, Option.bind_some, hname]

/-! ## Messages -/

namespace Message

variable {m : Message} {layout : List (String × Json)}

/-- The numbers of a message have 64 bits. -/
structure Sized (m : Message) : Prop where
  id : IsInt64 m.id
  expire : IsInt64 m.expire

/-- The members of a message, in the order in which it is printed. -/
def members (m : Message) : List (String × Json) :=
  [("id", .int m.id), ("body", bodyJson m.body), ("group", .text m.group.name),
    ("expire", .int m.expire)]

/-- The members without the group. -/
def ungrouped (m : Message) : List (String × Json) :=
  [("id", .int m.id), ("body", bodyJson m.body), ("expire", .int m.expire)]

theorem toJson_eq (m : Message) : m.toJson = .record m.members := rfl

/-- The ways to lay out a message: its members in any order, without the group if it is personal. -/
inductive LaidOut (m : Message) : List (String × Json) → Prop
  | whole {layout : List (String × Json)} (h : layout.Perm m.members) : LaidOut m layout
  | ungrouped {layout : List (String × Json)} (hpersonal : m.group = .personal)
      (h : layout.Perm m.ungrouped) : LaidOut m layout

theorem laidOut_members (m : Message) : m.LaidOut m.members := .whole (.refl _)

theorem written_member {name : String} {value : Json} (h : (name, value) ∈ m.members) :
    value.Written := by
  simp only [members, List.mem_cons, Prod.mk.injEq, List.not_mem_nil, or_false] at h
  rcases h with ⟨-, rfl⟩ | ⟨-, rfl⟩ | ⟨-, rfl⟩ | ⟨-, rfl⟩
  · exact .int m.id
  · exact bodyJson_eq m.body ▸ .octets _
  · exact .octets _
  · exact .int m.expire

theorem ungrouped_sublist (m : Message) : m.ungrouped.Sublist m.members :=
  .cons_cons _ (.cons_cons _ (.cons _ (.cons_cons _ .slnil)))

theorem LaidOut.mem (h : m.LaidOut layout) {e : String × Json} (he : e ∈ layout) :
    e ∈ m.members := by
  cases h with
  | whole h => exact h.mem_iff.1 he
  | ungrouped _ h => exact m.ungrouped_sublist.mem (h.mem_iff.1 he)

theorem LaidOut.written (h : m.LaidOut layout) : (Json.record layout).Written :=
  .record fun _ he => written_member (h.mem he)

theorem LaidOut.record? (h : m.LaidOut layout) :
    ∃ group, (Json.record layout).record? fields =
      some [some (.int m.id), some (bodyJson m.body), group, some (.int m.expire)] ∧
    (group.map Group.ofJson?).getD (some .personal) = some m.group := by
  cases h with
  | whole h =>
    refine ⟨some (.text m.group.name), ?_, Group.ofJson?_text m.group⟩
    rw [Json.record?_perm h, Json.record?_record]
    rfl
  | ungrouped hpersonal h =>
    refine ⟨none, ?_, congrArg some hpersonal.symm⟩
    rw [Json.record?_perm h, Json.record?_record]
    rfl

/-- A message is read from the record of its fields. -/
theorem ofJson?_of_laidOut (hm : m.Sized) (h : m.LaidOut layout) :
    ofJson? (.record layout) = some m := by
  obtain ⟨group, hrecord, hgroup⟩ := h.record?
  simp only [ofJson?, hrecord, hgroup, Json.int64?_int hm.id, Json.int64?_int hm.expire,
    body?_bodyJson]

/-- A message is read back from its text. -/
theorem parse?_of_laidOut (hm : m.Sized) (h : m.LaidOut layout) :
    parse? (Json.record layout).print = some m := by
  rw [parse?, h.written.parse?_print, Option.bind_some, ofJson?_of_laidOut hm h]

end Message

/-! ## Pushes -/

namespace Push

variable {p : Push}

theorem written_toJson (p : Push) : p.toJson.Written := by
  refine .record fun e he => ?_
  simp only [List.mem_cons, List.not_mem_nil, or_false] at he
  rcases he with rfl | rfl | rfl
  · exact bodyJson_eq p.body ▸ .octets _
  · exact .int p.id
  · exact .int p.group

theorem record?_toJson (p : Push) : p.toJson.record? fields =
    some [some (bodyJson p.body), some (.int p.id), some (.nat p.group)] := by
  rw [toJson, Json.record?_record]
  rfl

theorem length_print (p : Push) : p.print.length = (Base64.encode p.body).length +
    (Numeral.ofInt p.id).length + (Numeral.ofNat p.group).length + 24 := by
  have hname : ∀ name ∈ fields, (Json.escape (Utf8.ofString name)).length = 3 := by decide
  have hmsg := hname "msg" (by decide)
  have hmid := hname "mid" (by decide)
  have hgid := hname "gid" (by decide)
  simp only [print, toJson, Json.record, List.map_cons, List.map_nil, Json.print,
    Json.printMembers, Json.quoteContent, bodyJson, Json.int, Json.nat, List.length_append,
    List.length_cons, List.length_nil, hmsg, hmid, hgid]
  omega

/-- The text of a push fits a 64-bit length if its body takes up half of that at most. -/
theorem length_print_lt (hid : IsInt64 p.id) (hgroup : p.group < 256) (hbody : p.body.length < 2 ^ 63) :
    p.print.length < Numeral.wordBound := by
  have hidLength := length_ofInt_le hid
  have hgroupLength : (Numeral.ofNat p.group).length ≤ 3 :=
    Numeral.length_ofNat_le (by decide) (Nat.lt_trans hgroup (by decide))
  have hencoded := Base64.length_encode p.body
  rw [length_print, Numeral.wordBound]
  omega

/-- What clients get to see of a message is read back from its text. -/
theorem parse?_print (hid : IsInt64 p.id) (hgroup : p.group < 256) : parse? p.print = some p := by
  rw [parse?, print, (written_toJson p).parse?_print, Option.bind_some, ofJson?, record?_toJson]
  simp only [body?_bodyJson, Json.int64?_int hid, Json.nat?_nat hgroup]

end Push

end PushRelay
