import PushRelay.Proofs.Channel.Steps

/-!
# Connections keep out of each other's way

`Alike c ch h ch' h'` says that two states of a channel and its host look the same to a connection `c`: they
may differ in the other connections as they like.  Then a message comes to the same in both and leaves them
alike, and so does any number of messages.

    Alike c ch h ch' h' → (ch'.push h' key m).result = (ch.push h key m).result ∧ …         (Alike.push)

A push writes to all connections at once.  They get the same one after the other, whatever the order.

    Alike c (ch.fanOut h p) (order.foldl (writeTo p) (ch, h))                     (foldl_writeTo_fanOut)
-/

namespace PushRelay.Channel

/-- Two states of a channel and its host look the same to a connection. -/
structure Alike (c : ConnId) (ch : Channel) (h : Host) (ch' : Channel) (h' : Host) : Prop where
  retention : ch'.retention = ch.retention
  closed : ch'.closed = ch.closed
  attachment : ch'.attached.get? c = ch.attached.get? c
  now : h'.now = h.now
  ids : h'.ids = h.ids
  store : h'.store = h.store
  conn : h'.conns.get? c = h.conns.get? c

namespace Alike

variable {c : ConnId} {ch ch' : Channel} {h h' : Host} (ha : Alike c ch h ch' h')
include ha

/-! ## One message -/

theorem drawId : h'.drawId.1 = h.drawId.1 ∧ Alike c ch h.drawId.2 ch' h'.drawId.2 := by
  have hdraw : h'.ids.drawWaiting h'.now = h.ids.drawWaiting h.now := by rw [ha.ids, ha.now]
  have hid := congrArg Prod.fst hdraw
  have hids := congrArg (fun out => out.2.1) hdraw
  have hnow := congrArg (fun out => out.2.2) hdraw
  exact ⟨hid, { ha with now := hnow, ids := hids }⟩

theorem save (key : String) (m : Message) :
    (h'.save key m).1 = (h.save key m).1 ∧ Alike c ch (h.save key m).2 ch' (h'.save key m).2 := by
  have hsave : h'.store.save key m = h.store.save key m := by rw [ha.store]
  have hresult := congrArg Prod.fst hsave
  have hstore := congrArg Prod.snd hsave
  exact ⟨hresult, { ha with store := hstore }⟩

theorem keep (key : String) (m : Message) :
    (ch'.keep h' key m).result = (ch.keep h key m).result ∧
      Alike c (ch.keep h key m).channel (ch.keep h key m).host (ch'.keep h' key m).channel
        (ch'.keep h' key m).host := by
  cases hr : ch.retention with
  | log messages max =>
    have hr' : ch'.retention = .log messages max := ha.retention.trans hr
    simp only [Channel.keep, hr, hr']
    split
    · exact ⟨rfl, { ha with retention := rfl }⟩
    · exact ⟨rfl, ha⟩
    · exact ⟨rfl, ha⟩
  | store =>
    have hr' : ch'.retention = .store := ha.retention.trans hr
    cases hm : m.group with
    | broadcast =>
      simp only [Channel.keep, hr, hr', hm]
      exact ⟨trivial, ha⟩
    | personal =>
      obtain ⟨hid, hdrawn⟩ := ha.drawId
      simp only [Channel.keep, hr, hr', hm]
      generalize h.drawId = drawn at hid hdrawn ⊢
      generalize h'.drawId = drawn' at hid hdrawn ⊢
      obtain ⟨r, h₁⟩ := drawn
      obtain ⟨r', h₁'⟩ := drawn'
      cases hid
      cases r with
      | error e => exact ⟨rfl, hdrawn⟩
      | ok id =>
        obtain ⟨hres, hsaved⟩ := hdrawn.save key (m.withId id)
        simp only
        generalize h₁.save key (m.withId id) = saved at hres hsaved ⊢
        generalize h₁'.save key (m.withId id) = saved' at hres hsaved ⊢
        obtain ⟨r, h₂⟩ := saved
        obtain ⟨r', h₂'⟩ := saved'
        cases hres
        cases r with
        | error e => exact ⟨rfl, hsaved⟩
        | ok _ => exact ⟨rfl, hsaved⟩

theorem reaches (id : Int) : ch'.reaches h' id c = ch.reaches h id c := by
  unfold Channel.reaches Host.hasRoom
  rw [ha.attachment, ha.conn]

theorem fanOut (p : Push) :
    Alike c (ch.fanOut h p).1 (ch.fanOut h p).2 (ch'.fanOut h' p).1 (ch'.fanOut h' p).2 where
  retention := ha.retention
  closed := ha.closed
  attachment := by rw [fanOut_attached, fanOut_attached, ha.attachment, ha.reaches]
  now := ha.now
  ids := ha.ids
  store := ha.store
  conn := by
    show (h'.conns.mapValues _).get? c = (h.conns.mapValues _).get? c
    rw [Table.get?_mapValues, Table.get?_mapValues, ha.conn, ha.reaches]

/-- A message comes to the same in both states, and leaves them alike. -/
theorem push (key : String) (m : Message) :
    (ch'.push h' key m).result = (ch.push h key m).result ∧
      Alike c (ch.push h key m).channel (ch.push h key m).host (ch'.push h' key m).channel
        (ch'.push h' key m).host := by
  obtain ⟨hresult, hkept⟩ := ha.keep key m
  simp only [Channel.push, ha.now, ha.closed, hresult]
  split
  · exact ⟨rfl, ha⟩
  · split
    · exact ⟨rfl, ha⟩
    · split
      · exact ⟨rfl, hkept⟩
      · next m' _ => exact ⟨rfl, { hkept.fanOut m'.push with }⟩

omit ha in
theorem refl (c : ConnId) (ch : Channel) (h : Host) : Alike c ch h ch h :=
  ⟨rfl, rfl, rfl, rfl, rfl, rfl, rfl⟩

theorem trans {ch'' : Channel} {h'' : Host} (ha' : Alike c ch' h' ch'' h'') : Alike c ch h ch'' h'' :=
  ⟨ha'.retention.trans ha.retention, ha'.closed.trans ha.closed,
    ha'.attachment.trans ha.attachment, ha'.now.trans ha.now, ha'.ids.trans ha.ids,
    ha'.store.trans ha.store, ha'.conn.trans ha.conn⟩

end Alike

variable {c : ConnId} {ch ch' : Channel} {h h' : Host}

/-! ## Any number of messages -/

/-- Pushes messages with their keys, one after the other. -/
def pushAll (ch : Channel) (h : Host) :
    List (String × Message) → List (Except ChannelError Int) × Channel × Host
  | [] => ([], ch, h)
  | (key, m) :: ms =>
    let out := ch.push h key m
    let (results, last) := out.channel.pushAll out.host ms
    (out.result :: results, last)

theorem Alike.pushAll (ha : Alike c ch h ch' h') (ms : List (String × Message)) :
    (ch'.pushAll h' ms).1 = (ch.pushAll h ms).1 ∧
      Alike c (ch.pushAll h ms).2.1 (ch.pushAll h ms).2.2 (ch'.pushAll h' ms).2.1
        (ch'.pushAll h' ms).2.2 := by
  induction ms generalizing ch h ch' h' with
  | nil => exact ⟨rfl, ha⟩
  | cons first ms ih =>
    obtain ⟨hresult, hpushed⟩ := ha.push first.1 first.2
    obtain ⟨hresults, hlast⟩ := ih hpushed
    refine ⟨?_, hlast⟩
    show _ :: _ = _ :: _
    rw [hresult, hresults]

/-! ## One connection after the other -/

/-- Writes a payload to one connection, if it is attached and due.  One that does not take it is passed
over and counted. -/
def writeTo (p : Push) (state : Channel × Host) (c : ConnId) : Channel × Host :=
  match state.1.attached.get? c with
  | none => state
  | some a =>
    if a.isDue p.id then
      match (state.2.conns.get? c).bind fun conn => (conn.write p).toOption with
      | some conn =>
        ({ state.1 with attached :=
            state.1.attached.modify c fun a => { a with lastId := max a.lastId p.id } },
          state.2.updateConn c fun _ => conn)
      | none => (state.1, state.2.count fun n => { n with skipped := n.skipped + 1 })
    else state

variable {p : Push} {order : List ConnId}

theorem writeTo_other (hne : c' ≠ c) : Alike c' ch h (writeTo p (ch, h) c).1 (writeTo p (ch, h) c).2 := by
  unfold writeTo
  split
  · exact .refl c' ch h
  · split
    · split
      · refine { Alike.refl c' ch h with attachment := ?_, conn := ?_ }
        · exact (Table.get?_modify _ _ _ _).trans (if_neg hne)
        · exact (Table.get?_modify _ _ _ _).trans (if_neg hne)
      · exact { Alike.refl c' ch h with }
    · exact .refl c' ch h

/-- A connection that is not reached notices nothing of a push. -/
theorem fanOut_unreached (hr : ch.reaches h p.id c = false) :
    Alike c (ch.fanOut h p).1 (ch.fanOut h p).2 ch h := by
  refine { Alike.refl c ch h with attachment := ?_, conn := ?_ }
  · rw [fanOut_attached, hr]
    exact Option.map_id'.symm
  · show h.conns.get? c = (h.conns.mapValues _).get? c
    rw [Table.get?_mapValues, hr]
    exact Option.map_id'.symm

theorem fanOut_reached {a : Attachment} {conn : Connection Push} (hget : ch.attached.get? c = some a)
    (hconn : h.conns.get? c = some conn) (hr : ch.reaches h p.id c = true) :
    (ch.fanOut h p).1.attached.get? c = some { a with lastId := p.id } ∧
      (ch.fanOut h p).2.conns.get? c = some (conn.enqueue p) := by
  constructor
  · rw [fanOut_attached, hget, hr]
    rfl
  · show (h.conns.mapValues _).get? c = _
    rw [Table.get?_mapValues, hconn, hr]
    rfl

/-- A payload is taken exactly where there is room. -/
theorem taken_iff {conn' : Connection Push} :
    ((h.conns.get? c).bind fun conn => (conn.write p).toOption) = some conn' ↔
      ∃ conn, h.conns.get? c = some conn ∧ conn.hasRoom = true ∧ conn' = conn.enqueue p := by
  rw [Option.bind_eq_some_iff]
  refine exists_congr fun conn => and_congr_right fun _ => ?_
  constructor
  · intro hw
    cases hres : conn.write p with
    | error e =>
      rw [hres] at hw
      cases hw
    | ok taken =>
      rw [hres] at hw
      cases hw
      have hq := Connection.write_ok hres
      exact ⟨Connection.write_eq_ok_iff.1 (hq ▸ hres), hq⟩
  · rintro ⟨hroom, rfl⟩
    rw [Connection.write_eq_ok_iff.2 hroom]
    rfl

/-- To the connection itself it is as if all were written to at once. -/
theorem writeTo_self (ch : Channel) (h : Host) (p : Push) (c : ConnId) :
    Alike c (ch.fanOut h p).1 (ch.fanOut h p).2 (writeTo p (ch, h) c).1 (writeTo p (ch, h) c).2 := by
  unfold writeTo
  split
  · next hget => exact fanOut_unreached (by simp only [reaches, hget])
  · next a hget =>
    split
    · next hdue =>
      split
      · next conn' hw =>
        obtain ⟨conn, hconn, hroom, rfl⟩ := taken_iff.1 hw
        have hr : ch.reaches h p.id c = true := by
          simp only [reaches, hget, hdue, Host.hasRoom_iff.2 ⟨conn, hconn, hroom⟩, Bool.true_and]
        obtain ⟨hattached, hconns⟩ := fanOut_reached hget hconn hr
        have hmax : max a.lastId p.id = p.id := by
          obtain ⟨-, hlt⟩ := Bool.and_eq_true_iff.1 hdue
          have := of_decide_eq_true hlt
          omega
        refine { Alike.refl c ch h with attachment := ?_, conn := ?_ }
        · rw [hattached]
          refine (Table.get?_modify _ _ _ _).trans ?_
          rw [if_pos rfl, hget, Option.map_some, hmax]
        · rw [hconns]
          refine (Table.get?_modify _ _ _ _).trans ?_
          rw [if_pos rfl, hconn, Option.map_some]
      · next hw =>
        have hr : ch.reaches h p.id c = false := by
          simp only [reaches, hget, hdue, Bool.true_and]
          rw [Bool.eq_false_iff]
          intro hroom
          obtain ⟨conn, hconn, hroom⟩ := Host.hasRoom_iff.1 hroom
          rw [taken_iff.2 ⟨conn, hconn, hroom, rfl⟩] at hw
          cases hw
        exact { fanOut_unreached hr with }
    · next hdue =>
      refine fanOut_unreached ?_
      simp only [reaches, hget, Bool.eq_false_iff.2 hdue, Bool.false_and]

/-- A connection that has its turn gets what it gets when all are written to at once; one that has none
notices nothing. -/
theorem foldl_writeTo (ch : Channel) (h : Host) (p : Push) (hn : order.Nodup) (c : ConnId) :
    (c ∈ order → Alike c (ch.fanOut h p).1 (ch.fanOut h p).2 (order.foldl (writeTo p) (ch, h)).1
      (order.foldl (writeTo p) (ch, h)).2) ∧
    (c ∉ order → Alike c ch h (order.foldl (writeTo p) (ch, h)).1
      (order.foldl (writeTo p) (ch, h)).2) := by
  -- along the order: until its turn a connection notices nothing, and after it nothing more
  induction order generalizing ch h with
  | nil => exact ⟨fun hc => absurd hc List.not_mem_nil, fun _ => .refl c ch h⟩
  | cons first order ih =>
    obtain ⟨hfirst, hn⟩ := List.nodup_cons.1 hn
    obtain ⟨hin, hout⟩ := ih (writeTo p (ch, h) first).1 (writeTo p (ch, h) first).2 hn
    constructor
    · intro hc
      rcases List.mem_cons.1 hc with rfl | hc
      · exact (writeTo_self ch h p c).trans (hout hfirst)
      · have hne : c ≠ first := fun heq => hfirst (heq ▸ hc)
        exact ((writeTo_other hne).fanOut p).trans (hin hc)
    · intro hc
      obtain ⟨hne, hc⟩ := List.ne_and_not_mem_of_not_mem_cons hc
      exact (writeTo_other hne).trans (hout hc)

/-- Whatever the order in which all attached connections are written to, each gets what it gets when all
are written to at once. -/
theorem foldl_writeTo_fanOut (hn : order.Nodup)
    (hall : ∀ c, ch.attached.contains c = true → c ∈ order) (c : ConnId) :
    Alike c (ch.fanOut h p).1 (ch.fanOut h p).2 (order.foldl (writeTo p) (ch, h)).1
      (order.foldl (writeTo p) (ch, h)).2 := by
  obtain ⟨hin, hout⟩ := foldl_writeTo ch h p hn c
  by_cases hc : c ∈ order
  · exact hin hc
  · have hnone : ch.attached.get? c = none := by
      rw [← Option.not_isSome_iff_eq_none]
      exact mt (hall c) hc
    exact (fanOut_unreached (by simp only [reaches, hnone])).trans (hout hc)

/-- Two states of a channel of any kind that agree on whatever is not another connection's: a message has
the same result in both, and leaves a connection with the same queue and the channel with the same record
of it.  Nor does it matter in which order the connections are written to. -/
theorem push_isolated (alike : Alike c ch h ch' h') (key : String) (m : Message) :
    let out := ch.push h key m
    let out' := ch'.push h' key m
    out'.result = out.result ∧
    out'.channel.attached.get? c = out.channel.attached.get? c ∧
    out'.host.conns.get? c = out.host.conns.get? c ∧
    ∀ (p : Push) (order : List ConnId), order.Nodup →
      (∀ other, ch.attached.contains other = true → other ∈ order) →
      let last := order.foldl (writeTo p) (ch, h)
      last.1.attached.get? c = (ch.fanOut h p).1.attached.get? c ∧
      last.2.conns.get? c = (ch.fanOut h p).2.conns.get? c := by
  obtain ⟨hresult, hpushed⟩ := alike.push key m
  refine ⟨hresult, hpushed.attachment, hpushed.conn, fun p order hn hall => ?_⟩
  have hfold := foldl_writeTo_fanOut (h := h) (p := p) hn hall c
  exact ⟨hfold.attachment, hfold.conn⟩

/-- A channel with a connection that has seen 5, and others. -/
def sharedChannel (others : List (ConnId × Attachment)) : Channel :=
  { Channel.new ⟨.inner, 4, 4, none, 1000⟩ 1000 with
    attached := others.foldl (fun t e => t.insert e.1 e.2) (Table.empty.insert 1 ⟨5, false⟩) }

/-- A host with room for two payloads on the first connection, and others. -/
def sharedHost (others : List (ConnId × Connection Push)) : Host :=
  { Host.new 10 .time (.ofMemory .new) with
    conns := others.foldl (fun t e => t.insert e.1 e.2) (Table.empty.insert 1 (.new 2)) }

/-- The others have gone in one state; in the other one of them is full, one closed and one behind. -/
theorem push_isolated_among_others :
    let m : Message := ⟨7, [], .personal, 5000⟩
    let ch := sharedChannel []
    let h := sharedHost []
    let ch' := sharedChannel [(2, ⟨0, false⟩), (3, ⟨0, false⟩), (4, ⟨9, true⟩)]
    let h' := sharedHost [(2, ⟨1, [m.push], false, false, false⟩), (3, (Connection.new 2).close),
      (4, .new 2)]
    Alike 1 ch h ch' h' ∧ (ch'.push h' "k" m).result = .ok 7 ∧
      (ch'.push h' "k" m).channel.attached.get? 1 = some ⟨7, false⟩ ∧
      (ch'.push h' "k" m).host.conns.get? 1 = some ⟨2, [m.push], false, false, false⟩ ∧
      (ch'.push h' "k" m).host.conns.get? 2 = some ⟨1, [m.push], false, false, false⟩ := by
  intro m ch h ch' h'
  have alike : Alike 1 ch h ch' h' := ⟨rfl, rfl, rfl, rfl, rfl, rfl, rfl⟩
  obtain ⟨hresult, hattached, hconn, -⟩ := push_isolated alike "k" m
  exact ⟨alike, hresult, hattached, hconn, rfl⟩

end PushRelay.Channel
