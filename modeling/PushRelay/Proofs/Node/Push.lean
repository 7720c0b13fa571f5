import PushRelay.Proofs.Hub.Attachments
import PushRelay.Proofs.Node.Batch
import PushRelay.Proofs.Node.Reachable

/-!
# Messages to one key

A message for a key is handed to the channel that the key has.  If that has passed its deadline, it is
closed, and the message is handed to a new one, as it is if the key has none (`Handover`).  Where channels
retain messages, the channel takes the message unless it retains the id, which only a channel that is not
new can do.

    Handover h key id ch h' → Handed h key id ch h'                             (Steady.handed_handover)
    the answer is .ok ↔ ¬ n.hub.Retains key id                                  (pushed_iff_not_retained)

A message that comes when the clock has got to the end of its range has expired already.
-/

namespace PushRelay

/-- What lasts for some time is not over when it begins. -/
theorem lt_deadlineAfter {now : Int} {ttl : Nat} (clock : now < Numeral.int64Max) (httl : 0 < ttl) :
    now < deadlineAfter now ttl := by
  simp only [deadlineAfter, Numeral.clamp64, Numeral.int64Max, Numeral.int64Min] at *
  omega

/-- There is nothing to come once the clock has got to the end of its range. -/
theorem deadlineAfter_le {now : Int} (ended : Numeral.int64Max ≤ now) (ttl : Nat) :
    deadlineAfter now ttl ≤ now := by
  simp only [deadlineAfter, Numeral.clamp64, Numeral.int64Max, Numeral.int64Min] at *
  omega

namespace Channel

variable {ch : Channel} {h : Host} {key : String} {m : Message} {c : ConnId} {id : Int} {bound : Nat}

/-- A push of this id gets to the connection: its replay is over, the greatest id it has seen is below, it
is open and there is room on its queue. -/
def Hears (ch : Channel) (h : Host) (id : Int) (c : ConnId) : Prop :=
  ∃ a conn, (ch.attached.get? c = some a ∧ a.awaitingReplay = false ∧ a.lastId < id) ∧
    h.conns.get? c = some conn ∧ conn.isClosed = false ∧ conn.waiting.length < conn.depth

theorem reaches_iff_hears : ch.reaches h id c = true ↔ ch.Hears h id c := by
  simp only [reaches_iff, Host.hasRoom_iff, Connection.hasRoom, Bool.and_eq_true, Bool.not_eq_true',
    decide_eq_true_eq]
  constructor
  · rintro ⟨a, ha, hr, hl, conn, hconn, ho, hroom⟩
    exact ⟨a, conn, ⟨ha, hr, hl⟩, hconn, ho, hroom⟩
  · rintro ⟨a, conn, ⟨ha, hr, hl⟩, hconn, ho, hroom⟩
    exact ⟨a, ha, hr, hl, conn, hconn, ho, hroom⟩

/-- A push gets to attached connections only. -/
theorem push_unattached (hc : ch.attached.get? c = none) (h : Host) (key : String) (m : Message) :
    (ch.push h key m).host.conns.get? c = h.conns.get? c := by
  obtain ⟨ha, -, hconns, -⟩ := keep_frame ch h key m
  have hp := push_pushed ch h key m
  generalize ch.push h key m = out at hp
  cases hp with
  | refused hsame => rw [hsame]
  | @accepted k =>
    have hreach : (ch.keep h key m).channel.reaches (ch.keep h key m).host k.id c = false := by
      rw [reaches_congr ha hconns, reaches, hc]
    refine (Table.get?_mapValues _ _ _).trans ?_
    show ((ch.keep h key m).host.conns.get? c).map (fun conn =>
      if (ch.keep h key m).channel.reaches _ k.id c then _ else _) = _
    rw [hreach, hconns]
    exact Option.map_id'

/-- An open channel that retains messages refuses one whose id it retains, and nothing comes of it. -/
theorem push_again (hb : ch.bound? = some bound) (ho : ch.closed = false)
    (hx : m.isExpired h.now = false) (hold : ∃ a ∈ ch.retained, a.id = m.id) (key : String) :
    ch.push h key m = ⟨.error (.duplicateMessage m.id), ch, h⟩ := by
  obtain ⟨messages, hr⟩ := bound?_eq_some_iff.1 hb
  rw [retained_log hr] at hold
  simp only [push, hx, ho, keep, hr, MessageLog.insertBounded_again bound hold, Bool.false_eq_true,
    if_false]

/-- It takes any other message that has not expired, and lets go of as many of the lowest ids as it has
to. -/
theorem push_new (hb : ch.bound? = some bound) (hpos : 0 < bound) (ho : ch.closed = false)
    (hx : m.isExpired h.now = false) (hnew : ∀ a ∈ ch.retained, a.id ≠ m.id) (key : String) :
    (ch.push h key m).result = .ok m.id ∧ (ch.push h key m).channel.retained =
      MessageLog.place m (ch.retained.drop (ch.retained.length + 1 - bound)) := by
  obtain ⟨messages, hr⟩ := bound?_eq_some_iff.1 hb
  rw [retained_log hr] at hnew ⊢
  obtain ⟨log, hi, hlog⟩ := MessageLog.insertBounded_new hpos hnew
  have hkeep : ch.keep h key m = ⟨.ok m, { ch with retention := .log log bound }, h⟩ := by
    simp only [keep, hr, hi]
  have hok : (ch.push h key m).result = .ok m.id := by
    simp only [push, hx, ho, hkeep, Bool.false_eq_true, if_false]
  obtain ⟨-, -, -, hret, -⟩ := push_ok hok
  rw [hkeep] at hret
  exact ⟨hok, (retained_log hret).trans hlog⟩

end Channel

namespace Hub

variable {h h' h'' : Hub} {key key' : String} {id id' : ChannelId} {ch ch' : Channel} {c : ConnId}

/-- The key has the channel. -/
def Serves (h : Hub) (key : String) (id : ChannelId) (ch : Channel) : Prop :=
  h.registry.find? key = some id ∧ h.channels.get? id = some ch

/-- The key has a channel that has not passed its deadline, and which retains a message of that id. -/
def Retains (h : Hub) (key : String) (id : Int) : Prop :=
  ∃ channel ch, h.Serves key channel ch ∧ h.host.now < ch.deadline ∧ ∃ m ∈ ch.retained, m.id = id

theorem Serves.unique (hk : h.Serves key id ch) (hk' : h.Serves key id' ch') : id' = id ∧ ch' = ch := by
  have hid : id' = id := Option.some.inj (hk'.1.symm.trans hk.1)
  subst hid
  exact ⟨rfl, Option.some.inj (hk'.2.symm.trans hk.2)⟩

/-- The key has the channel as the call leaves it. -/
theorem Serves.call (hk : h.Serves key id ch) (call : ChannelCall) :
    (h.call id call).Serves key id (call.act ch h.host).1 := by
  refine ⟨?_, ?_⟩
  · rw [(call_rest h id call).1]
    exact hk.1
  · rw [call_channels, if_pos rfl, hk.2]
    rfl

theorem Serves.call_host (hk : h.Serves key id ch) (call : ChannelCall) :
    (h.call id call).host = (call.act ch h.host).2 := by
  rw [Hub.call_host, hk.2]
  rfl

/-! ## Handing a message over -/

/-- The channel that a message for a key is handed to, and the hub then: the channel that the key has, or
a new one if that has passed its deadline or there is none. -/
inductive Handover (h : Hub) (key : String) : ChannelId → Channel → Hub → Prop
  | kept {id : ChannelId} {old : Channel} (hk : h.Serves key id old)
      (ht : h.host.now < old.deadline) :
      Handover h key id (old.setDeadline h.freshDeadline) (h.refresh id)
  | renewed {id : ChannelId} {old : Channel} {h' : Hub} (hk : h.Serves key id old)
      (ht : old.deadline ≤ h.host.now) (hd : Dropped (· == key) [id] h h')
      (hsettings : h'.settings = h.settings) (hnow : h'.host.now = h.host.now) :
      Handover h key h'.nextChannel (.new h'.settings h'.freshDeadline) (h'.getOrCreate key).2
  | made (hk : h.registry.find? key = none) :
      Handover h key h.nextChannel (.new h.settings h.freshDeadline) (h.getOrCreate key).2

/-- What holds of the channel that a message is handed to, and of the rest of the hub, in any case. -/
structure Handed (h : Hub) (key : String) (id : ChannelId) (ch : Channel) (h' : Hub) : Prop where
  serves : h'.Serves key id ch
  opened : ch.closed = false
  deadline : ch.deadline = h.freshDeadline
  now : h'.host.now = h.host.now
  registry : ∀ key', key' ≠ key → h'.registry.find? key' = h.registry.find? key'
  others : ∀ key' id' ch', key' ≠ key → h.Serves key' id' ch' →
    id' ≠ id ∧ h'.channels.get? id' = some ch'
  /-- Who is attached to the channel was attached to the channel that the key had. -/
  seats : ∀ c, ch.attached.contains c = true → ∃ id', h.registry.find? key = some id' ∧
    h.isAttached id' c = true
  strangers : ∀ c, (∀ id', h.registry.find? key = some id' → h.isAttached id' c = false) →
    h'.host.conns.get? c = h.host.conns.get? c

theorem refresh_channels (h : Hub) (id id' : ChannelId) : (h.refresh id).channels.get? id' =
    if id' = id then (h.channels.get? id).map fun ch => ch.setDeadline h.freshDeadline
    else h.channels.get? id' :=
  updateChannel_channels h id _ id'

theorem Steady.handed_refresh (hs : h.Steady) (hk : h.Serves key id ch) :
    Handed h key id (ch.setDeadline h.freshDeadline) (h.refresh id) where
  serves := by
    refine ⟨hk.1, ?_⟩
    rw [refresh_channels, if_pos rfl, hk.2]
    rfl
  opened := by
    show ch.closed = false
    exact (hs.serving key id hk.1).get? hk.2
  deadline := rfl
  now := rfl
  registry := fun _ _ => rfl
  others := by
    intro key' id' ch' hne hk'
    have hid : id' ≠ id := by
      rintro rfl
      exact hne (hs.single key' key id' hk'.1 hk.1)
    refine ⟨hid, ?_⟩
    rw [refresh_channels, if_neg hid]
    exact hk'.2
  seats := fun c hc => ⟨id, hk.1, isAttached_iff.2 ⟨ch, hk.2, hc⟩⟩
  strangers := fun _ _ => rfl

theorem Steady.handed_getOrCreate (hs : h.Steady) (hk : h.registry.find? key = none) :
    Handed h key h.nextChannel (.new h.settings h.freshDeadline) (h.getOrCreate key).2 := by
  rw [getOrCreate_of_none hk]
  refine ⟨⟨?_, ?_⟩, rfl, rfl, rfl, fun key' hne => ?_,
    fun key' id' ch' hne hk' => ?_, fun c hc => ?_, fun _ _ => rfl⟩
  · exact (Registry.find?_insert hs.placed _ _ _).trans (if_pos rfl)
  · exact (Table.get?_insert _ _ _ _).trans (if_pos rfl)
  · exact (Registry.find?_insert hs.placed _ _ _).trans (if_neg hne)
  · have hid : id' ≠ h.nextChannel := Nat.ne_of_lt (hs.lt_of_get? hk'.2)
    exact ⟨hid, ((Table.get?_insert _ _ _ _).trans (if_neg hid)).trans hk'.2⟩
  · cases hc

theorem Dropped.find?_self {ids : List ChannelId} (hd : Dropped (· == key) ids h h') :
    h'.registry.find? key = none := by
  rw [hd.find?, if_pos (beq_self_eq_true key)]

/-- The channel that the key loses first makes no difference to the other keys. -/
theorem Steady.handed_dropped (hs : h.Steady) (hk : h.Serves key id' ch')
    (hd : Dropped (· == key) [id'] h h') (hsettings : h'.settings = h.settings)
    (hnow : h'.host.now = h.host.now) (hh : Handed h' key id ch h'') (hempty : ch.attached = .empty) :
    Handed h key id ch h'' where
  serves := hh.serves
  opened := hh.opened
  deadline := by rw [hh.deadline, freshDeadline, hsettings, hnow, freshDeadline]
  now := hh.now.trans hnow
  registry := by
    intro key' hne
    rw [hh.registry key' hne, hd.find?, if_neg (by simp [hne])]
  others := by
    intro key₁ id₁ ch₁ hne hk₁
    have hid : id₁ ≠ id' := by
      rintro rfl
      exact hne (hs.single key₁ key id₁ hk₁.1 hk.1)
    refine hh.others key₁ id₁ ch₁ hne ⟨?_, ?_⟩
    · rw [hd.find?, if_neg (by simp [hne])]
      exact hk₁.1
    · rw [hd.channels, if_neg (by simp [hid])]
      exact hk₁.2
  seats := by
    intro c hc
    rw [hempty] at hc
    cases hc
  strangers := by
    intro c hc
    have hnone (id₁ : ChannelId) (hk₁ : h'.registry.find? key = some id₁) :
        h'.isAttached id₁ c = false := by
      cases hd.find?_self.symm.trans hk₁
    have hfree : [id'].any (fun id => h.isAttached id c) = false := by simp [hc id' hk.1]
    rw [hh.strangers c hnone, hd.conns, hfree]
    exact Option.map_id'

theorem Steady.handed_handover (hs : h.Steady) (hh : Handover h key id ch h') :
    Handed h key id ch h' := by
  cases hh with
  | kept hk ht => exact hs.handed_refresh hk
  | @renewed _ _ h₁ hk ht hd hsettings hnow =>
    exact hs.handed_dropped hk hd hsettings hnow
      ((hs.change (.dropped _ _ hd)).handed_getOrCreate hd.find?_self) rfl
  | made hk => exact hs.handed_getOrCreate hk

theorem Handover.bound? (hh : Handover h key id ch h') (hu : h.Uniform) :
    ch.bound? = h.settings.bound? := by
  cases hh with
  | @kept _ old hk => exact hu id old hk.2
  | renewed hk ht hd hsettings => rw [Channel.new_bound?, hsettings]
  | made => exact Channel.new_bound? _ _

/-- A message of that id is retained where the message is handed to exactly if the key's channel had one
and has not passed its deadline. -/
theorem Handover.retains_iff (hh : Handover h key id ch h') (i : Int) :
    h.Retains key i ↔ ∃ m ∈ ch.retained, m.id = i := by
  cases hh with
  | kept hk ht =>
    constructor
    · rintro ⟨id', ch', hk', -, hm⟩
      obtain ⟨-, rfl⟩ := hk.unique hk'
      exact hm
    · exact fun hm => ⟨_, _, hk, ht, hm⟩
  | renewed hk ht =>
    rw [Channel.new_retained]
    refine iff_of_false ?_ (by simp)
    rintro ⟨id', ch', hk', ht', -⟩
    obtain ⟨-, rfl⟩ := hk.unique hk'
    exact absurd ht' (Int.not_lt.2 ht)
  | made hk =>
    rw [Channel.new_retained]
    refine iff_of_false ?_ (by simp)
    rintro ⟨id', ch', hk', -⟩
    cases hk.symm.trans hk'.1

/-- A channel before its deadline is kept. -/
theorem Handover.live {old : Channel} (hh : Handover h key id ch h') (hk : h.Serves key id' old)
    (ht : h.host.now < old.deadline) :
    id = id' ∧ ch = old.setDeadline h.freshDeadline ∧ h' = h.refresh id' := by
  cases hh with
  | kept hk' =>
    obtain ⟨rfl, rfl⟩ := hk.unique hk'
    exact ⟨rfl, rfl, rfl⟩
  | renewed hk' ht' =>
    obtain ⟨-, rfl⟩ := hk.unique hk'
    exact absurd ht (Int.not_lt.2 ht')
  | made hk' => cases hk'.symm.trans hk.1

/-- A channel behind its deadline is closed, with all its connections, and another one is made. -/
theorem Steady.handover_passed {old : Channel} (hs : h.Steady) (hh : Handover h key id ch h')
    (hk : h.Serves key id' old) (ht : old.deadline ≤ h.host.now) :
    (id' ≠ id ∧ ch.attached = .empty ∧ ch.retained = []) ∧
    (∃ closed, h'.channels.get? id' = some closed ∧ closed.Emptied) ∧
    ∀ c conn, old.attached.contains c = true → h.host.conns.get? c = some conn →
      h'.host.conns.get? c = some conn.close := by
  cases hh with
  | kept hk' ht' =>
    obtain ⟨-, rfl⟩ := hk.unique hk'
    exact absurd ht' (Int.not_lt.2 ht)
  | @renewed _ _ h₁ hk' ht' hd =>
    obtain ⟨rfl, rfl⟩ := hk'.unique hk
    have hne : id' ≠ h₁.nextChannel := by
      rw [hd.nextChannel]
      exact Nat.ne_of_lt (hs.lt_of_get? hk.2)
    obtain ⟨deadline, hget⟩ := (born_getOrCreate hd.find?_self).channels_get? id'
    refine ⟨⟨hne, rfl, Channel.new_retained _ _⟩, ?_, fun c conn hc hconn => ?_⟩
    · rw [hget, if_neg hne, hd.channels, if_pos (List.mem_singleton_self id'), hk.2]
      exact ⟨_, rfl, Channel.emptied_close _ h.host⟩
    · have hany : [id'].any (fun id => h.isAttached id c) = true := by
        simp [isAttached_iff, hk.2, hc]
      rw [getOrCreate_host, hd.conns, hconn, Option.map_some, if_pos hany]
  | made hk' => cases hk'.symm.trans hk.1

/-- A new channel retains nothing. -/
theorem Handover.first (hh : Handover h key id ch h') (hk : h.registry.find? key = none) :
    ch.retained = [] := by
  cases hh with
  | kept hk' => cases hk.symm.trans hk'.1
  | renewed hk' => cases hk.symm.trans hk'.1
  | made => exact Channel.new_retained _ _

/-- Whoever is asked to close keeps what waits on the connection. -/
theorem Handover.waiting (hh : Handover h key id ch h') (c : ConnId) :
    h'.host.waiting c = h.host.waiting c := by
  cases hh with
  | kept => rfl
  | renewed hk ht hd =>
    rw [getOrCreate_host, Host.waiting, Host.waiting, hd.conns]
    cases h.host.conns.get? c with
    | none => rfl
    | some conn =>
      simp only [Option.map_some]
      split <;> rfl
  | made => rw [getOrCreate_host]

/-! ## Pushing the message -/

/-- From `h` to `h'` a message has got to a key.  The key has an open channel whose deadline has been put
off, and which retains the message and no more messages than it may.  If the channel that the key had has
not passed its deadline, it is that one, and the message waits on exactly the connections that hear it.
If it has, that one is closed and so are its connections, and the new one retains the message alone, as it
does if there was none. -/
structure Accepted (s : ChannelSettings) (key : String) (m : Message) (h h' : Hub) : Prop where
  served : ∃ id ch, h'.Serves key id ch ∧ ch.closed = false ∧
    ch.deadline = deadlineAfter h.host.now s.lifetime ∧ m ∈ ch.retained ∧
    ch.retained.length ≤ s.maxMessages
  live : ∀ id old, h.Serves key id old → h.host.now < old.deadline →
    h'.registry.find? key = some id ∧ ∀ c,
      (old.Hears h.host m.id c → h'.host.waiting c = h.host.waiting c ++ [m.push]) ∧
      (¬ old.Hears h.host m.id c → h'.host.waiting c = h.host.waiting c)
  passed : ∀ id old, h.Serves key id old → old.deadline ≤ h.host.now →
    (∃ ch, h'.channels.get? id = some ch ∧ ch.Emptied) ∧
    (∀ c conn, old.attached.contains c = true → h.host.conns.get? c = some conn →
      h'.host.conns.get? c = some conn.close) ∧
    ∃ id' ch, h'.Serves key id' ch ∧ id' ≠ id ∧ ch.retained = [m]
  first : h.registry.find? key = none → ∃ id ch, h'.Serves key id ch ∧ ch.retained = [m]

/-- From `h` to `h'` no connection and nothing that is retained has changed. -/
structure Refused (h h' : Hub) : Prop where
  conns : h'.host.conns = h.host.conns
  retained : ∀ id, (h'.channels.get? id).map Channel.retained =
    (h.channels.get? id).map Channel.retained

/-- From `h` to `h'` nothing has happened to the channels of other keys, nor to connections that are not
attached to the channel of this one. -/
structure Untouched (key : String) (h h' : Hub) : Prop where
  registry : ∀ key', key' ≠ key → h'.registry.find? key' = h.registry.find? key'
  channels : ∀ key' id ch, key' ≠ key → h.Serves key' id ch → h'.Serves key' id ch
  conns : ∀ c, (∀ id, h.registry.find? key = some id → h.isAttached id c = false) →
    h'.host.conns.get? c = h.host.conns.get? c

section Pushed

variable {m : Message} (hs : h.Steady) (hh : Handover h key id ch h')
include hs hh

/-- The key has the channel as the push leaves it. -/
theorem Handover.serves_push : (h'.call id (.push key m)).Serves key id
    (ch.push h'.host key m).channel :=
  (hs.handed_handover hh).serves.call (.push key m)

theorem Handover.host_push : (h'.call id (.push key m)).host = (ch.push h'.host key m).host :=
  (hs.handed_handover hh).serves.call_host (.push key m)

theorem Handover.untouched : Untouched key h (h'.call id (.push key m)) where
  registry := by
    intro key' hne
    rw [(call_rest _ _ _).1, (hs.handed_handover hh).registry key' hne]
  channels := by
    intro key' id' ch' hne hk'
    have hd := hs.handed_handover hh
    obtain ⟨hid, hch'⟩ := hd.others key' id' ch' hne hk'
    refine ⟨?_, ?_⟩
    · rw [(call_rest _ _ _).1, hd.registry key' hne]
      exact hk'.1
    · rw [call_channels, if_neg hid]
      exact hch'
  conns := by
    intro c hc
    have hd := hs.handed_handover hh
    have hnone : ch.attached.get? c = none := by
      refine Option.not_isSome_iff_eq_none.1 fun hsome => ?_
      obtain ⟨id', hk', ha⟩ := hd.seats c hsome
      rw [hc id' hk'] at ha
      cases ha
    rw [hh.host_push hs, Channel.push_unattached hnone, hd.strangers c hc]

/-- If the message is refused because its id is retained, the channel is the one that the key had. -/
theorem Handover.refused
    (hagain : ch.push h'.host key m = ⟨.error (.duplicateMessage m.id), ch, h'.host⟩)
    (hold : ∃ a ∈ ch.retained, a.id = m.id) : Refused h (h'.call id (.push key m)) := by
  have hserves := hh.serves_push (m := m) hs
  have hhost := hh.host_push (m := m) hs
  rw [hagain] at hserves hhost
  obtain ⟨a, ha, -⟩ := hold
  cases hh with
  | @kept _ old hk =>
    refine ⟨congrArg Host.conns hhost, fun id' => ?_⟩
    by_cases hid : id' = id
    · rw [hid, hserves.2, hk.2]
      rfl
    · rw [call_channels, if_neg hid, refresh_channels, if_neg hid]
  | renewed =>
    rw [Channel.new_retained] at ha
    cases ha
  | made =>
    rw [Channel.new_retained] at ha
    cases ha

variable {s : ChannelSettings}

/-- If the message is taken, it has got to the key. -/
theorem Handover.accepted (hpos : 0 < h.settings.maxMessages)
    (hok : (ch.push h'.host key m).result = .ok m.id)
    (hret : (ch.push h'.host key m).channel.retained = MessageLog.place m
      (ch.retained.drop (ch.retained.length + 1 - h.settings.maxMessages))) :
    Accepted h.settings key m h (h'.call id (.push key m)) := by
  have hd := hs.handed_handover hh
  have hserves := hh.serves_push (m := m) hs
  have hhost := hh.host_push (m := m) hs
  have halone (hempty : ch.retained = []) : (ch.push h'.host key m).channel.retained = [m] := by
    rw [hret, hempty, List.drop_nil]
    rfl
  refine ⟨⟨id, _, hserves, ?_, ?_, ?_, ?_⟩, fun id' old hk ht => ?_, fun id' old hk ht => ?_,
    fun hk => ⟨id, _, hserves, halone (hh.first hk)⟩⟩
  · rw [Channel.push_closed, hd.opened]
  · rw [(Channel.push_rest ch h'.host key m).1.2, hd.deadline]
    rfl
  · rw [hret]
    exact MessageLog.mem_place.2 (Or.inl rfl)
  · rw [hret, MessageLog.length_place, List.length_drop]
    omega
  · obtain ⟨rfl, rfl, rfl⟩ := hh.live hk ht
    have hwaiting : ∀ c, ((h.refresh id).call id (.push key m)).host.waiting c =
        h.host.waiting c ++ if old.reaches h.host m.id c then [m.push] else [] := by
      rw [hhost]
      exact Channel.push_waiting hok
    refine ⟨hserves.1, fun c => ⟨fun hears => ?_, fun hears => ?_⟩⟩
    · rw [hwaiting, if_pos (Channel.reaches_iff_hears.2 hears)]
    · rw [hwaiting, if_neg (mt Channel.reaches_iff_hears.1 hears), List.append_nil]
  · obtain ⟨⟨hne, hattached, hempty⟩, ⟨closed, hclosed, hemptied⟩, hconns⟩ :=
      hs.handover_passed hh hk ht
    refine ⟨⟨closed, ?_, hemptied⟩, fun c conn hc hconn => ?_, id, _, hserves, hne.symm, halone hempty⟩
    · rw [call_channels, if_neg hne]
      exact hclosed
    · have hnone : ch.attached.get? c = none := by
        rw [hattached]
        rfl
      rw [hhost, Channel.push_unattached hnone]
      exact hconns c conn hc hconn

end Pushed

end Hub

namespace Node

variable {n : Node} {key : String} {m : Message}

/-- A message for a key is handed over. -/
theorem channelForPush_handover (hs : n.hub.Steady) (key : String) :
    ∃ ch, Hub.Handover n.hub key (n.channelForPush key).1 ch (n.opened key).hub := by
  have hl := hs.lookup_lookedUp key
  have hsettings : (n.hub.lookup key).2.settings = n.hub.settings := Hub.step_settings n.hub (.lookup key)
  have hnow := (n.hub.lookup_host key).1
  unfold opened channelForPush
  generalize n.hub.lookup key = out at hl hsettings hnow
  cases hl with
  | missing hk =>
    simp only [Hub.getOrCreate_fst hk]
    exact ⟨_, .made hk⟩
  | expired hk hch ht hd =>
    simp only [Hub.getOrCreate_fst hd.find?_self]
    exact ⟨_, .renewed ⟨hk, hch⟩ (of_decide_eq_true ht) hd hsettings hnow⟩
  | found hk hch ht => exact ⟨_, .kept ⟨hk, hch⟩ (Int.not_le.1 (of_decide_eq_false ht))⟩

/-- The message that a request wants to be pushed. -/
def pushMessage (n : Node) (r : PushRequest) : Message :=
  ⟨r.id, Utf8.ofString r.body, r.group, deadlineAfter n.hub.host.now (r.expireSecs * secondNanos)⟩

/-- A request that gives its own id, a key and some time has its message taken to the key. -/
theorem administer_push {r : PushRequest} (named : r.key.isEmpty = false) (lasting : 1 ≤ r.expireSecs)
    (numbered : 0 < r.id) : n.administer (.push r) =
      (((n.pushTo r.key (n.pushMessage r)).1.map .pushed), (n.pushTo r.key (n.pushMessage r)).2) := by
  have hzero : ¬ r.id = 0 := by omega
  have hneg : ¬ r.id < 0 := by omega
  have hsecs : ¬ r.expireSecs = 0 := by omega
  simp only [administer, adminPush, assignId, buildMessage, named, hzero, hneg, hsecs,
    Bool.false_eq_true, if_false]
  rfl

/-- On a node whose channels retain messages, let a request come to push a message to a key, which gives
its own id and wants the message to last for a second or more.  The answer is good exactly if the key has no
channel that has not passed its deadline and retains the id.  Then the message has got to the key.  Otherwise
the request is refused because of the id, and neither a connection nor what is retained changes.  When the
clock has got to the end of its range, where nothing lasts, the request is refused because the message has
expired, and nothing is written to anyone.  Nothing happens to the channels of other keys. -/
theorem pushed_iff_not_retained (hn : n.Reachable) (valid : n.config.validate = .ok ())
    (inner : n.config.channelKind = .inner) {r : PushRequest} (named : r.key.isEmpty = false)
    (lasting : 1 ≤ r.expireSecs) (numbered : 0 < r.id) :
    let m := n.pushMessage r
    let out := n.administer (.push r)
    (n.hub.host.now < Numeral.int64Max →
      ((∃ answer, out.1 = .ok answer) ↔ ¬ n.hub.Retains r.key r.id) ∧
      (∀ answer, out.1 = .ok answer → answer = .pushed r.id ∧
        Hub.Accepted n.config.channelSettings r.key m n.hub out.2.hub) ∧
      (∀ e, out.1 = .error e → e = .channel (.duplicateMessage r.id) ∧
        Hub.Refused n.hub out.2.hub)) ∧
    (Numeral.int64Max ≤ n.hub.host.now → out.1 = .error (.channel .messageExpired) ∧
      ∀ c, out.2.hub.host.waiting c = n.hub.host.waiting c) ∧
    Hub.Untouched r.key n.hub out.2.hub := by
  intro m out
  have hs := hn.hub.regular.steady
  obtain ⟨ch, hh⟩ := channelForPush_handover hs r.key
  have hd := hs.handed_handover hh
  have hanswer := pushTo_result hd.serves.2 m
  have hhub : (n.pushTo r.key m).2.hub =
      (n.opened r.key).hub.call (n.channelForPush r.key).1 (.push r.key m) := rfl
  have hout : out = ((n.pushTo r.key m).1.map .pushed, (n.pushTo r.key m).2) :=
    administer_push named lasting numbered
  rw [hanswer] at hout
  rw [hout, hhub]
  refine ⟨fun clock => ?_, fun ended => ?_, hh.untouched hs⟩
  · have hpos : 0 < n.hub.settings.maxMessages := by
      rw [hn.settings]
      exact Config.pos_of_validate valid (.maxMessagesPerKey, n.config.maxMessagesPerKey)
        (by simp [Config.positives])
    have hbound : ch.bound? = some n.hub.settings.maxMessages := by
      have hkind : n.hub.settings.kind = .inner := by
        rw [hn.settings]
        exact inner
      rw [hh.bound? hn.hub.regular.uniform, ChannelSettings.bound?, hkind]
    have hx : m.isExpired (n.opened r.key).hub.host.now = false := by
      rw [hd.now]
      refine decide_eq_false (Int.not_le.2 (lt_deadlineAfter clock ?_))
      exact Nat.mul_pos lasting (by decide)
    rw [hh.retains_iff r.id, ← hn.settings]
    by_cases hold : ∃ a ∈ ch.retained, a.id = r.id
    · have hagain := Channel.push_again hbound hd.opened hx hold r.key
      rw [hagain]
      refine ⟨iff_of_false ?_ (not_not_intro hold), fun answer ha => ?_, fun e he => ?_⟩
      · rintro ⟨answer, ha⟩
        cases ha
      · cases ha
      · cases he
        exact ⟨rfl, hh.refused hs hagain hold⟩
    · have hnew : ∀ a ∈ ch.retained, a.id ≠ m.id := fun a ha he => hold ⟨a, ha, he⟩
      obtain ⟨hok, hret⟩ := Channel.push_new hbound hpos hd.opened hx hnew r.key
      rw [hok]
      refine ⟨iff_of_true ⟨_, rfl⟩ hold, fun answer ha => ?_, fun e he => ?_⟩
      · cases ha
        exact ⟨rfl, hh.accepted hs hpos hok hret⟩
      · cases he
  · have hx : m.isExpired (n.opened r.key).hub.host.now = true := by
      rw [hd.now]
      exact decide_eq_true (deadlineAfter_le ended _)
    have hexpired : ch.push (n.opened r.key).hub.host r.key m =
        ⟨.error .messageExpired, ch, (n.opened r.key).hub.host⟩ := if_pos hx
    rw [hh.host_push hs, hexpired]
    exact ⟨rfl, hh.waiting⟩

/-- A node with a subscriber to "a". -/
def attendedNode : Node :=
  newNode.through
    [.getOrCreate "a", .host (.connect 2), .call 0 (.attach "a" 1 0), .call 0 (.replay 1 0)]

/-- A message to "a" that brings its id along. -/
def numberedPush : PushRequest := ⟨"a", "x", 1, 7, .personal⟩

/-- The node once the message has come. -/
def pushedNode : Node := (attendedNode.administer (.push numberedPush)).2

/-- The node an hour later. -/
def lateNode : Node :=
  pushedNode.through [.host (.clock (1700000000000000000 + 3600 * secondNanos))]

/-- The message is taken, and heard by the subscriber.  It is refused when it comes again, and taken when
the channel has passed its deadline, which closes the subscriber's connection. -/
theorem pushed_iff_not_retained_again :
    (¬ attendedNode.hub.Retains "a" 7 ∧ pushedNode.hub.Retains "a" 7 ∧
      ¬ lateNode.hub.Retains "a" 7) ∧
    pushedNode.hub.host.waiting 1 = [⟨[120], 7, 0⟩] ∧
    Hub.Refused pushedNode.hub (pushedNode.administer (.push numberedPush)).2.hub ∧
    ∃ conn, (lateNode.administer (.push numberedPush)).2.hub.host.conns.get? 1 = some conn ∧
      conn.closeRequested = true := by
  have hn : attendedNode.Reachable := (reachable_of_made made_newNode).through _
  have hpushed : pushedNode.Reachable := hn.step (.administer (.push numberedPush))
  have hlate : lateNode.Reachable := hpushed.through _
  have named : numberedPush.key.isEmpty = false := rfl
  obtain ⟨hfirst, -⟩ :=
    (pushed_iff_not_retained hn rfl rfl named (by decide) (by decide)).1 (by decide)
  obtain ⟨hsecond, -, hrefused⟩ :=
    (pushed_iff_not_retained hpushed rfl rfl named (by decide) (by decide)).1 (by decide)
  obtain ⟨hthird, haccepted, -⟩ :=
    (pushed_iff_not_retained hlate rfl rfl named (by decide) (by decide)).1 (by decide)
  have taken : (attendedNode.administer (.push numberedPush)).1 = .ok (.pushed 7) := rfl
  have again : (pushedNode.administer (.push numberedPush)).1 =
      .error (.channel (.duplicateMessage 7)) := rfl
  have late : (lateNode.administer (.push numberedPush)).1 = .ok (.pushed 7) := rfl
  have hold : lateNode.hub.Serves "a" 0 ((lateNode.hub.channels.get? 0).get rfl) :=
    ⟨rfl, (Option.some_get rfl).symm⟩
  have hconn : lateNode.hub.host.conns.get? 1 = some ⟨2, [⟨[120], 7, 0⟩], false, false, false⟩ := rfl
  obtain ⟨-, hcloses, -⟩ := (haccepted _ late).2.passed 0 _ hold (by decide)
  refine ⟨⟨hfirst.1 ⟨_, taken⟩, not_not.1 fun hnot => ?_, hthird.1 ⟨_, late⟩⟩, rfl,
    (hrefused _ again).2, _, hcloses 1 _ (by decide) hconn, rfl⟩
  obtain ⟨answer, hok⟩ := hsecond.2 hnot
  cases again.symm.trans hok

end Node

end PushRelay
