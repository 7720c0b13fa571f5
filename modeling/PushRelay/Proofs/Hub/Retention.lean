import PushRelay.Proofs.Channel.Attachments
import PushRelay.Proofs.Hub.Lifecycle

/-!
# How the channels of a hub keep messages

The settings of a hub say whether its channels retain messages, and how many, and how many connections they
take.  No call on a channel changes that, and a hub has no other channels than those it made.

    h.Regular → h.channels.get? id = some ch → ch.bound? = h.settings.bound?           (Regular.uniform)
    h.Regular → (h.step e).Regular                                                        (Regular.step)
-/

namespace PushRelay

namespace Channel

variable {ch : Channel} {messages : MessageLog} {bound : Nat}

/-- How many messages the channel retains at most, if it retains them itself. -/
def bound? (ch : Channel) : Option Nat :=
  match ch.retention with
  | .log _ max => some max
  | .store => none

theorem bound?_of_log (hr : ch.retention = .log messages bound) : ch.bound? = some bound := by
  simp only [bound?, hr]

theorem bound?_congr {ch' : Channel} (hr : ch'.retention = ch.retention) : ch'.bound? = ch.bound? := by
  unfold bound?
  rw [hr]

theorem bound?_eq_none_iff : ch.bound? = none ↔ ch.retention = .store := by
  unfold bound?
  cases ch.retention <;> simp

theorem bound?_eq_some_iff : ch.bound? = some bound ↔ ∃ messages, ch.retention = .log messages bound := by
  unfold bound?
  cases ch.retention <;> simp

theorem keep_bound? (ch : Channel) (h : Host) (key : String) (m : Message) :
    (ch.keep h key m).channel.bound? = ch.bound? := by
  have hk := keep_kept ch h key m
  generalize ch.keep h key m = out at hk
  cases hk with
  | retained hr => exact (bound?_of_log rfl).trans (bound?_of_log hr).symm
  | _ => rfl

theorem push_bound? (ch : Channel) (h : Host) (key : String) (m : Message) :
    (ch.push h key m).channel.bound? = ch.bound? := by
  have hp := push_pushed ch h key m
  have hk := keep_bound? ch h key m
  generalize ch.push h key m = out at hp
  cases hp with
  | refused => rfl
  | accepted => exact hk

theorem replay_bound? (ch : Channel) (h : Host) (c : ConnId) (since : Int) :
    (ch.replay h c since).channel.bound? = ch.bound? := by
  have hp := replay_replayed ch h c since
  generalize ch.replay h c since = out at hp
  cases hp with
  | quiet => rfl
  | tried ht =>
    obtain ⟨bound, hr, hr'⟩ := ht.source
    exact (bound?_of_log hr').trans (bound?_of_log hr).symm

/-- No call changes how a channel keeps messages. -/
theorem act_bound? (ch : Channel) (h : Host) (call : ChannelCall) :
    (call.act ch h).1.bound? = ch.bound? := by
  cases call with
  | push key m => exact push_bound? ch h key m
  | attach key c lastId => exact bound?_congr (attach_retention ch h key c lastId)
  | replay c since => exact replay_bound? ch h c since
  | detach c => rfl
  | setDeadline deadline => rfl
  | addToken ticket =>
    obtain ⟨tokens, ht⟩ := act_addToken ch h ticket
    rw [ht]
    rfl
  | authToken ticket =>
    obtain ⟨tokens, ht⟩ := act_authToken ch h ticket
    rw [ht]
    rfl

/-- The channel retains no more messages than it may. -/
def Moderate (ch : Channel) : Prop := ∀ bound, ch.bound? = some bound → ch.retained.length ≤ bound

theorem Moderate.push (hm : ch.Moderate) (h : Host) (key : String) (m : Message) :
    (ch.push h key m).channel.Moderate := by
  have hp := push_pushed ch h key m
  have hk := keep_kept ch h key m
  generalize ch.push h key m = out at hp
  cases hp with
  | refused => exact hm
  | accepted =>
    show (ch.keep h key m).channel.Moderate
    generalize ch.keep h key m = kept at hk
    cases hk with
    | retained hr hi =>
      intro bound hb
      rw [bound?_of_log rfl] at hb
      cases hb
      exact MessageLog.length_insertBounded_le hi
    | _ => exact hm

theorem Moderate.replay (hm : ch.Moderate) (h : Host) (c : ConnId) (since : Int) :
    (ch.replay h c since).channel.Moderate := by
  have hp := replay_replayed ch h c since
  generalize ch.replay h c since = out at hp
  cases hp with
  | quiet => exact hm
  | tried ht =>
    obtain ⟨bound, hr, hr'⟩ := ht.source
    intro bound' hb
    rw [bound?_of_log hr'] at hb
    cases hb
    have hle := hm bound (bound?_of_log hr)
    rw [retained_log hr] at hle
    rw [retained_log hr']
    exact Nat.le_trans (MessageLog.length_remove_le _ _) hle

theorem Moderate.congr {ch' : Channel} (hm : ch.Moderate) (hr : ch'.retention = ch.retention) :
    ch'.Moderate := by
  unfold Moderate
  rw [bound?_congr hr, retained_congr hr]
  exact hm

/-- No call makes a channel retain more messages than it may. -/
theorem Moderate.act (hm : ch.Moderate) (h : Host) (call : ChannelCall) : (call.act ch h).1.Moderate := by
  cases call with
  | push key m => exact hm.push h key m
  | attach key c lastId => exact hm.congr (attach_retention ch h key c lastId)
  | replay c since => exact hm.replay h c since
  | detach c => exact hm
  | setDeadline deadline => exact hm
  | addToken ticket =>
    obtain ⟨tokens, ht⟩ := act_addToken ch h ticket
    rw [ht]
    exact hm
  | authToken ticket =>
    obtain ⟨tokens, ht⟩ := act_authToken ch h ticket
    rw [ht]
    exact hm

theorem moderate_of_nil (hr : ch.retained = []) : ch.Moderate := by
  intro bound _
  rw [hr]
  exact Nat.zero_le bound

theorem close_bound? (ch : Channel) (h : Host) : (ch.close h).1.bound? = ch.bound? := by
  unfold bound? close
  cases ch.retention <;> rfl

end Channel

/-- How many messages a channel retains at most, if channels retain messages themselves. -/
def ChannelSettings.bound? (s : ChannelSettings) : Option Nat :=
  match s.kind with
  | .inner => some s.maxMessages
  | .outer => none

theorem Channel.new_bound? (s : ChannelSettings) (deadline : Int) :
    (Channel.new s deadline).bound? = s.bound? := by
  unfold Channel.bound? Channel.new ChannelSettings.bound?
  cases s.kind <;> rfl

theorem Channel.new_retained (s : ChannelSettings) (deadline : Int) :
    (Channel.new s deadline).retained = [] := by
  unfold Channel.retained Channel.new
  cases s.kind <;> rfl

namespace Channel

/-- What the settings make of a channel, and what they allow it. -/
structure GoesBy (s : ChannelSettings) (ch : Channel) : Prop where
  maxConns : ch.maxConns = s.maxConns
  bounded : ch.Bounded
  bound? : ch.bound? = s.bound?
  moderate : ch.Moderate

variable {s : ChannelSettings} {ch : Channel}

theorem goesBy_new (s : ChannelSettings) (deadline : Int) : (new s deadline).GoesBy s :=
  ⟨rfl, Nat.zero_le _, new_bound? s deadline, moderate_of_nil (new_retained s deadline)⟩

theorem GoesBy.act (hg : ch.GoesBy s) (h : Host) (call : ChannelCall) : (call.act ch h).1.GoesBy s :=
  ⟨(ch.act_rest h call).1.trans hg.maxConns, hg.bounded.act h call,
    (ch.act_bound? h call).trans hg.bound?, hg.moderate.act h call⟩

theorem GoesBy.close (hg : ch.GoesBy s) (h : Host) : (ch.close h).1.GoesBy s :=
  ⟨hg.maxConns, Nat.zero_le _, (ch.close_bound? h).trans hg.bound?,
    moderate_of_nil (ch.close_retains h).2⟩

end Channel

namespace Hub

variable {h h' : Hub}

/-- Every channel keeps messages as the settings say. -/
def Uniform (h : Hub) : Prop :=
  ∀ id ch, h.channels.get? id = some ch → ch.bound? = h.settings.bound?

theorem closeChannels_settings (h : Hub) (ids : List ChannelId) :
    (h.closeChannels ids).settings = h.settings := by
  induction ids generalizing h with
  | nil => rfl
  | cons a ids ih =>
    have hone : (h.closeChannel a).settings = h.settings := by
      unfold closeChannel
      split <;> rfl
    exact (ih (h.closeChannel a)).trans hone

theorem onChannel_settings {α : Type} (h : Hub) (id : ChannelId) (f : Channel → Host → Outcome α) :
    (h.onChannel id f).2.settings = h.settings := by
  unfold onChannel
  split <;> rfl

theorem step_settings (h : Hub) (e : HubEvent) : (h.step e).settings = h.settings := by
  cases e with
  | getOrCreate key =>
    show (h.getOrCreate key).2.settings = h.settings
    unfold getOrCreate
    split <;> rfl
  | lookup key =>
    show (h.lookup key).2.settings = h.settings
    unfold lookup
    split
    · rfl
    · split
      · rfl
      · split
        · exact closeChannels_settings _ [_]
        · rfl
  | close key =>
    show (h.close key).2.settings = h.settings
    unfold close
    split
    · rfl
    · exact closeChannels_settings _ [_]
  | closeAll => exact closeChannels_settings _ _
  | migrate hash self nodes vnodes =>
    show (h.migrate hash self nodes vnodes).2.settings = h.settings
    unfold migrate
    split
    · exact closeChannels_settings _ _
    · rfl
  | call id call =>
    cases call with
    | detach c => rfl
    | setDeadline deadline => rfl
    | _ => exact onChannel_settings h id _
  | host e => rfl

theorem run_settings (h : Hub) (es : List HubEvent) : (h.run es).settings = h.settings := by
  induction es generalizing h with
  | nil => rfl
  | cons e es ih => exact (ih (h.step e)).trans (step_settings h e)

/-- The hub is steady, and its channels go by the settings. -/
structure Regular (h : Hub) : Prop where
  steady : h.Steady
  channels : ∀ id ch, h.channels.get? id = some ch → ch.GoesBy h.settings

/-- Neither new channels nor calls nor closing take the channels away from the settings. -/
theorem Regular.change (hr : h.Regular) (hc : Change h h') (hs : h'.settings = h.settings) :
    h'.Regular where
  steady := hr.steady.change hc
  channels := by
    intro id ch hch
    rw [hs]
    cases hc with
    | called id' call hh =>
      subst hh
      rw [call_channels] at hch
      split at hch
      · obtain ⟨old, hold, rfl⟩ := Option.map_eq_some_iff.1 hch
        exact (hr.channels id' old hold).act h.host call
      · exact hr.channels id ch hch
    | born key hb =>
      obtain ⟨deadline, hget⟩ := hb.channels_get? id
      rw [hget] at hch
      split at hch
      · cases hch
        exact Channel.goesBy_new h.settings deadline
      · exact hr.channels id ch hch
    | dropped p ids hd =>
      rw [hd.channels] at hch
      split at hch
      · obtain ⟨old, hold, rfl⟩ := Option.map_eq_some_iff.1 hch
        exact (hr.channels id old hold).close h.host
      · exact hr.channels id ch hch
    | around _ hc _ _ => exact hr.channels id ch (hc ▸ hch)

theorem Regular.step (hr : h.Regular) (e : HubEvent) : (h.step e).Regular :=
  hr.change (hr.steady.step_change e) (step_settings h e)

theorem Regular.run (hr : h.Regular) (es : List HubEvent) : (h.run es).Regular := by
  induction es generalizing h with
  | nil => exact hr
  | cons e es ih => exact ih (hr.step e)

theorem regular_new {hash : String → Nat} {buckets : Nat} {settings : ChannelSettings}
    {hasStore : Bool} {now : Int} {ids : IdSource} {store : Store}
    (made : new hash buckets settings hasStore (.new now ids store) = .ok h) : h.Regular := by
  refine ⟨(sound_new made).toSteady, fun id ch hch => ?_⟩
  obtain ⟨registry, -, rfl⟩ := new_ok made
  cases hch

theorem Reachable.regular (hr : h.Reachable) : h.Regular := by
  obtain ⟨_, _, _, _, _, _, _, h₀, es, made, rfl⟩ := hr
  exact (regular_new made).run es

theorem Regular.uniform (hr : h.Regular) : h.Uniform := fun id ch hch => (hr.channels id ch hch).bound?

end Hub

end PushRelay
