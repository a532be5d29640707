/-
# Broadcast feeds

Writers store values by topic and announce what they stored; readers follow a topic.  A writer's
announcement comes some time after its write, and another writer's may come before it.  A reader
first reads what is stored, then takes a place in the channel of the topic and receives what is
announced from then on.  A place holds a bounded number of announcements; a reader that falls
behind loses the oldest and is told to start over.

What is stored is a predicate here, `current`: which values tell what the topic holds.
-/

import Mathlib.Data.List.Basic
import Mathlib.Tactic.Common

namespace WorkGate.Library

universe uτ uν

/-- A reader that has taken its place in the channel of a topic. -/
structure Receiver (τ : Type uτ) (ν : Type uν) where
  topic : τ
  /-- What it was given last: its snapshot at first. -/
  last : ν
  /-- What it has yet to receive, the oldest first. -/
  queue : List ν
  /-- How many announcements it lost since it last received. -/
  skipped : ℕ
  /-- Whether it was told to start over. -/
  resynced : Bool
  deriving DecidableEq

namespace Receiver

variable {τ : Type uτ} {ν : Type uν}

/-- One more announcement for a place that holds `capacity` of them. -/
def send (capacity : ℕ) (value : ν) (receiver : Receiver τ ν) : Receiver τ ν :=
  let queue := receiver.queue ++ [value]
  { receiver with
    queue := queue.drop (queue.length - capacity)
    skipped := receiver.skipped + (queue.length - capacity) }

/-- The next thing the reader is told: that it lost something, or the oldest announcement. -/
def receive (receiver : Receiver τ ν) : Receiver τ ν :=
  if 0 < receiver.skipped then { receiver with
    skipped := 0
    resynced := true }
  else match receiver.queue with
    | [] => receiver
    | value :: queue => { receiver with
        last := value
        queue := queue }

/-- Nothing was lost on the way. -/
def Whole (receiver : Receiver τ ν) : Prop :=
  receiver.skipped = 0 ∧ receiver.resynced = false

/-- What the reader ends with once it has received all there is. -/
def newest (receiver : Receiver τ ν) : ν :=
  receiver.queue.getLastD receiver.last

theorem newest_of_drained {receiver : Receiver τ ν} (hdrained : receiver.queue = []) :
    receiver.newest = receiver.last := by
  rw [newest, hdrained]
  rfl

@[simp] theorem topic_send (capacity : ℕ) (value : ν) (receiver : Receiver τ ν) :
    (receiver.send capacity value).topic = receiver.topic := rfl

@[simp] theorem topic_receive (receiver : Receiver τ ν) :
    receiver.receive.topic = receiver.topic := by
  simp only [receive]
  repeat' split
  all_goals rfl

/-- Whoever lost nothing ends with the announcement sent last. -/
theorem newest_send {capacity : ℕ} {value : ν} {receiver : Receiver τ ν}
    (hwhole : (receiver.send capacity value).Whole) :
    (receiver.send capacity value).newest = value := by
  have hkept : (receiver.queue ++ [value]).length - capacity = 0 := by
    have hskipped := hwhole.1
    simp only [send] at hskipped
    omega
  simp only [newest, send, hkept, List.drop_zero, List.getLastD_concat]

/-- Receiving changes what has been read, not what will have been. -/
theorem newest_receive {receiver : Receiver τ ν} (hwhole : receiver.receive.Whole) :
    receiver.Whole ∧ receiver.receive.newest = receiver.newest := by
  by_cases hskipped : 0 < receiver.skipped
  · have hresynced := hwhole.2
    simp [receive, hskipped] at hresynced
  · simp only [receive, if_neg hskipped] at hwhole ⊢
    cases hqueue : receiver.queue with
    | nil =>
        simp only [hqueue] at hwhole
        exact ⟨hwhole, rfl⟩
    | cons value queue =>
        simp only [hqueue] at hwhole
        refine ⟨hwhole, ?_⟩
        rw [newest, newest, hqueue, List.getLastD_cons]

end Receiver

/-! ## Feeds -/

/-- Where the announcements and the readers of all topics are. -/
structure Feed (τ : Type uτ) (ν : Type uν) where
  /-- The topics with a write whose announcement reads the topic again first. -/
  unread : List τ
  /-- The announcements to be sent, in the order in which their values were read. -/
  ready : List (τ × ν)
  /-- The readers that have a snapshot and no place yet. -/
  waiting : List (τ × ν)
  receivers : List (Receiver τ ν)

namespace Feed

variable {τ : Type uτ} {ν : Type uν} [DecidableEq τ] {feed : Feed τ ν} {topic : τ} {value : ν}
  {current after : τ → ν → Prop}

/-- Nothing written, nobody reading. -/
def empty : Feed τ ν := ⟨[], [], [], []⟩

/-- A write that is announced later, once the topic is read again. -/
def owe (topic : τ) (feed : Feed τ ν) : Feed τ ν :=
  { feed with unread := feed.unread ++ [topic] }

/-- The topic of such a write has been read. -/
def settle (topic : τ) (feed : Feed τ ν) : Feed τ ν :=
  { feed with unread := feed.unread.erase topic }

/-- An announcement to be sent. -/
def post (topic : τ) (value : ν) (feed : Feed τ ν) : Feed τ ν :=
  { feed with ready := feed.ready ++ [(topic, value)] }

/-- Send an announcement to those who have a place in its channel. -/
def notify (capacity position : ℕ) (feed : Feed τ ν) : Feed τ ν :=
  match feed.ready[position]? with
  | none => feed
  | some (topic, value) => { feed with
      ready := feed.ready.eraseIdx position
      receivers := feed.receivers.map fun receiver =>
        if receiver.topic = topic then receiver.send capacity value else receiver }

/-- A reader reads what is stored. -/
def look (topic : τ) (value : ν) (feed : Feed τ ν) : Feed τ ν :=
  { feed with waiting := feed.waiting ++ [(topic, value)] }

/-- A reader takes its place. -/
def subscribe (position : ℕ) (feed : Feed τ ν) : Feed τ ν :=
  match feed.waiting[position]? with
  | none => feed
  | some (topic, value) => { feed with
      waiting := feed.waiting.eraseIdx position
      receivers := feed.receivers ++ [⟨topic, value, [], 0, false⟩] }

/-- A reader is told the next thing. -/
def receive (position : ℕ) (feed : Feed τ ν) : Feed τ ν :=
  { feed with receivers := feed.receivers.modify position Receiver.receive }

/-- An announcement a writer leaves: what it has read already, or a topic to be read again. -/
inductive Notice (τ : Type uτ) (ν : Type uν)
  | update (topic : τ) (value : ν)
  | reread (topic : τ)

/-- The topic of an announcement. -/
def Notice.subject : Notice τ ν → τ
  | .update topic _ | .reread topic => topic

/-- Put an announcement where it waits. -/
def leave (feed : Feed τ ν) : Notice τ ν → Feed τ ν
  | .update topic value => feed.post topic value
  | .reread topic => feed.owe topic

/-- What is to be sent on a topic, the oldest first. -/
def announcements (feed : Feed τ ν) (topic : τ) : List ν :=
  (feed.ready.filter fun announcement => announcement.1 = topic).map Prod.snd

/-- A write of the topic has not been announced yet. -/
def Outstanding (feed : Feed τ ν) (topic : τ) : Prop :=
  topic ∈ feed.unread ∨ feed.announcements topic ≠ []

instance decidableOutstanding (feed : Feed τ ν) (topic : τ) :
    Decidable (feed.Outstanding topic) :=
  haveI : Decidable (feed.announcements topic ≠ []) :=
    decidable_of_iff ((feed.announcements topic).isEmpty = false) (by simp)
  inferInstanceAs (Decidable (_ ∨ _))

/-- The announcement is the oldest of its topic. -/
def InTurn (feed : Feed τ ν) (position : ℕ) : Prop :=
  ∀ announcement ∈ feed.ready[position]?, ∀ earlier ∈ feed.ready.take position,
    earlier.1 ≠ announcement.1

/-- Whoever takes its place has read what is stored, or will hear of it. -/
def InTime (feed : Feed τ ν) (current : τ → ν → Prop) (position : ℕ) : Prop :=
  ∀ reader ∈ feed.waiting[position]?, current reader.1 reader.2 ∨ feed.Outstanding reader.1

/-- Whoever loses nothing on the way ends with what is stored: with the announcement sent last, or
with the one read last of those still to be sent. -/
structure Fresh (current : τ → ν → Prop) (feed : Feed τ ν) : Prop where
  announced : ∀ topic, topic ∉ feed.unread →
    ∀ value ∈ (feed.announcements topic).getLast?, current topic value
  received : ∀ receiver ∈ feed.receivers, receiver.Whole →
    ¬ feed.Outstanding receiver.topic → current receiver.topic receiver.newest

/-- A reader that has received all there is, and lost nothing, was last given what is stored. -/
theorem Fresh.last_current (hfresh : feed.Fresh current) {receiver : Receiver τ ν}
    (hreceiver : receiver ∈ feed.receivers) (hwhole : receiver.Whole)
    (hsettled : ¬ feed.Outstanding receiver.topic) (hdrained : receiver.queue = []) :
    current receiver.topic receiver.last := by
  have hnewest := hfresh.received receiver hreceiver hwhole hsettled
  rwa [Receiver.newest_of_drained hdrained] at hnewest

theorem Fresh.empty (current : τ → ν → Prop) : (empty : Feed τ ν).Fresh current where
  announced := by
    intro topic _ value hvalue
    cases hvalue
  received := by
    intro receiver hreceiver
    cases hreceiver

/-- Writes that are yet to be announced may change what is stored. -/
theorem Fresh.written (hfresh : feed.Fresh current)
    (hkept : ∀ topic, topic ∉ feed.unread → ∀ value, current topic value → after topic value) :
    feed.Fresh after where
  announced := fun topic hread value hvalue =>
    hkept topic hread value (hfresh.announced topic hread value hvalue)
  received := fun receiver hreceiver hwhole hsettled =>
    hkept _ (fun hunread => hsettled (.inl hunread)) _
      (hfresh.received receiver hreceiver hwhole hsettled)

theorem announcements_post (feed : Feed τ ν) (topic other : τ) (value : ν) :
    (feed.post topic value).announcements other =
      feed.announcements other ++ if topic = other then [value] else [] := by
  simp only [announcements, post, List.filter_append, List.map_append]
  by_cases htopic : topic = other
  · simp [htopic]
  · simp [htopic]

theorem Fresh.owe (hfresh : feed.Fresh current) (topic : τ) :
    (feed.owe topic).Fresh current where
  announced := fun other hread =>
    hfresh.announced other fun hunread => hread (List.mem_append_left _ hunread)
  received := by
    intro receiver hreceiver hwhole hsettled
    apply hfresh.received receiver hreceiver hwhole
    intro hbefore
    exact hsettled (hbefore.imp_left (List.mem_append_left _))

/-- Of a topic that was read for the announcement it was owed, nothing is known until that
announcement is left. -/
theorem Fresh.settle (hfresh : feed.Fresh current) (topic : τ) :
    (feed.settle topic).Fresh fun other value => other = topic ∨ current other value := by
  have hunread : ∀ other, other ≠ topic → other ∉ (feed.settle topic).unread →
      other ∉ feed.unread := fun other hother hread hunread =>
    hread ((List.mem_erase_of_ne hother).mpr hunread)
  constructor
  · intro other hread value hvalue
    by_cases htopic : other = topic
    · exact .inl htopic
    · exact .inr (hfresh.announced other (hunread other htopic hread) value hvalue)
  · intro receiver hreceiver hwhole hsettled
    by_cases htopic : receiver.topic = topic
    · exact .inl htopic
    · right
      apply hfresh.received receiver hreceiver hwhole
      rintro (hwas | hwas)
      · exact hunread _ htopic (fun h => hsettled (.inl h)) hwas
      · exact hsettled (.inr hwas)

/-- What a topic holds is read and will be announced. -/
theorem Fresh.post (hfresh : feed.Fresh current) (hvalue : after topic value)
    (hkept : ∀ other, other ≠ topic → ∀ value, current other value → after other value) :
    (feed.post topic value).Fresh after := by
  constructor
  · intro other hread found hfound
    rw [announcements_post] at hfound
    by_cases htopic : topic = other
    · subst htopic
      rw [if_pos rfl, List.getLast?_concat] at hfound
      cases hfound
      exact hvalue
    · rw [if_neg htopic, List.append_nil] at hfound
      exact hkept other (Ne.symm htopic) found (hfresh.announced other hread found hfound)
  · intro receiver hreceiver hwhole hsettled
    have hother : topic ≠ receiver.topic := by
      rintro rfl
      apply hsettled
      right
      rw [announcements_post, if_pos rfl]
      exact List.append_ne_nil_of_right_ne_nil _ (List.cons_ne_nil _ _)
    apply hkept _ hother.symm
    apply hfresh.received receiver hreceiver hwhole
    rintro (hwas | hwas)
    · exact hsettled (.inl hwas)
    · apply hsettled
      right
      rwa [announcements_post, if_neg hother, List.append_nil]

/-- A write may change the topics its announcements are about, and each of these that tells what
the topic holds tells what it holds after the write. -/
theorem Fresh.leaveAll (hfresh : feed.Fresh current) (notices : List (Notice τ ν))
    (hupdates : ∀ topic value, .update topic value ∈ notices → after topic value)
    (hkept : ∀ topic, topic ∉ feed.unread → topic ∉ notices.map Notice.subject → ∀ value,
      current topic value → after topic value) :
    (notices.foldl leave feed).Fresh after := by
  induction notices generalizing feed current with
  | nil => exact hfresh.written fun topic hread => hkept topic hread (List.not_mem_nil)
  | cons notice notices ih =>
      have hlater : ∀ topic value, .update topic value ∈ notices → after topic value :=
        fun topic value hmem => hupdates topic value (List.mem_cons_of_mem _ hmem)
      cases notice with
      | update topic value =>
          -- The topic holds what it holds after the write from here on, the others as before.
          have hposted : (feed.post topic value).Fresh fun other value =>
              if other = topic then after other value else current other value := by
            refine hfresh.post ?_ fun other hother value hvalue => ?_
            · rw [if_pos rfl]
              exact hupdates topic value List.mem_cons_self
            · rwa [if_neg hother]
          refine ih hposted hlater fun other hread hsilent found hfound => ?_
          by_cases htopic : other = topic
          · rwa [if_pos htopic] at hfound
          · rw [if_neg htopic] at hfound
            refine hkept other hread ?_ found hfound
            rw [List.map_cons, List.mem_cons, not_or]
            exact ⟨htopic, hsilent⟩
      | reread topic =>
          refine ih (hfresh.owe topic) hlater fun other hread hsilent => ?_
          rw [leave, Feed.owe, List.mem_append, not_or, List.mem_singleton] at hread
          apply hkept other hread.1
          rw [List.map_cons, List.mem_cons, not_or]
          exact ⟨hread.2, hsilent⟩

theorem Fresh.look (hfresh : feed.Fresh current) (topic : τ) (value : ν) :
    (feed.look topic value).Fresh current where
  announced := hfresh.announced
  received := hfresh.received

theorem Fresh.receive (hfresh : feed.Fresh current) (position : ℕ) :
    (feed.receive position).Fresh current where
  announced := hfresh.announced
  received := by
    intro receiver hreceiver hwhole hsettled
    rw [Feed.receive, List.mem_iff_getElem?] at hreceiver
    obtain ⟨index, hindex⟩ := hreceiver
    rw [List.getElem?_modify, Option.map_eq_map, Option.map_eq_some_iff] at hindex
    obtain ⟨before, hbefore, htold⟩ := hindex
    have hmem := List.mem_of_getElem? hbefore
    by_cases hposition : position = index
    · rw [if_pos hposition] at htold
      subst htold
      obtain ⟨hwas, hnewest⟩ := Receiver.newest_receive hwhole
      rw [Receiver.topic_receive] at hsettled ⊢
      rw [hnewest]
      exact hfresh.received before hmem hwas hsettled
    · rw [if_neg hposition] at htold
      subst htold
      exact hfresh.received before hmem hwhole hsettled

theorem Fresh.subscribe (hfresh : feed.Fresh current) {position : ℕ}
    (htime : feed.InTime current position) : (feed.subscribe position).Fresh current := by
  cases hfound : feed.waiting[position]? with
  | none =>
      simp only [Feed.subscribe, hfound]
      exact hfresh
  | some reader =>
      have hreader := htime reader hfound
      simp only [Feed.subscribe, hfound]
      refine ⟨hfresh.announced, ?_⟩
      intro receiver hreceiver hwhole hsettled
      rcases List.mem_append.mp hreceiver with hbefore | hnew
      · exact hfresh.received receiver hbefore hwhole hsettled
      · rw [List.mem_singleton] at hnew
        subst hnew
        exact hreader.resolve_right hsettled

/-- An announcement sent in its turn: it is the last one to hear of only if it was read last. -/
theorem Fresh.notify (hfresh : feed.Fresh current) {capacity position : ℕ}
    (hturn : feed.InTurn position) : (feed.notify capacity position).Fresh current := by
  cases hfound : feed.ready[position]? with
  | none =>
      simp only [Feed.notify, hfound]
      exact hfresh
  | some announcement =>
      obtain ⟨topic, value⟩ := announcement
      have hsent : feed.ready.take position ++ (topic, value) :: feed.ready.drop (position + 1) =
          feed.ready := by
        obtain ⟨hlt, hget⟩ := List.getElem?_eq_some_iff.mp hfound
        rw [← hget, List.getElem_cons_drop, List.take_append_drop]
      have hfirst : (feed.ready.take position).filter (fun earlier => earlier.1 = topic) = [] := by
        rw [List.filter_eq_nil_iff]
        intro earlier hearlier
        simpa using hturn _ hfound earlier hearlier
      have hbefore : ∀ other, feed.announcements other =
          (if topic = other then [value] else []) ++ (feed.notify capacity position).announcements
            other := by
        intro other
        conv_lhs => rw [announcements, ← hsent]
        simp only [announcements, Feed.notify, hfound, List.eraseIdx_eq_take_drop_succ,
          List.filter_append, List.map_append]
        by_cases htopic : topic = other
        · subst htopic
          simp [hfirst]
        · simp [htopic]
      have hunread : (feed.notify capacity position).unread = feed.unread := by
        simp only [Feed.notify, hfound]
      constructor
      · intro other hread found hlast
        apply hfresh.announced other (by rwa [← hunread])
        rw [hbefore, List.getLast?_append, Option.mem_def.mp hlast]
        rfl
      · intro receiver hreceiver hwhole hsettled
        simp only [Feed.notify, hfound, List.mem_map] at hreceiver
        obtain ⟨before, hmem, rfl⟩ := hreceiver
        by_cases htopic : before.topic = topic
        · rw [if_pos htopic] at hwhole hsettled ⊢
          rw [Receiver.newest_send hwhole, Receiver.topic_send, htopic]
          rw [Receiver.topic_send, htopic, Outstanding, not_or, hunread] at hsettled
          apply hfresh.announced topic hsettled.1
          rw [hbefore, if_pos rfl, not_not.mp hsettled.2]
          rfl
        · rw [if_neg htopic] at hwhole hsettled ⊢
          apply hfresh.received before hmem hwhole
          rwa [Outstanding, hbefore, if_neg (Ne.symm htopic), List.nil_append, ← hunread]

end Feed

end WorkGate.Library
