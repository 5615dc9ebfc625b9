import SddsReceiver.Proofs.Session.Exclusion

/-!
# The settings that a stream runs with

A stream keeps copies of its settings where they are used: the pool has the number of slots,
the tasks the size of a batch, the scheduler the policy of pushes, and the pipeline the byte
order. They are copied when the stream is launched, and no operation of its tasks writes them
again.

The stored configuration may be replaced at any time, but while a stream runs only by itself.
So the copies always agree with what is stored, and what is stored is always valid.
-/
namespace SddsReceiver

section Tasks

theorem Scheduler.offer_policy (s : Scheduler) (o : Offer) : (s.offer o).1.policy = s.policy := by
  unfold offer
  split
  · exact s.take_policy _ o
  · rfl

namespace Pipeline

def settings (p : Pipeline) : PushPolicy × ByteOrder := (p.scheduler.policy, p.configuredOrder)

variable (p : Pipeline) (external : Option Sri) (c : Counters)

theorem handle_settings (f : Frame) : (p.handle external c f).1.settings = p.settings := by
  cases h : p.laneFor f.header.bitsPerSample with
  | none =>
      rw [handle_rejected external c h]
      rfl
  | some lane =>
      have hpolicy := (p.wakeScheduler lane).offer_policy (p.offerOf external f)
      rw [wakeScheduler_policy] at hpolicy
      rw [(handle_accepted external c h).1]
      exact congrArg (·, p.configuredOrder) hpolicy

theorem handleAll_settings (frames : List Frame) :
    (p.handleAll external c frames).1.settings = p.settings := by
  induction frames generalizing p c with
  | nil => rfl
  | cons f fs ih => exact (ih _ _).trans (p.handle_settings external c f)

theorem finish_settings (hostClock : Timestamp) :
    (p.finish hostClock).1.settings = p.settings :=
  congrArg (·, p.configuredOrder) p.scheduler.flush_policy

theorem resume_settings (config : Config) :
    (p.resume external c config).1.settings = (config.pushPolicy, config.order) := by
  obtain ⟨held, state, hscheduler⟩ := p.resume_scheduler external c config
  rw [settings, hscheduler]
  rfl

end Pipeline

theorem Ingest.place_capacity (i : Ingest) (pool : Pool) (c : Counters) (batch : Nat)
    (bytes : List UInt8) : (i.place pool c batch bytes).2.1.capacity = pool.capacity := by
  have hready : (i.ensureHand pool batch).2.capacity = pool.capacity := by
    unfold ensureHand
    split <;> rfl
  unfold place
  split
  · rfl
  · exact hready

theorem Ingest.step_capacity (i : Ingest) (pool : Pool) (c : Counters) (batch : Nat)
    (reading : Reading) : (i.step pool c batch reading).2.1.capacity = pool.capacity := by
  obtain ⟨phase, hand, filled, arrival⟩ := i
  cases phase with
  | await =>
      cases reading with
      | datagram bytes => exact place_capacity _ pool c batch _
      | failure => rfl
      | nothing => rfl
      | cancelled => rfl
  | drain =>
      cases reading with
      | datagram bytes =>
          simp only [step]
          split
          · exact place_capacity _ pool c batch _
          · rfl
      | failure => rfl
      | nothing => rfl
      | cancelled => rfl
  | reserve => rfl
  | topUp => rfl
  | lastQueue => rfl
  | lastTopUp => rfl
  | giveBack => rfl
  | close => rfl
  | ended => rfl

theorem Reconstruction.step_settings (r : Reconstruction) (pool : Pool) (c : Counters)
    (batch : Nat) (s : Surroundings) :
    (r.step pool c batch s).2.1.capacity = pool.capacity ∧
      (r.step pool c batch s).1.pipeline.settings = r.pipeline.settings := by
  obtain ⟨phase, pipeline⟩ := r
  cases phase with
  | checkQueue => exact ⟨rfl, rfl⟩
  | checkClosed => exact ⟨rfl, rfl⟩
  | take =>
      simp only [step]
      split
      · exact ⟨rfl, rfl⟩
      · exact ⟨rfl, pipeline.handleAll_settings s.external c _⟩
  | giveBack slots pushes => exact ⟨rfl, rfl⟩
  | checkEnd =>
      simp only [step]
      split
      · exact ⟨rfl, pipeline.finish_settings s.hostClock⟩
      · exact ⟨rfl, rfl⟩
  | ended => exact ⟨rfl, rfl⟩

end Tasks

structure Receiver.RunsWith (config : Config) (r : Receiver) : Prop where
  capacity_eq : r.pool.capacity = config.poolSlots
  batch_eq : r.batch = config.readBatch
  settings_eq : r.reconstruction.pipeline.settings = (config.pushPolicy, config.order)

namespace Receiver.RunsWith
variable {config : Config} {r : Receiver}

theorem ingestStep (h : r.RunsWith config) (reading : Reading) :
    (r.ingestStep reading).RunsWith config :=
  ⟨(r.ingest.step_capacity r.pool r.counters r.batch reading).trans h.capacity_eq, h.batch_eq,
    h.settings_eq⟩

theorem reconstructStep (h : r.RunsWith config) (s : Surroundings) :
    (r.reconstructStep s).RunsWith config := by
  obtain ⟨hcapacity, hsettings⟩ :=
    r.reconstruction.step_settings r.pool r.counters r.batch s
  exact ⟨hcapacity.trans h.capacity_eq, h.batch_eq, hsettings.trans h.settings_eq⟩

end Receiver.RunsWith

/-- The configuration that a stream is launched with. -/
def Config.settingsOf (config : Config) : StreamOwner → Config
  | .attachment => config
  | .override => config.forOverride

namespace Session

structure Settled (s : Session) : Prop where
  valid : s.config.Valid
  headroom_eq : s.headroom = s.config.headroom
  runsWith : ∀ owner stream, s.stream? owner = some stream →
    (stream.toReceiver s.pool s.counters).RunsWith (s.config.settingsOf owner)

theorem Settled.initial {config : Config} (hvalid : config.Valid) :
    (Session.initial config).Settled where
  valid := hvalid
  headroom_eq := rfl
  runsWith owner stream held := by cases owner <;> cases held

/-- A configuration is accepted while a stream runs if and only if it is the stored one. -/
theorem configFault?_eq_none_iff {s : Session} (hvalid : s.config.Valid)
    (hrunning : s.state = .running) (config : Config) :
    s.configFault? config = none ↔ config = s.config := by
  constructor
  · intro accepted
    unfold configFault? at accepted
    rw [hrunning] at accepted
    split at accepted
    · cases accepted
    · cases hdifference : s.config.firstDifference config with
      | none => exact ((s.config.firstDifference_eq_none config).mp hdifference).symm
      | some setting =>
          rw [hdifference] at accepted
          cases accepted
  · rintro rfl
    have hsame := (s.config.firstDifference_eq_none s.config).mpr rfl
    have hfault : s.config.fault? = none := hvalid
    simp [configFault?, hfault, hsame]

theorem configure_result_eq_ok_iff (s : Session) (config : Config) :
    (s.configure config).result = .ok () ↔ s.configFault? config = none := by
  cases hfault : s.configFault? config <;> simp [Session.configure, hfault, refuse]

theorem Exclusive.state_eq_running_iff {s : Session} (h : s.Exclusive) :
    s.state = .running ↔ ∃ owner, (s.stream? owner).isSome := by
  rw [StreamOwner.exists]
  cases h.situation with
  | overriding started fixed running idle state =>
      simp [state, stream?_of_overriding running]
  | running started unfixed alone held live state => simp [state, stream?_of_live held live]
  | @parked attachment socket pipeline hasRun stopped alone held parked state =>
      have hidle : s.stream? .attachment = none := by
        rw [stream?_of_held held, parked]
        rfl
      cases hasRun <;> simp [state, hidle, stream?_of_alone alone]
  | recorded stopped alone held unbound state =>
      have hidle : s.stream? .attachment = none := by
        rw [stream?_of_held held, unbound]
        rfl
      simp [state, hidle, stream?_of_alone alone]
  | free alone free unfixed state =>
      have hidle : s.stream? .attachment = none := by simp [stream?, free]
      cases hstarted : s.started <;> simp [state, hstarted, hidle, stream?_of_alone alone]

section Launch
variable {s : Session} {config : Config}

/-- A stream is launched with its configuration; a valid one has a batch of one at least. -/
theorem launch_runsWith (hvalid : config.Valid) (socket : Socket) (pipeline : Pipeline) :
    let launched := s.launch socket pipeline config
    (launched.2.toReceiver launched.1.pool launched.1.counters).RunsWith config where
  capacity_eq := rfl
  batch_eq := Nat.max_eq_left (config.valid_iff.mp hvalid).1
  settings_eq := pipeline.resume_settings s.external s.counters config

theorem operate_runsWith {stream : LiveStream} {pool : Pool} {c : Counters}
    (h : (stream.toReceiver pool c).RunsWith config) (t : Surroundings)
    (operation : TaskOperation) :
    ((stream.operate pool c t operation).1.toReceiver (stream.operate pool c t operation).2.pool
      (stream.operate pool c t operation).2.counters).RunsWith config := by
  cases operation with
  | ingest answer =>
      obtain ⟨hcapacity, hbatch, hsettings⟩ := h.ingestStep (stream.socket.reading answer)
      exact ⟨hcapacity, hbatch, hsettings⟩
  | reconstruct =>
      obtain ⟨hcapacity, hbatch, hsettings⟩ := h.reconstructStep t
      exact ⟨hcapacity, hbatch, hsettings⟩

end Launch

section Changes
variable {s next : Session} {host : SessionHost} {pushes : List Push}

theorem Settled.same (h : s.Settled) (hconfig : next.config = s.config)
    (hheadroom : next.headroom = s.headroom) (hpool : next.pool = s.pool)
    (hstream : ∀ owner stream, next.stream? owner = some stream →
      s.stream? owner = some stream) : next.Settled where
  valid := hconfig ▸ h.valid
  headroom_eq := by rw [hheadroom, hconfig, h.headroom_eq]
  runsWith owner stream held := by
    obtain ⟨hcapacity, hbatch, hsettings⟩ := h.runsWith owner stream (hstream owner stream held)
    rw [hconfig]
    exact ⟨(congrArg Pool.capacity hpool).trans hcapacity, hbatch, hsettings⟩

theorem Settled.of_none (h : s.Settled) (hconfig : next.config = s.config)
    (hheadroom : next.headroom = s.headroom) (hoverride : next.overriding = none)
    (hattachment : next.stream? .attachment = none) : next.Settled where
  valid := hconfig ▸ h.valid
  headroom_eq := by rw [hheadroom, hconfig, h.headroom_eq]
  runsWith owner stream held := by
    cases owner with
    | attachment => rw [hattachment] at held; cases held
    | override => rw [stream?_of_alone hoverride] at held; cases held

theorem Settled.of_one (h : s.Settled) (hconfig : next.config = s.config)
    (hheadroom : next.headroom = s.headroom) {owner : StreamOwner} {stream : LiveStream}
    (hheld : next.stream? owner = some stream)
    (hother : ∀ other, other ≠ owner → next.stream? other = none)
    (hruns : (stream.toReceiver next.pool next.counters).RunsWith
      (s.config.settingsOf owner)) : next.Settled where
  valid := hconfig ▸ h.valid
  headroom_eq := by rw [hheadroom, hconfig, h.headroom_eq]
  runsWith other running held := by
    by_cases hsame : other = owner
    · subst hsame
      rw [hheld] at held
      cases held
      rw [hconfig]
      exact hruns
    · rw [hother other hsame] at held
      cases held

theorem Settled.of_attachment (h : s.Settled) (hconfig : next.config = s.config)
    (hheadroom : next.headroom = s.headroom) (hoverride : next.overriding = none)
    {attachment : Attachment} {stream : LiveStream} (hheld : next.attachment = some attachment)
    (hlive : attachment.run = .live stream)
    (hruns : (stream.toReceiver next.pool next.counters).RunsWith s.config) :
    next.Settled := by
  have hsome : next.stream? .attachment = some stream := stream?_of_live hheld hlive
  exact h.of_one hconfig hheadroom hsome (fun other hne => match other with
    | .attachment => absurd rfl hne
    | .override => stream?_of_alone hoverride) hruns

theorem Settled.of_override (h : s.Settled) (hconfig : next.config = s.config)
    (hheadroom : next.headroom = s.headroom) {overriding : OverridingStream}
    (hrunning : next.overriding = some overriding)
    (hattachment : next.stream? .attachment = none)
    (hruns : (overriding.stream.toReceiver next.pool next.counters).RunsWith
      s.config.forOverride) : next.Settled := by
  have hsome : next.stream? .override = some overriding.stream := stream?_of_overriding hrunning
  exact h.of_one hconfig hheadroom hsome (fun other hne => match other with
    | .attachment => hattachment
    | .override => absurd rfl hne) hruns

/-- What is accepted while a stream runs is what it runs with already. -/
theorem Settled.configure (h : s.Settled) (hs : s.Exclusive) {config : Config}
    (accepted : s.configFault? config = none) (counters : Counters) :
    Settled { s with config := config, headroom := config.headroom, counters := counters } where
  valid := by
    unfold configFault? at accepted
    split at accepted
    · cases accepted
    · assumption
  headroom_eq := rfl
  runsWith owner stream held := by
    have hrunning : s.state = .running :=
      hs.state_eq_running_iff.mpr ⟨owner, Option.isSome_of_eq_some held⟩
    have hsame : config = s.config :=
      (configFault?_eq_none_iff h.valid hrunning config).mp accepted
    obtain ⟨hcapacity, hbatch, hsettings⟩ := h.runsWith owner stream held
    subst hsame
    exact ⟨hcapacity, hbatch, hsettings⟩

theorem Settled.changes (h : s.Settled) (hs : s.Exclusive) (hc : Changes host s next pushes) :
    next.Settled := by
  have hforOverride : s.config.forOverride.Valid := h.valid
  cases hc with
  | keep => exact h
  | record id endpoint free fixed =>
      exact h.same rfl rfl rfl fun owner stream held => by
        cases owner with
        | attachment => cases held
        | override => exact held
  | bind id endpoint free unfixed stopped opens =>
      obtain ⟨port, -, rfl, -, -⟩ := openStream_eq_ok opens
      exact h.of_none rfl rfl (hs.override_eq_none (.inl stopped)) rfl
  | bindAndRun id endpoint free unfixed started opens =>
      obtain ⟨port, -, rfl, -, -⟩ := openStream_eq_ok opens
      exact h.of_attachment rfl rfl (hs.override_eq_none (.inr unfixed)) rfl rfl
        (launch_runsWith h.valid _ _)
  | giveUpLive held live alone => exact h.of_none rfl rfl alone rfl
  | giveUpIdle held idle =>
      exact h.same rfl rfl rfl fun owner stream held => by
        cases owner with
        | attachment => cases held
        | override => exact held
  | arm stopped unfixed idle => exact h.same rfl rfl rfl fun _ _ held => held
  | override stopped fixed opens =>
      obtain ⟨port, -, rfl, -, -⟩ := openStream_eq_ok opens
      exact h.of_override rfl rfl rfl (hs.attachment_eq_none (.inl stopped))
        (launch_runsWith hforOverride _ _)
  | run stopped unfixed held parked =>
      exact h.of_attachment rfl rfl (hs.override_eq_none (.inl stopped)) rfl rfl
        (launch_runsWith h.valid _ _)
  | bindRecorded stopped unfixed held unbound opens =>
      obtain ⟨port, -, rfl, -, -⟩ := openStream_eq_ok opens
      exact h.of_attachment rfl rfl (hs.override_eq_none (.inl stopped)) rfl rfl
        (launch_runsWith h.valid _ _)
  | close started running =>
      exact h.of_none rfl rfl rfl
        (hs.attachment_eq_none_of_override (Option.isSome_of_eq_some running))
  | park started held live alone => exact h.of_none rfl rfl alone rfl
  | disarm started alone idle => exact h.of_none rfl rfl alone idle
  | configure config accepted => exact h.configure hs accepted _
  | describe sri => exact h.same rfl rfl rfl fun _ _ held => held
  | @operate owner stream operation held =>
      have hruns := operate_runsWith (h.runsWith owner stream held) (s.surroundings host) operation
      cases owner with
      | attachment =>
          obtain ⟨attachment, hheld, hrun⟩ := Option.bind_eq_some_iff.mp held
          have halone := hs.override_eq_none (.inr (hs.unfixed_of_live held).2)
          exact h.of_attachment rfl rfl halone (congrArg (Option.map _) hheld) rfl hruns
      | override =>
          obtain ⟨overriding, hheld, rfl⟩ := Option.map_eq_some_iff.mp held
          have hidle := hs.attachment_eq_none_of_override (Option.isSome_of_eq_some hheld)
          exact h.of_override rfl rfl (congrArg (Option.map _) hheld) hidle hruns
  | arrive owner datagrams =>
      -- What waits in a socket is no setting.
      refine ⟨?_, ?_, fun other stream held => ?_⟩
      · cases owner <;> exact h.valid
      · cases owner <;> exact h.headroom_eq
      · rw [arrive_stream?] at held
        split at held
        · obtain ⟨before, hbefore, rfl⟩ := Option.map_eq_some_iff.mp held
          obtain ⟨hcapacity, hbatch, hsettings⟩ := h.runsWith other before hbefore
          cases owner <;> exact ⟨hcapacity, hbatch, hsettings⟩
        · obtain ⟨hcapacity, hbatch, hsettings⟩ := h.runsWith other stream held
          cases owner <;> exact ⟨hcapacity, hbatch, hsettings⟩

end Changes

theorem after_settled {config : Config} (hvalid : config.Valid)
    (log : List (SessionHost × SessionEvent)) : ((initial config).after log).Settled := by
  induction log with
  | nil => exact .initial hvalid
  | cons x earlier ih =>
      have hbefore := after_exclusive config earlier
      exact ih.changes hbefore (event_changes _ x.1 hbefore.oneStream x.2)

theorem ofConfig_eq_ok {config : Config} {first : Session} (h : ofConfig config = .ok first) :
    config.Valid ∧ first = initial config := by
  unfold ofConfig Config.validate at h
  cases hfault : config.fault? with
  | some fault =>
      rw [hfault] at h
      cases h
  | none =>
      rw [hfault] at h
      exact ⟨hfault, (Except.ok.inj h).symm⟩

/-- At rest the slots to report are those that a launch would leave in the pool. -/
theorem Settled.emptySlots_of_idle {s : Session} (h : s.Settled) (hidle : s.state ≠ .running)
    (queueDepth : UInt16 → UInt64) :
    (s.status queueDepth).emptySlots =
      UInt64.ofNat (s.config.poolSlots - s.config.readBatch) := by
  unfold status
  dsimp only
  rw [if_neg hidle, h.headroom_eq]
  rfl

end Session

end SddsReceiver
