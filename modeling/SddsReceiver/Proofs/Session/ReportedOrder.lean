import SddsReceiver.Proofs.Receiver.Taken
import SddsReceiver.Proofs.Session.Figures
import SddsReceiver.Proofs.Session.Settings

/-!
# The byte order that is reported

A stream puts a byte order in force when it is launched and with each frame of its lane. Which
one that is follows from the description given from outside and from the settings of the
stream. The counters report the order that was put in force last, and no call that lets the
stream run on changes it, but one: a configuration that is accepted while nothing is attached
is reported with its own order, also when an overriding stream runs with another.
-/
namespace SddsReceiver

namespace Pipeline
variable (p : Pipeline) (external : Option Sri) (c : Counters) (f : Frame)

/-- The frame has the width of the lane, or of the lane that it fixes. -/
def accepts : Bool := (p.laneFor f.header.bitsPerSample).isSome

theorem handle_order : (p.handle external c f).2.1.order =
    if p.accepts f then p.orderInForce external else c.order := by
  cases hl : p.laneFor f.header.bitsPerSample with
  | none =>
      rw [handle_rejected external c hl]
      simp [accepts, hl, track, Counters.setTimeSlips, Counters.setExpected, Counters.addDropped]
  | some lane =>
      obtain ⟨rate, hnoted⟩ := noteStream_eq
        (if p.lane.isNone then (p.track c f.header).2.setBitsPerSample lane.bits
          else (p.track c f.header).2) (p.orderInForce external) f.header
      rw [handle_accepted_counters external c hl, hnoted]
      simp [accepts, hl, Counters.setSampleRate, Counters.setOrder]

/-- With the first frame that is accepted the order is in force, and stays so. -/
theorem handleAll_order (frames : List Frame) : (p.handleAll external c frames).2.1.order =
    if frames.any p.accepts then p.orderInForce external else c.order := by
  induction frames generalizing p c with
  | nil => rfl
  | cons f fs ih =>
      have hsettings := congrArg Prod.snd (p.handle_settings external c f)
      have horder : (p.handle external c f).1.orderInForce external = p.orderInForce external :=
        congrArg (Sri.orderInForce external) hsettings
      have hstep := ih (p.handle external c f).1 (p.handle external c f).2.1
      rw [horder, handle_order] at hstep
      refine hstep.trans ?_
      cases haccepts : p.accepts f with
      | true => simp [haccepts]
      | false =>
          -- A rejected frame fixes no lane, so the others are accepted as before.
          have hl : p.laneFor f.header.bitsPerSample = none := by simpa [accepts] using haccepts
          rw [handle_rejected external c hl]
          simp only [List.any_cons, haccepts, Bool.false_or, Bool.false_eq_true, if_false]
          rfl

end Pipeline

theorem Reconstruction.step_order (r : Reconstruction) (pool : Pool) (c : Counters)
    (batch : Nat) (s : Surroundings) :
    (r.step pool c batch s).2.2.1.order =
      if (r.taking pool batch).any r.pipeline.accepts then r.pipeline.orderInForce s.external
      else c.order := by
  obtain ⟨phase, pipeline⟩ := r
  cases phase with
  | take =>
      simp only [step, taking]
      split
      · rename_i hnone
        simp [List.isEmpty_iff.mp hnone]
      · exact pipeline.handleAll_order s.external c _
  | checkEnd =>
      simp only [step]
      split <;> rfl
  | _ => rfl

theorem Ingest.step_order (i : Ingest) (pool : Pool) (c : Counters) (batch : Nat)
    (reading : Reading) : (i.step pool c batch reading).2.2.order = c.order := by
  obtain ⟨malformed, hcounters⟩ := i.step_counters pool c batch reading
  rw [hcounters]
  rfl

namespace Session

def runner? (s : Session) : Option StreamOwner :=
  if (s.stream? .attachment).isSome then some .attachment
  else if (s.stream? .override).isSome then some .override
  else none

/-- The byte order that a stream puts in force: the one announced from outside or, without
such, that of its settings. -/
def orderFor (s : Session) (owner : StreamOwner) : ByteOrder :=
  Sri.orderInForce s.external (s.config.settingsOf owner).order

/-- The byte order that an event puts in force: a call by launching a stream, and a task by
taking a frame of the lane. -/
def orderPut (s : Session) (host : SessionHost) : SessionEvent → Option ByteOrder
  | .call c =>
      if s.runner?.isNone then (s.call host c).1.runner?.map (s.call host c).1.orderFor else none
  | .operate owner .reconstruct =>
      (s.stream? owner).bind fun stream =>
        if (stream.reconstruction.taking s.pool stream.batch).any
            stream.reconstruction.pipeline.accepts then
          some (s.orderFor owner)
        else none
  | .operate _ (.ingest _) | .arrive _ _ => none

def lastOrder (first : Session) : List (SessionHost × SessionEvent) → Option ByteOrder
  | [] => none
  | (host, e) :: earlier => ((first.after earlier).orderPut host e).or (first.lastOrder earlier)

/-- The event replaces the configuration while nothing is attached. -/
def replacesUnattached (s : Session) : SessionEvent → Bool
  | .call (.configure config) => (s.configFault? config).isNone && s.attachment.isNone
  | _ => false

/-- The configuration was replaced, with nothing attached, since a byte order was last put in
force. -/
def replacedSince (first : Session) : List (SessionHost × SessionEvent) → Bool
  | [] => false
  | (host, e) :: earlier =>
      ((first.after earlier).orderPut host e).isNone &&
        ((first.after earlier).replacesUnattached e || first.replacedSince earlier)

section Runner
variable {s : Session} {owner : StreamOwner}

theorem Exclusive.runner?_eq (hs : s.Exclusive) (hruns : (s.stream? owner).isSome) :
    s.runner? = some owner := by
  cases owner with
  | attachment => simp [runner?, hruns]
  | override =>
      have hsome : s.overriding.isSome := by simpa [stream?] using hruns
      simp [runner?, hs.attachment_eq_none_of_override hsome, hruns]

theorem runner?_eq_none (hnone : s.runner? = none) (owner : StreamOwner) :
    s.stream? owner = none := by
  unfold runner? at hnone
  split at hnone
  · cases hnone
  · split at hnone
    · cases hnone
    · cases owner <;> simp_all

theorem runner?_eq_some (hsome : s.runner? = some owner) : (s.stream? owner).isSome := by
  unfold runner? at hsome
  split at hsome
  · cases hsome
    assumption
  · split at hsome
    · cases hsome
      assumption
    · cases hsome

end Runner

section Launch
variable {s next : Session} {host : SessionHost} {pushes : List Push} {owner : StreamOwner}

theorem Changes.launched_order (hc : Changes host s next pushes)
    (hidle : ∀ owner, s.stream? owner = none) (hruns : (next.stream? owner).isSome) :
    next.counters.order = next.orderFor owner := by
  have hnone (h : next.stream? owner = none) : False := by
    rw [h] at hruns
    cases hruns
  have hkept (h : next.stream? owner = s.stream? owner) : False := hnone (h.trans (hidle owner))
  have hlive {attachment : Attachment} {stream : LiveStream}
      (held : s.attachment = some attachment) (live : attachment.run = .live stream) : False := by
    have hsome := stream?_of_live held live
    rw [hidle] at hsome
    cases hsome
  cases hc with
  | keep => exact (hkept rfl).elim
  | record id endpoint free fixed =>
      cases owner with
      | attachment => exact (hnone rfl).elim
      | override => exact (hkept rfl).elim
  | bind id endpoint free unfixed stopped opens =>
      obtain ⟨port, -, rfl, -, -⟩ := openStream_eq_ok opens
      cases owner with
      | attachment => exact (hnone rfl).elim
      | override => exact (hkept rfl).elim
  | bindAndRun id endpoint free unfixed started opens =>
      obtain ⟨port, -, rfl, -, -⟩ := openStream_eq_ok opens
      cases owner with
      | attachment => rfl
      | override => exact (hkept rfl).elim
  | giveUpLive held live alone => exact (hlive held live).elim
  | giveUpIdle held idle =>
      cases owner with
      | attachment => exact (hnone rfl).elim
      | override => exact (hkept rfl).elim
  | arm stopped unfixed idle => exact (hkept rfl).elim
  | override stopped fixed opens =>
      obtain ⟨port, -, rfl, -, -⟩ := openStream_eq_ok opens
      cases owner with
      | attachment => exact (hkept rfl).elim
      | override => rfl
  | run stopped unfixed held parked =>
      cases owner with
      | attachment => rfl
      | override => exact (hkept rfl).elim
  | bindRecorded stopped unfixed held unbound opens =>
      obtain ⟨port, -, rfl, -, -⟩ := openStream_eq_ok opens
      cases owner with
      | attachment => rfl
      | override => exact (hkept rfl).elim
  | close started running =>
      have hsome := stream?_of_overriding running
      rw [hidle] at hsome
      cases hsome
  | park started held live alone => exact (hlive held live).elim
  | disarm started alone idle => exact (hkept rfl).elim
  | configure config accepted => exact (hkept rfl).elim
  | describe sri => exact (hkept rfl).elim
  | operate operation held =>
      rw [hidle] at held
      cases held
  | arrive other datagrams =>
      rw [arrive_stream?, hidle] at hruns
      split at hruns <;> cases hruns

end Launch

section Beside
variable {s : Session} {host : SessionHost} {owner : StreamOwner}

structure RunsOn (s next : Session) : Prop where
  stream?_eq : ∀ owner, next.stream? owner = s.stream? owner
  config_eq : next.config = s.config
  order_eq : next.counters.order = s.counters.order

theorem RunsOn.refl (s : Session) : s.RunsOn s := ⟨fun _ => rfl, rfl, rfl⟩

theorem Exclusive.started (hs : s.Exclusive) (hruns : (s.stream? owner).isSome) :
    s.started = true := by
  cases owner with
  | attachment =>
      obtain ⟨stream, hstream⟩ := Option.isSome_iff_exists.mp hruns
      exact (hs.unfixed_of_live hstream).1
  | override =>
      rw [hs.override_eq] at hruns
      exact (Bool.and_eq_true_iff.mp hruns).1

theorem overriding_of_free (hruns : (s.stream? owner).isSome) (hfree : s.attachment = none) :
    s.overriding.isSome := by
  cases owner with
  | attachment => simp [stream?, hfree] at hruns
  | override => simpa [stream?] using hruns

theorem attach_runsOn (hs : s.Exclusive) (hruns : (s.stream? owner).isSome) (host : SessionHost)
    (endpoint : Network.Endpoint) (freshId : String) :
    s.RunsOn (s.attach host endpoint freshId).session := by
  cases hfree : s.attachment with
  | some existing =>
      simp only [Session.attach, hfree]
      exact .refl s
  | none =>
      have hfixed := (hs.fixed_of_override (overriding_of_free hruns hfree)).2
      simp only [Session.attach, hfree, hfixed, if_true]
      refine ⟨fun owner => ?_, rfl, rfl⟩
      cases owner with
      | attachment => simp [stream?, syncState, hfree, AttachmentRun.stream?]
      | override => rfl

theorem releaseSocket_order (s : Session) : s.releaseSocket.counters.order = s.counters.order := by
  unfold releaseSocket
  split <;> rfl

/-- Giving up the attachment leaves an overriding stream alone and ends any other. -/
theorem detach_runsOn (hs : s.Exclusive) (host : SessionHost) (id : String) :
    s.RunsOn (s.detach host id).session ∨
      ∀ owner, (s.detach host id).session.stream? owner = none := by
  cases hheld : s.attachment with
  | none =>
      simp only [Session.detach, hheld]
      exact .inl (.refl s)
  | some attachment =>
      by_cases hid : attachment.id = id
      · subst hid
        rw [detach_eq s host hheld]
        cases hrun : attachment.run.stream? with
        | none =>
            rw [s.endAttachment_of_idle host hrun, releaseSocket_giveUp]
            refine .inl ⟨fun owner => ?_, rfl, s.releaseSocket_order⟩
            cases owner with
            | attachment => rw [stream?_of_held hheld, hrun]; rfl
            | override => rfl
        | some stream =>
            have hlive := AttachmentRun.stream?_eq_some hrun
            have halone := hs.oneStream.override_eq_none hheld hlive
            refine .inr fun owner => ?_
            rw [hlive, endAttachment]
            cases owner <;>
              simp [stream?, syncState, releaseSocket, afterHalt, withShared, halone]
      · simp only [Session.detach, hheld, hid, ne_eq, not_false_eq_true, if_true]
        exact .inl (.refl s)

theorem stop_started (s : Session) (host : SessionHost) :
    (s.stop host).session.started = false := by
  cases hstarted : s.started with
  | false => simp only [Session.stop, hstarted, Bool.false_eq_true, if_false]
  | true =>
      simp only [Session.stop, hstarted, if_true, parkAttachment, closeOverride]
      split <;> split <;> (try split) <;> rfl

theorem stop_none (hs : s.Exclusive) (host : SessionHost) (owner : StreamOwner) :
    (s.stop host).session.stream? owner = none := by
  have hnext : (s.stop host).session.Exclusive := hs.changes (s.stop_changes host hs.oneStream)
  cases hruns : (s.stop host).session.stream? owner with
  | none => rfl
  | some stream =>
      have hstarted := hnext.started (Option.isSome_of_eq_some hruns)
      rw [stop_started] at hstarted
      cases hstarted

/-- Whatever is called while a stream runs, it runs on as it was or nothing runs any more. Only
a configuration that is accepted may be reported. -/
theorem Exclusive.call_beside (hs : s.Exclusive) (hruns : (s.stream? owner).isSome)
    (host : SessionHost) (c : SessionCall) (hnever : ∀ config, c ≠ .configure config) :
    s.RunsOn (s.call host c).1 ∨ ∀ owner, (s.call host c).1.stream? owner = none := by
  cases c with
  | attach endpoint freshId => exact .inl (attach_runsOn hs hruns host endpoint freshId)
  | detach id => exact detach_runsOn hs host id
  | start =>
      have hkeep : s.start host = ⟨s, [], .ok ()⟩ := by
        simp only [Session.start, hs.started hruns, if_true]
      refine .inl ?_
      simp only [call, hkeep]
      exact .refl s
  | stop => exact .inr (stop_none hs host)
  | configure config => exact (hnever config rfl).elim
  | describe sri => exact .inl ⟨fun _ => rfl, rfl, rfl⟩

end Beside

section Event
variable {s : Session} {host : SessionHost} {e : SessionEvent} {owner : StreamOwner}

theorem Settled.orderInForce (ht : s.Settled) {stream : LiveStream}
    (held : s.stream? owner = some stream) :
    stream.reconstruction.pipeline.orderInForce s.external = s.orderFor owner :=
  congrArg (fun settings : PushPolicy × ByteOrder => Sri.orderInForce s.external settings.2)
    (ht.runsWith owner stream held).settings_eq

theorem operate_order (stream : LiveStream) (pool : Pool) (c : Counters) (t : Surroundings)
    (operation : TaskOperation) :
    (stream.operate pool c t operation).2.counters.order =
      match operation with
      | .ingest _ => c.order
      | .reconstruct =>
          if (stream.reconstruction.taking pool stream.batch).any
              stream.reconstruction.pipeline.accepts then
            stream.reconstruction.pipeline.orderInForce t.external
          else c.order := by
  cases operation with
  | ingest answer => exact stream.ingest.step_order pool c stream.batch _
  | reconstruct => exact stream.reconstruction.step_order pool c stream.batch t

theorem operate_beside (s : Session) (host : SessionHost) {other : StreamOwner}
    {stream : LiveStream} (held : s.stream? other = some stream) (operation : TaskOperation) :
    (∀ owner, ((s.operate host other operation).1.stream? owner).isSome =
        (s.stream? owner).isSome) ∧
      (s.operate host other operation).1.config = s.config ∧
      (s.operate host other operation).1.counters =
        (stream.operate s.pool s.counters (s.surroundings host) operation).2.counters := by
  simp only [operate, held]
  refine ⟨fun owner => ?_, ?_, ?_⟩
  · cases other with
    | attachment =>
        cases owner with
        | attachment =>
            obtain ⟨attachment, hheld, hrun⟩ := Option.bind_eq_some_iff.mp held
            rw [stream?_of_held hheld, hrun]
            simp [stream?, putStream, withShared, hheld, AttachmentRun.stream?]
        | override => rfl
    | override =>
        cases owner with
        | attachment => rfl
        | override => simp [stream?, putStream, withShared]
  · cases other <;> rfl
  · cases other <;> rfl

/-- While a stream runs only the stored configuration is accepted, and it is reported when
nothing is attached. -/
theorem configure_beside (hs : s.Exclusive) (ht : s.Settled) (hruns : (s.stream? owner).isSome)
    (config : Config) :
    (∀ owner, (s.configure config).session.stream? owner = s.stream? owner) ∧
      (s.configure config).session.config = s.config ∧
      (s.configure config).session.counters.order =
        if s.replacesUnattached (.call (.configure config)) then s.config.order
          else s.counters.order := by
  cases hfault : s.configFault? config with
  | some fault => simp [Session.configure, replacesUnattached, hfault, refuse]
  | none =>
      have hrunning : s.state = .running := hs.state_eq_running_iff.mpr ⟨owner, hruns⟩
      obtain rfl := (configFault?_eq_none_iff ht.valid hrunning config).mp hfault
      simp only [Session.configure, replacesUnattached, hfault]
      refine ⟨fun _ => rfl, trivial, ?_⟩
      cases s.attachment.isNone <;> rfl

theorem order_of_put (hs : s.Exclusive) (ht : s.Settled) {order : ByteOrder}
    (hput : s.orderPut host e = some order) : (s.event host e).1.counters.order = order := by
  cases e with
  | call c =>
      simp only [orderPut, Option.ite_none_right_eq_some, Option.isNone_iff_eq_none] at hput
      obtain ⟨hidle, hlaunched⟩ := hput
      obtain ⟨owner, howner, rfl⟩ := Option.map_eq_some_iff.mp hlaunched
      have hc : Changes host s (s.call host c).1 (s.call host c).2 :=
        event_changes s host hs.oneStream (.call c)
      exact hc.launched_order (runner?_eq_none hidle) (runner?_eq_some howner)
  | operate owner operation =>
      cases operation with
      | ingest answer => cases hput
      | reconstruct =>
          obtain ⟨stream, held, hput⟩ := Option.bind_eq_some_iff.mp hput
          obtain ⟨haccepted, horder⟩ := Option.ite_none_right_eq_some.mp hput
          simp only [event, (s.operate_beside host held .reconstruct).2.2, operate_order, haccepted,
            if_true]
          exact (ht.orderInForce held).trans (Option.some.inj horder)
  | arrive owner datagrams => cases hput

/-- The stream ran before an event and goes on with the order that it had. Only a configuration
that is accepted is reported instead, and only if nothing is attached. -/
structure KeepsOrder (s : Session) (e : SessionEvent) (next : Session) (owner : StreamOwner) :
    Prop where
  ran : (s.stream? owner).isSome
  config_eq : next.config = s.config
  order_eq : next.counters.order =
    if s.replacesUnattached e then s.config.order else s.counters.order
  attached : owner = .attachment → s.replacesUnattached e = false

theorem configure_keepsOrder (hs : s.Exclusive) (ht : s.Settled) {running : StreamOwner}
    (hran : (s.stream? running).isSome) (config : Config)
    (hruns : ((s.configure config).session.stream? owner).isSome) :
    s.KeepsOrder (.call (.configure config)) (s.configure config).session owner := by
  obtain ⟨hsame, hconfig, horder⟩ := configure_beside hs ht hran config
  rw [hsame] at hruns
  refine ⟨hruns, hconfig, horder, ?_⟩
  rintro rfl
  have hattached := hs.attachment_eq
  rw [hruns] at hattached
  simp_all [replacesUnattached]

theorem call_keepsOrder (hs : s.Exclusive) (ht : s.Settled) {c : SessionCall}
    (hput : s.orderPut host (.call c) = none)
    (hruns : ((s.call host c).1.stream? owner).isSome) :
    s.KeepsOrder (.call c) (s.call host c).1 owner := by
  have hnext : (s.call host c).1.Exclusive :=
    hs.changes (event_changes s host hs.oneStream (.call c))
  cases hrunner : s.runner? with
  | none =>
      -- The stream would have been launched by this call.
      have hlaunched : (s.call host c).1.runner? = some owner := hnext.runner?_eq hruns
      simp [orderPut, hrunner, hlaunched] at hput
  | some running =>
      have hran := runner?_eq_some hrunner
      by_cases hconfigure : ∃ config, c = .configure config
      · obtain ⟨config, rfl⟩ := hconfigure
        exact configure_keepsOrder hs ht hran config hruns
      · have hnever : ∀ config, c ≠ .configure config := fun config h => hconfigure ⟨config, h⟩
        have hother : s.replacesUnattached (.call c) = false := by
          cases c with
          | configure config => exact (hnever config rfl).elim
          | _ => rfl
        rcases hs.call_beside hran host c hnever with hon | hnone
        · rw [hon.stream?_eq] at hruns
          refine ⟨hruns, hon.config_eq, ?_, fun _ => hother⟩
          rw [hother]
          exact hon.order_eq
        · rw [hnone] at hruns
          cases hruns

theorem operate_keepsOrder (host : SessionHost) {other : StreamOwner} {operation : TaskOperation}
    (hput : s.orderPut host (.operate other operation) = none)
    (hruns : ((s.operate host other operation).1.stream? owner).isSome) :
    s.KeepsOrder (.operate other operation) (s.operate host other operation).1 owner := by
  cases held : s.stream? other with
  | none =>
      have hkeep : s.operate host other operation = (s, []) := by simp only [operate, held]
      rw [hkeep] at hruns ⊢
      exact ⟨hruns, rfl, rfl, fun _ => rfl⟩
  | some stream =>
      obtain ⟨hstays, hconfig, hcounters⟩ := s.operate_beside host held operation
      rw [hstays] at hruns
      refine ⟨hruns, hconfig, ?_, fun _ => rfl⟩
      rw [hcounters, operate_order]
      cases operation with
      | ingest answer => rfl
      | reconstruct =>
          have hnone : ¬((stream.reconstruction.taking s.pool stream.batch).any
              stream.reconstruction.pipeline.accepts = true) := by
            intro haccepted
            simp only [orderPut, held, Option.bind_some, haccepted, if_true] at hput
            cases hput
          exact if_neg hnone

theorem arrive_keepsOrder {other : StreamOwner} {datagrams : List (List UInt8)}
    (hruns : ((s.arrive other datagrams).stream? owner).isSome) :
    s.KeepsOrder (.arrive other datagrams) (s.arrive other datagrams) owner := by
  rw [arrive_stream?] at hruns
  refine ⟨?_, ?_, ?_, fun _ => rfl⟩
  · split at hruns
    · rw [Option.isSome_map] at hruns
      exact hruns
    · exact hruns
  · cases other <;> rfl
  · cases other <;> rfl

theorem keepsOrder_of_no_put (hs : s.Exclusive) (ht : s.Settled)
    (hput : s.orderPut host e = none) (hruns : ((s.event host e).1.stream? owner).isSome) :
    s.KeepsOrder e (s.event host e).1 owner := by
  cases e with
  | call c => exact call_keepsOrder hs ht hput hruns
  | operate other operation => exact operate_keepsOrder host hput hruns
  | arrive other datagrams => exact arrive_keepsOrder hruns

end Event

/-- While a stream runs, the order reported is the one that it put in force last, or that of
the configuration. -/
theorem after_order {config : Config} (hvalid : config.Valid)
    (log : List (SessionHost × SessionEvent)) {owner : StreamOwner}
    (hruns : (((initial config).after log).stream? owner).isSome) :
    ∃ order, (initial config).lastOrder log = some order ∧
      ((initial config).after log).counters.order =
        (if (initial config).replacedSince log then ((initial config).after log).config.order
          else order) ∧
      (owner = .attachment → (initial config).replacedSince log = false) := by
  induction log with
  | nil => cases owner <;> cases hruns
  | cons x earlier ih =>
      obtain ⟨host, e⟩ := x
      have hs : ((initial config).after earlier).Exclusive := after_exclusive config earlier
      have ht : ((initial config).after earlier).Settled := after_settled hvalid earlier
      cases hput : ((initial config).after earlier).orderPut host e with
      | some order =>
          have horder := order_of_put hs ht hput
          refine ⟨order, ?_, ?_, ?_⟩
          · simp [lastOrder, hput]
          · simpa [after, replacedSince, hput] using horder
          · simp [replacedSince, hput]
      | none =>
          obtain ⟨hran, hconfig, horder, hattached⟩ := keepsOrder_of_no_put hs ht hput hruns
          obtain ⟨order, hlast, hbefore, hsince⟩ := ih hran
          refine ⟨order, ?_, ?_, ?_⟩
          · simpa [lastOrder, hput] using hlast
          · simp only [after, horder, hconfig, replacedSince, hput, hbefore]
            cases ((initial config).after earlier).replacesUnattached e <;> simp
          · intro howner
            simp [replacedSince, hput, hattached howner, hsince howner]

theorem configure_running (s : Session) (hvalid : s.config.Valid) (hrunning : s.state = .running)
    {replacement : Config} (haccepted : (s.configure replacement).result = .ok ()) :
    replacement = s.config ∧ ∀ queueDepth,
      (s.configure replacement).session.status queueDepth =
        if s.attachment.isNone then
          { s.status queueDepth with
            counters := (s.status queueDepth).counters.setOrder s.config.order }
        else s.status queueDepth := by
  have hfault := (configure_result_eq_ok_iff s replacement).mp haccepted
  obtain rfl := (configFault?_eq_none_iff hvalid hrunning replacement).mp hfault
  refine ⟨rfl, fun queueDepth => ?_⟩
  simp only [Session.configure, hfault, status, hrunning, if_true, Counters.snapshot]
  cases s.attachment.isNone <;> rfl

end Session

end SddsReceiver
