import IotMedia.Daemon.BufferCircuit

namespace IotMedia.Daemon

open IotMedia.Framework IotMedia.Camera PendingRequests

namespace BufferCircuit

variable {M : Type} {w w' : BufferCircuit M} {h : Handle} {f : Nat} {o : BufferHolder}

variable {events : List (ResultEvent M)} {b : StreamBuffer}

/-- The deliveries for a frame are what is returned for it. -/
theorem deliveries_frame (f : Nat) (events : List (ResultEvent M)) :
    ((events.filterMap deliveryOf).filter fun e => e.2.2=f).map Prod.fst=returnedFor f events := by
  rw [returnedFor]
  induction events with
  | nil => rfl
  | cons e events ih =>
    cases e with
    | returnBufferToClient b ts g =>
      by_cases same : g=f
      · simpa [deliveryOf,ResultEvent.returnedFor,same] using ih
      · simpa [deliveryOf,ResultEvent.returnedFor,same] using ih
    | shutterCb | resultCb | errorCb | setErr => exact ih

theorem deliveries_quiet (quiet : Quiet events) : events.filterMap deliveryOf=[] := by
  rw [List.eq_nil_iff_forall_not_mem]
  intro e he
  have frame := deliveries_frame e.2.2 events
  rw [quiet,List.map_eq_nil_iff,List.filter_eq_nil_iff] at frame
  exact frame e he (by simp)

/-- If one buffer is returned and nothing for other frames, there is one delivery. -/
theorem deliveries_one (others : ∀ g,g≠f → returnedFor g events=[])
    (returned : returnedFor f events=[b]) : ∃ ts,events.filterMap deliveryOf=[(b,ts,f)] := by
  have frames : ∀ e∈events.filterMap deliveryOf,e.2.2=f := by
    intro e he
    by_contra other
    have frame := deliveries_frame e.2.2 events
    rw [others _ other,List.map_eq_nil_iff,List.filter_eq_nil_iff] at frame
    exact frame e he (by simp)
  have all := deliveries_frame f events
  rw [List.filter_eq_self.mpr (by simpa using frames),returned,List.map_eq_singleton_iff] at all
  obtain ⟨⟨_,ts,g⟩,eq,rfl⟩ := all
  have frame : g=f := frames (_,ts,g) (by rw [eq]; exact List.mem_singleton_self _)
  exact ⟨ts,by rw [eq,frame]⟩

/-- The circuit after the handler of a message, before the buffers that it returns are delivered. -/
def handled [CameraMetadata M] (w : BufferCircuit M) (msg : HalMessage) : BufferCircuit M :=
  { w with
    client := (w.client.receive msg).1
    state := if setErrors (w.client.receive msg).2=[] then w.state else errorState w.state
    hal := w.hal.filter fun e => (reportedFor e.1 msg).isEmpty }

/-- What becomes of a buffer by a message: nothing, its result comes before its shutter, the result
is refused, or it leaves for its stream. The index is a buffer that is lost. -/
inductive Reception (w w' : BufferCircuit M) (events : List (ResultEvent M)) : Option Handle → Prop
  | still (same : ∀ q o,w'.Holds q o ↔ w.Holds q o) (quiet : Quiet events) :
    Reception w w' events none
  | waits {f : Nat} {h : Handle} (here : w.Holds h (.hal f))
      (moves : ∀ q o,w'.Holds q o ↔ w.Holds q o ∧ o≠.hal f ∨ q=h ∧ o=.deviceClient f)
      (quiet : Quiet events) : Reception w w' events none
  | refused {f : Nat} {h : Handle} (here : w.Holds h (.hal f))
      (gone : ∀ q o,w'.Holds q o ↔ w.Holds q o ∧ o≠.hal f) (quiet : Quiet events) :
    Reception w w' events (some h)
  | leaves {f : Nat} {h : Handle} {o : BufferHolder} {b : StreamBuffer} (here : w.Holds h o)
      (frame : o.frame=some f) (gone : ∀ q p,w'.Holds q p ↔ w.Holds q p ∧ p≠o)
      (returned : returnedFor f events=[b]) (others : ∀ g,g≠f → returnedFor g events=[]) :
    Reception w w' events none

theorem Honest.reported {msg : HalMessage} (honest : w.Honest msg) (f : Nat) :
    reportedFor f msg=[] ∨ ∃ b h,reportedFor f msg=[b] ∧ b.streamId=w.id ∧ w.Holds h (.hal f) := by
  cases msg with
  | captureResult result =>
    by_cases same : result.frameNumber=f
    · rw [reportedFor,if_pos same,← same]
      refine honest.imp_right fun found => ?_
      obtain ⟨streams,known⟩ := found
      obtain ⟨b,single,id⟩ := List.map_eq_singleton_iff.mp streams
      obtain ⟨⟨f,h⟩,here,frame⟩ := List.mem_map.mp known
      cases frame
      exact ⟨b,h,single,id,here⟩
    · exact .inl (if_neg same)
  | markPendingRequest | shutter | error | writeMetadata | flush => exact .inl rfl

theorem keeps_of_unreported [CameraMetadata M] {msg : HalMessage}
    (unreported : ∀ f,reportedFor f msg=[]) : w.client.TakesReport msg := by
  cases msg with
  | captureResult result =>
    intro some_
    have none_ := unreported result.frameNumber
    rw [reportedFor,if_pos rfl] at none_
    exact absurd none_ some_
  | markPendingRequest | shutter | error | writeMetadata | flush => exact trivial

theorem append_atMost {A : Type} {a b c : List A} (h : a++b=c) (one : c.length ≤ 1) :
    a=[] ∧ b=c ∨ ∃ x,a=[x] ∧ b=[] := by
  subst h
  cases a with
  | nil => exact .inl ⟨rfl,rfl⟩
  | cons x a =>
    refine .inr ⟨x,?_⟩
    simpa using one

/-- While the HAL has a frame's buffer none waits for its shutter. -/
theorem Inv.unheld (hi : Inv w) (here : w.Holds h (.hal f)) : w.client.heldFor f=[] := by
  by_contra some_
  have both := hi.single.single (p := .hal f) (o := .deviceClient f) here
    ⟨some_,hi.mapped here rfl⟩
  cases both

/-- Only the frame of a message moves, so the holders afterwards are told by those of this frame. -/
theorem handled_holds [CameraMetadata M] {msg : HalMessage}
    (one : ∀ g,g≠f → (w.client.receive msg).1.heldFor g=w.client.heldFor g ∧
      returnedFor g (w.client.receive msg).2=[] ∧ reportedFor g msg=[])
    {P : Handle → BufferHolder → Prop}
    (elsewhere : ∀ q o,o≠.hal f → o≠.deviceClient f → (w.Holds q o ↔ P q o))
    (hal : ∀ q,w.Holds q (.hal f) ∧ reportedFor f msg=[] ↔ P q (.hal f))
    (client : ∀ q,(w.client.receive msg).1.heldFor f≠[] ∧ w.stream.buffersMap f=some q ↔
      P q (.deviceClient f)) (q : Handle) (o : BufferHolder) :
    (w.handled msg).Holds q o ↔ P q o := by
  cases o with
  | requestThread g => exact elsewhere q (.requestThread g) (by simp) (by simp)
  | daemon b => exact elsewhere q (.daemon b) (by simp) (by simp)
  | hal g =>
    have kept : (w.handled msg).Holds q (.hal g) ↔ w.Holds q (.hal g) ∧ reportedFor g msg=[] := by
      show (g,q)∈w.hal.filter _ ↔ _
      rw [List.mem_filter,List.isEmpty_iff]
      rfl
    by_cases same : g=f
    · subst same
      exact kept.trans (hal q)
    · have unreported := (one g same).2.2
      exact (kept.trans (and_iff_left unreported)).trans
        (elsewhere q (.hal g) (by simpa using same) (by simp))
  | deviceClient g =>
    by_cases same : g=f
    · subst same
      exact client q
    · have still : (w.handled msg).Holds q (.deviceClient g) ↔ w.Holds q (.deviceClient g) := by
        show (w.client.receive msg).1.heldFor g≠[] ∧ _ ↔ _
        rw [(one g same).1]
        rfl
      exact still.trans (elsewhere q (.deviceClient g) (by simp) (by simpa using same))

theorem reception [CameraMetadata M] {msg : HalMessage} (hi : Inv w) (honest : w.Honest msg) :
    ∃ lost,Reception w (w.handled msg) (w.client.receive msg).2 lost ∧
      (lost=none ↔ w.client.TakesReport msg) := by
  obtain ⟨f,one⟩ := w.client.receive_one msg
  obtain ⟨taken,refused⟩ := w.client.receive_accounts (f := f) msg (hi.timed f)
  have others : ∀ g,g≠f → returnedFor g (w.client.receive msg).2=[] := fun g hg => (one g hg).2.1
  have quiet (nothing : returnedFor f (w.client.receive msg).2=[]) :
      Quiet (w.client.receive msg).2 := by
    intro g
    by_cases same : g=f
    · rw [same]
      exact nothing
    · exact others g same
  rcases honest.reported f with unreported|⟨b,h,reported,-,here⟩
  · have kept : w.client.TakesReport msg := by
      refine keeps_of_unreported fun g => ?_
      by_cases same : g=f
      · rw [same]
        exact unreported
      · exact (one g same).2.2
    have moved := taken kept
    rw [Accounts,unreported,List.append_nil] at moved
    refine ⟨none,?_,iff_of_true rfl kept⟩
    rcases append_atMost moved (hi.one f) with ⟨nothing,same⟩|⟨b,returned,emptied⟩
    · refine .still (handled_holds one (fun _ _ _ _ => Iff.rfl) ?_ ?_) (quiet nothing)
      · exact fun q => and_iff_left unreported
      · intro q
        rw [same]
        rfl
    · have some_ : w.client.heldFor f≠[] := by
        rw [← moved,returned]
        simp
      obtain ⟨h,mapped⟩ := hi.entries f some_
      refine .leaves (f := f) (h := h) (o := .deviceClient f) ⟨some_,mapped⟩ rfl ?_ returned others
      refine handled_holds one ?_ ?_ ?_
      · exact fun q o _ hd => (and_iff_left hd).symm
      · intro q
        simp [unreported]
      · intro q
        simp [emptied]
  · have none_held := hi.unheld here
    by_cases kept : w.client.TakesReport msg
    · have moved := taken kept
      rw [Accounts,reported,none_held,List.nil_append] at moved
      refine ⟨none,?_,iff_of_true rfl kept⟩
      rcases append_atMost moved (le_refl 1) with ⟨nothing,waits⟩|⟨b',returned,emptied⟩
      · refine .waits here (handled_holds one ?_ ?_ ?_) (quiet nothing)
        · exact fun q o ho hd => by simp [ho,hd]
        · intro q
          simp [reported]
        · intro q
          rw [waits,hi.mapped here rfl]
          simp [Holds,none_held,eq_comm]
      · refine .leaves here rfl (handled_holds one ?_ ?_ ?_) returned others
        · exact fun q o ho _ => (and_iff_left ho).symm
        · intro q
          simp [reported]
        · intro q
          simp [emptied,Holds,none_held]
    · have moved := refused kept
      rw [Accounts,none_held,List.nil_append,List.append_eq_nil_iff] at moved
      refine ⟨some h,?_,iff_of_false (by simp) kept⟩
      refine .refused here (handled_holds one ?_ ?_ ?_) (quiet moved.1)
      · exact fun q o ho _ => (and_iff_left ho).symm
      · intro q
        simp [reported]
      · intro q
        simp [moved.2,Holds,none_held]

variable [CameraMetadata M] {msg : HalMessage}

/-- A frame still has one buffer at most that waits for its shutter, and it is in buffers_map. -/
theorem handled_held (hi : Inv w) (honest : w.Honest msg) (g : Nat) :
    ((w.client.receive msg).1.heldFor g).length ≤ 1 ∧
      ((w.client.receive msg).1.heldFor g≠[] → ∃ h,w.stream.buffersMap g=some h) := by
  obtain ⟨taken,refused⟩ := w.client.receive_accounts (f := g) msg (hi.timed g)
  have part {now : List StreamBuffer} (accounts : Accounts g now w.client (w.client.receive msg))
      (one : (w.client.heldFor g++now).length ≤ 1)
      (mapped : w.client.heldFor g++now≠[] → ∃ h,w.stream.buffersMap g=some h) :
      ((w.client.receive msg).1.heldFor g).length ≤ 1 ∧
        ((w.client.receive msg).1.heldFor g≠[] → ∃ h,w.stream.buffersMap g=some h) := by
    rw [← accounts] at one mapped
    rw [List.length_append] at one
    exact ⟨by omega,fun some_ => mapped (List.append_ne_nil_of_right_ne_nil _ some_)⟩
  by_cases kept : w.client.TakesReport msg
  · rcases honest.reported g with unreported|⟨b,h,reported,-,here⟩
    · refine part (taken kept) ?_ ?_
      · rw [unreported,List.append_nil]
        exact hi.one g
      · rw [unreported,List.append_nil]
        exact hi.entries g
    · refine part (taken kept) ?_ fun _ => ⟨h,hi.mapped here rfl⟩
      rw [reported,hi.unheld here]
      exact le_refl 1
  · refine part (refused kept) ?_ ?_
    · rw [List.append_nil]
      exact hi.one g
    · rw [List.append_nil]
      exact hi.entries g

theorem handled_stays (hi : Inv w) (honest : w.Honest msg) :
    Stays {w.id} (w.client.receive msg) := by
  refine receive_stays hi.within msg fun b hb => ?_
  cases msg with
  | captureResult result =>
    obtain ⟨c,hc,rfl⟩ := List.mem_map.mp hb
    rcases honest with empty|⟨streams,-⟩
    · rw [empty] at hc
      cases hc
    · have id := List.mem_map_of_mem (f := StreamBuffer.streamId) hc
      rw [streams] at id
      exact List.mem_singleton.mp id
  | markPendingRequest | shutter | error | writeMetadata | flush => cases hb

/-- The invariant after a message, from what the stream and the daemon are left with. -/
theorem Inv.received (hi : Inv w) (honest : w.Honest msg) {stream : Camera3Stream}
    {daemon : UmdCamera} {log : List StreamEffect} {lost : Option Handle}
    (transfer : w.custody.Transfer lost ({ w.handled msg with
      stream := stream,daemon := daemon,log := log } : BufferCircuit M).custody)
    (owned : stream.Owned) (status : stream.status=.configured)
    (pool : Pool ∅ (ownEvents log) stream.held) (map : stream.buffersMap=w.stream.buffersMap)
    (placed : daemon.Placed)
    (frames : ∀ {q o f},({ w.handled msg with stream := stream,daemon := daemon,log := log } :
      BufferCircuit M).Holds q o → o.frame=some f → ∃ p,w.Holds q p ∧ p.frame=some f) :
    Inv { w.handled msg with stream := stream,daemon := daemon,log := log } where
  owned := owned
  status := status
  pool := pool
  single := hi.single.transfer transfer
  mapped := by
    intro q o f held frame
    obtain ⟨p,before,same⟩ := frames held frame
    show stream.buffersMap f=some q
    rw [map]
    exact hi.mapped before same
  asked := by
    intro q o f held frame
    obtain ⟨p,before,same⟩ := frames held frame
    exact hi.asked before same
  waiting := by
    intro f at_
    obtain ⟨asked,new⟩ := hi.waiting at_
    refine ⟨asked,fun q o held frame => ?_⟩
    obtain ⟨p,before,same⟩ := frames held frame
    exact new q p before same
  entries := by
    intro f some_
    show ∃ h,stream.buffersMap f=some h
    rw [map]
    exact (handled_held hi honest f).2 some_
  one := fun f => (handled_held hi honest f).1
  timed := fun f => receive_timed msg (hi.timed f)
  within := (handled_stays hi honest).held
  placed := placed

/-- A call of StreamCb has a buffer of its own. -/
theorem streamCb_given {d : UmdCamera} (placed : d.Placed) (h : Handle) :
    ∃ d' b,d.perform (.streamCb (some h))=some d' ∧ d'.Placed ∧ b.handle=some h ∧
      d.inFlight b=0 ∧ ∀ c,d'.inFlight c=d.inFlight c+[b].count c := by
  let b : VideoBuffer := ⟨d.passed.length,some h⟩
  let d' : UmdCamera := { d with
    passed := d.passed++[b]
    calls := d.calls++[⟨b,if d.mActive then .active else .failUnmap⟩] }
  have step : d.Step (.streamCb (some h)) d' := rfl
  have after := UmdCamera.step_placed placed step
  have fresh : b∉d.passed := by
    have distinct : (d.passed++[b]).Nodup := after.nodup
    exact fun old => (List.nodup_append.mp distinct).2.2 b old b (List.mem_singleton_self b) rfl
  refine ⟨d',b,step,after,rfl,?_,?_⟩
  · have places := placed.places b
    rw [List.count_eq_zero_of_not_mem fresh] at places
    omega
  · intro c
    have before := placed.places c
    have now := after.places c
    rw [show d'.passed=d.passed++[b] from rfl,List.count_append] at now
    rw [show d'.returned=d.returned from rfl] at now
    omega

/-- With status OK the buffer goes from its holder to a call of StreamCb. -/
theorem Inv.calledBack (hi : Inv w) (honest : w.Honest msg) (here : w.Holds h o)
    (entry : w.stream.buffersMap f=some h)
    (left : ∀ q p,(w.handled msg).Holds q p ↔ w.Holds q p ∧ q≠h) (id : b.streamId=w.id)
    (status : b.status=.OK) (ts : Int) :
    ∃ w',(w.handled msg).returnBufferToClient (b,ts,f)=some w' ∧ Inv w' ∧
      w.custody.Transfer none w'.custody := by
  have active : w.stream.SameBuffers { w.stream with isStreamActive := true } :=
    ⟨rfl,rfl,rfl,rfl,rfl⟩
  obtain ⟨d,buffer,called,placed,handle,absent,flows⟩ := streamCb_given hi.placed h
  let w' : BufferCircuit M := { w.handled msg with
    stream := { w.stream with isStreamActive := true }
    daemon := d
    log := w.log++[.callback h ts f] }
  have done : (w.handled msg).returnBufferToClient (b,ts,f)=some w' := by
    have returned : w.stream.returnBufferToClient b.status ts f=
        some ⟨(),{ w.stream with isStreamActive := true },[.callback h ts f]⟩ := by
      simp [Camera3Stream.returnBufferToClient,entry,status]
    unfold returnBufferToClient
    rw [if_pos (show b.streamId=(w.handled msg).id from id)]
    show (w.stream.returnBufferToClient b.status ts f).bind _=_
    rw [returned]
    simp only [Option.bind_some,List.filterMap_cons,Daemon.calledBack,List.filterMap_nil,
      List.foldlM_cons,List.foldlM_nil]
    show ((w.daemon.perform (.streamCb (some h))).bind _).bind _=_
    rw [called]
    rfl
  have holds : ∀ q p,w'.Holds q p ↔ w.Holds q p ∧ q≠h ∨ q=h ∧ p=.daemon buffer := by
    intro q p
    rw [← left]
    cases p with
    | daemon c =>
      show 0 < d.inFlight c ∧ c.handle=some q ↔
        0 < w.daemon.inFlight c ∧ c.handle=some q ∨ q=h ∧ BufferHolder.daemon c=.daemon buffer
      have counted := flows c
      by_cases same : c=buffer
      · subst same
        rw [absent,List.count_singleton_self] at counted
        simp [counted,handle,absent,eq_comm]
      · rw [List.count_eq_zero_of_not_mem (by simpa using same)] at counted
        simp [same,counted]
    | requestThread | hal | deviceClient =>
      simp only [reduceCtorEq,and_false,or_false]
      exact Iff.rfl
  have transfer : w.custody.Transfer none w'.custody := .move (p := o) here active.held holds
  refine ⟨w',done,hi.received honest transfer (active.owned hi.owned) hi.status ?_ rfl placed ?_,
    transfer⟩
  · rw [ownEvents_append]
    show Pool ∅ (ownEvents w.log++[]) _
    rw [List.append_nil,active.held]
    exact hi.pool
  · intro q p g held at_
    rcases (holds q p).mp held with ⟨old,-⟩|⟨-,rfl⟩
    · exact ⟨p,old,at_⟩
    · cases at_

/-- With an error the buffer goes from its holder back to the stream. -/
theorem Inv.givenBack (hi : Inv w) (honest : w.Honest msg) (here : w.Holds h o)
    (entry : w.stream.buffersMap f=some h)
    (left : ∀ q p,(w.handled msg).Holds q p ↔ w.Holds q p ∧ q≠h) (id : b.streamId=w.id)
    (status : b.status=.ERROR) (ts : Int) :
    ∃ w',(w.handled msg).returnBufferToClient (b,ts,f)=some w' ∧ Inv w' ∧
      w.custody.Transfer none w'.custody := by
  have loses : w.custody.Transfer (some h) (w.handled msg).custody := .lose (p := o) here rfl left
  -- between its holder and the stream the buffer is nobody's
  have kept : Inv (w.handled msg) := hi.received honest loses hi.owned hi.status hi.pool rfl
    hi.placed fun held at_ => ⟨_,((left _ _).mp held).1,at_⟩
  obtain ⟨inv,same,used⟩ := kept.returned (s := { w.stream with isStreamActive := true })
    (hi.inUse here) (fun p held => ((left h p).mp held).2 rfl) ⟨rfl,rfl,rfl,rfl,rfl⟩ rfl
    (fun _ _ mapped _ => mapped)
  refine ⟨_,?_,inv,.giveBack (p := o) here used fun q p => (same q p).trans (left q p)⟩
  have returned : w.stream.returnBufferToClient b.status ts f=some ⟨(),
      (Camera3Stream.returnBuffer { w.stream with isStreamActive := true } (some h)).stream,
      (Camera3Stream.returnBuffer { w.stream with isStreamActive := true } (some h)).effects⟩ := by
    simp [Camera3Stream.returnBufferToClient,entry,status]
  unfold returnBufferToClient
  rw [if_pos (show b.streamId=(w.handled msg).id from id)]
  show (w.stream.returnBufferToClient b.status ts f).bind _=_
  rw [returned]
  simp only [Option.bind_some,returnBuffer_uncalled,List.foldlM_nil]
  rfl

/-- ReturnBufferToClient takes the buffer from its holder to StreamCb, or with an error back to the
stream. -/
theorem leaves_next (hi : Inv w) (honest : w.Honest msg) (here : w.Holds h o)
    (frame : o.frame=some f) (gone : ∀ q p,(w.handled msg).Holds q p ↔ w.Holds q p ∧ p≠o)
    (id : b.streamId=w.id) (ts : Int) :
    ∃ w',(w.handled msg).returnBufferToClient (b,ts,f)=some w' ∧ Inv w' ∧
      w.custody.Transfer none w'.custody := by
  have entry : w.stream.buffersMap f=some h := hi.mapped here frame
  have left : ∀ q p,(w.handled msg).Holds q p ↔ w.Holds q p ∧ q≠h :=
    fun q p => (gone q p).trans (hi.away here q p)
  cases status : b.status with
  | OK => exact hi.calledBack honest here entry left id status ts
  | ERROR => exact hi.givenBack honest here entry left id status ts

/-- A message is handled, and at most its buffer moves. -/
theorem message_next (u : BufferUsage) (hi : Inv w) (honest : w.Honest msg) :
    ∃ w' lost,w.perform u (.message msg)=some w' ∧ Inv w' ∧ w.custody.Transfer lost w'.custody ∧
      (lost=none ↔ w.client.TakesReport msg) := by
  obtain ⟨lost,received,kept⟩ := reception hi honest
  have quietly (quiet : Quiet (w.client.receive msg).2) :
      w.perform u (.message msg)=some (w.handled msg) := by
    simp only [perform,deliveries_quiet quiet]
    rfl
  -- without a delivery the stream and the daemon are left alone
  have rests (transfer : w.custody.Transfer lost (w.handled msg).custody)
      (frames : ∀ {q o f},(w.handled msg).Holds q o → o.frame=some f →
        ∃ p,w.Holds q p ∧ p.frame=some f) : Inv (w.handled msg) :=
    hi.received honest transfer hi.owned hi.status hi.pool rfl hi.placed frames
  cases received with
  | still same quiet =>
    have transfer : w.custody.Transfer none (w.handled msg).custody := .still rfl same
    exact ⟨_,none,quietly quiet,rests transfer fun held at_ => ⟨_,(same _ _).mp held,at_⟩,transfer,
      kept⟩
  | @waits f h here moves quiet =>
    have transfer : w.custody.Transfer none (w.handled msg).custody :=
      .move (p := .hal f) here rfl fun q o => (moves q o).trans (or_congr (hi.away here q o) .rfl)
    refine ⟨_,none,quietly quiet,rests transfer ?_,transfer,kept⟩
    intro q o g held at_
    rcases (moves q o).mp held with ⟨old,-⟩|⟨rfl,rfl⟩
    · exact ⟨o,old,at_⟩
    · cases at_
      exact ⟨.hal f,here,rfl⟩
  | @refused f h here gone quiet =>
    have transfer : w.custody.Transfer (some h) (w.handled msg).custody :=
      .lose (p := .hal f) here rfl fun q o => (gone q o).trans (hi.away here q o)
    exact ⟨_,some h,quietly quiet,
      rests transfer fun held at_ => ⟨_,((gone _ _).mp held).1,at_⟩,transfer,kept⟩
  | @leaves f h o b here frame gone returned others =>
    obtain ⟨ts,delivery⟩ := deliveries_one others returned
    have id : b.streamId=w.id := by
      refine (handled_stays hi honest).returned f b ?_
      rw [returned]
      exact List.mem_singleton_self b
    obtain ⟨w',done,inv,transfer⟩ := leaves_next hi honest here frame gone id ts
    refine ⟨w',none,?_,inv,transfer,kept⟩
    simp only [perform,delivery,List.foldlM_cons,List.foldlM_nil]
    show ((w.handled msg).returnBufferToClient (b,ts,f)).bind _=_
    rw [done]
    rfl

end BufferCircuit
end IotMedia.Daemon
