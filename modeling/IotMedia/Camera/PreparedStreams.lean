import IotMedia.Camera.StreamObjects
import IotMedia.Camera.PrepareHandler

namespace IotMedia.Camera

open IotMedia.Framework

namespace ClientWorld

variable {M : Type}

/-- The body of a call gets to a reconfiguration, which succeeds. -/
def BodyReclaims (u : BufferUsage) (w : ClientWorld M) (env : ClientEnv M) (wasActive : Bool) :
    ClientCall → Prop
  | .createStream p _ => wasActive=true ∧ w.Allocates p ∧ 0 ≤ env.added ∧
    DeviceClient.Reconfigures u env (w.client.withStream u p)
  | .createInputStream _ => wasActive=true ∧ DeviceClient.Reconfigures u env w.client
  | .deleteStream id cache => cache=false ∧ w.Removes id ∧
    (w.client.streams.removeItem id).items≠[] ∧
    DeviceClient.Reconfigures u env { w.client with streams := w.client.streams.removeItem id }

/-- EndConfigure and SubmitRequestList configure the device with success, if that is due. -/
def StepConfigures (u : BufferUsage) (w : ClientWorld M) : ClientStep M → Prop
  | .configureStreams _ _ env => DeviceClient.Reconfigures u env w.client
  | .generateCaptureRequest env => DeviceClient.Reconfigures u env w.client
  | _ => False

/-- The step reconfigures the device with success: the streams of deleted_streams_ are deleted. -/
def Reclaims (u : BufferUsage) (w : ClientWorld M) (step : ClientStep M) : Prop :=
  (∃ call w₁ env active,Enters w step call w₁ env active ∧ w₁.BodyReclaims u env active call) ∨
    w.client.reconfig=true ∧ StepConfigures u w step

variable {u : BufferUsage} {w w' : ClientWorld M} {step : ClientStep M}

section Reclaim

theorem Touch.destroyed {t t' : Registry Int} (h : Touch t t') : t'.destroyed=t.destroyed := by
  cases h <;> rfl

variable {env : ClientEnv M} {active : Bool}

theorem body_destroyed (u : BufferUsage) (w : ClientWorld M) (env : ClientEnv M) (active : Bool)
    (call : ClientCall) :
    (w.body u env active call).world.objects.destroyed=w.objects.destroyed :=
  (body_touch env active call u w).destroyed

/-- What a body does before a reconfiguration. -/
theorem body_reclaims (u : BufferUsage) (w : ClientWorld M) (env : ClientEnv M) (active : Bool)
    (call : ClientCall) :
    ((w.body u env active call).onward.reconfigures=true ∧
      ((w.body u env active call).world.client.configureStreamsLocked u env).ret=0 ∧
      (w.body u env active call).world.client.reconfig=true ↔ w.BodyReclaims u env active call) ∧
    ((w.body u env active call).onward.reconfigures=true →
      (w.body u env active call).world.objects.retired=w.objects.retired) := by
  cases call with
  | createStream p callback =>
    rw [body,BodyReclaims]
    obtain ⟨ends,equal⟩|⟨allocates,full,equal⟩|⟨allocates,fits,equal⟩ :=
      addStream_cases u w env p active
    · rw [equal]
      simp [Onward.reconfigures,ends]
    · rw [equal]
      have short : ¬0 ≤ env.added := by omega
      simp [Onward.reconfigures,short]
    · rw [equal]
      cases active with
      | false => simp [Onward.reconfigures]
      | true =>
        have ok := DeviceClient.configure_ok u env (c := w.client.withStream u p) rfl
        refine ⟨?_,fun _ => rfl⟩
        constructor
        · rintro ⟨-,ret,-⟩
          exact ⟨rfl,allocates,fits,ok.mp ret⟩
        · rintro ⟨-,-,-,reconfigures⟩
          exact ⟨rfl,ok.mpr reconfigures,rfl⟩
  | createInputStream p =>
    rw [body,addInputStream,BodyReclaims]
    cases active with
    | false => simp [Onward.reconfigures]
    | true =>
      have ok := DeviceClient.configure_ok u env (c := { w.client with
        reconfig := true
        inputStream := ⟨w.client.nextStreamId,p.width,p.height,p.format⟩
        nextStreamId := w.client.nextStreamId+1 }) rfl
      refine ⟨?_,fun _ => rfl⟩
      constructor
      · rintro ⟨-,ret,-⟩
        exact ⟨rfl,ok.mp ret⟩
      · rintro ⟨-,reconfigures⟩
        exact ⟨rfl,ok.mpr reconfigures,rfl⟩
  | deleteStream id cache =>
    rw [body,BodyReclaims]
    obtain ⟨input,equal⟩|⟨-,stays,res,-,equal⟩|⟨removes,stream,-,equal⟩ :=
      dropStream_cases w id cache
    · rw [equal]
      have stays : ¬w.Removes id := fun removes => removes.1 input
      simp [Onward.reconfigures,stays]
    · rw [equal]
      simp [Onward.reconfigures,stays]
    · rw [equal]
      cases cache with
      | true => simp [Onward.reconfigures]
      | false =>
        simp only [Bool.false_eq_true,if_false]
        by_cases last : (w.client.streams.removeItem id).items=[]
        · simp [Onward.reconfigures,last]
        · rw [if_neg last]
          have due : (w.client.withoutStream stream id false).reconfig=true := by
            simp [DeviceClient.withoutStream,last]
          have ok := DeviceClient.configure_ok u env
            (c := w.client.withoutStream stream id false) due
          refine ⟨?_,fun _ => rfl⟩
          constructor
          · rintro ⟨-,ret,-⟩
            exact ⟨trivial,removes,last,ok.mp ret⟩
          · rintro ⟨-,-,-,reconfigures⟩
            exact ⟨rfl,ok.mpr reconfigures,due⟩

theorem configure_destroyed (hr : w.client.reconfig=true) (env : ClientEnv M) :
    (DeviceClient.Reconfigures u env w.client →
      (w.configureStreamsLocked u env).2.objects.destroyed=
        w.objects.destroyed++w.objects.retired) ∧
    (¬DeviceClient.Reconfigures u env w.client →
      (w.configureStreamsLocked u env).2.objects.destroyed=w.objects.destroyed) := by
  have ok := DeviceClient.configure_ok u env hr
  rw [configure_objects]
  constructor
  · intro reconfigures
    rw [if_pos ⟨ok.mpr reconfigures,hr⟩]
    rfl
  · intro fails
    rw [if_neg fun h => fails (ok.mp h.1)]

theorem configure_skipped (hr : ¬w.client.reconfig=true) (env : ClientEnv M) :
    (w.configureStreamsLocked u env).2.objects.destroyed=w.objects.destroyed := by
  rw [configure_objects,if_neg fun h => hr h.2]

theorem entered_destroyed (h : Step u w step w') {call : ClientCall} {w₁ : ClientWorld M}
    (enters : Enters w step call w₁ env active) :
    (Reclaims u w step → w'.objects.destroyed=w.objects.destroyed++w.objects.retired) ∧
    (¬Reclaims u w step → w'.objects.destroyed=w.objects.destroyed) := by
  have reclaims : Reclaims u w step ↔ w₁.BodyReclaims u env active call := by
    constructor
    · rintro (⟨call',w₂,env',active',enters',body⟩|⟨-,other⟩)
      · obtain ⟨rfl,rfl,rfl,rfl⟩ := enters.unique enters'
        exact body
      · cases enters <;> cases other
    · intro body
      exact Or.inl ⟨call,w₁,env,active,enters,body⟩
  obtain ⟨exactly,retired⟩ := body_reclaims u w₁ env active call
  have same := body_destroyed u w₁ env active call
  rw [h.entered enters,reclaims,← exactly,(goOn_objects u env _).1,← enters.same.1]
  constructor
  · intro ends
    rw [if_pos ends]
    dsimp only [Registry.reclaim]
    rw [same,retired ends.1]
  · intro ends
    rw [if_neg ends]
    exact same

/-- The objects that a step deletes are those of deleted_streams_, if it reconfigures. -/
theorem Step.destroyed (h : Step u w step w') :
    (Reclaims u w step → w'.objects.destroyed=w.objects.destroyed++w.objects.retired) ∧
    (¬Reclaims u w step → w'.objects.destroyed=w.objects.destroyed) := by
  by_cases entered : ∃ call w₁ env active,Enters w step call w₁ env active
  · obtain ⟨call,w₁,env,active,enters⟩ := entered
    exact entered_destroyed h enters
  -- what remains to be deleted by are the two configurations
  have due (reclaims : Reclaims u w step) :
      w.client.reconfig=true ∧ StepConfigures u w step := by
    rcases reclaims with ⟨call,w₁,env,active,enters,-⟩|due
    · exact absurd ⟨call,w₁,env,active,enters⟩ entered
    · exact due
  obtain ⟨ret,-,outcome⟩ := h.outcome
  cases outcome with
  | refused => exact ⟨fun r => (due r).2.elim,fun _ => rfl⟩
  | waits => exact ⟨fun r => (due r).2.elim,fun _ => rfl⟩
  | entered enters => exact absurd ⟨_,_,_,_,enters⟩ entered
  | timedOut => exact ⟨fun r => (due r).2.elim,fun _ => rfl⟩
  | resumed =>
    exact ⟨fun r => (due r).2.elim,fun _ => congrArg Registry.destroyed (finish_objects _ _).1⟩
  | elsewhere => exact ⟨fun r => (due r).2.elim,fun _ => rfl⟩
  | undue undue => exact ⟨fun r => absurd (Or.inr (due r).1) undue,fun _ => rfl⟩
  | @generated env =>
    by_cases hr : w.client.reconfig=true
    · obtain ⟨deletes,keeps⟩ := configure_destroyed (u := u) hr env
      refine ⟨fun r => deletes (due r).2,fun r => keeps fun reconfigures => ?_⟩
      exact r (Or.inr ⟨hr,reconfigures⟩)
    · exact ⟨fun r => absurd (due r).1 hr,fun _ => configure_skipped hr env⟩
  | @configured batchSize camFeatureFlags env =>
    by_cases hr : w.client.reconfig=true
    · obtain ⟨deletes,keeps⟩ := configure_destroyed (u := u) (w := { w with client := { w.client with
        batchSize := batchSize
        camFeatureFlags := w.client.camFeatureFlags ||| camFeatureFlags } }) hr env
      refine ⟨fun r => deletes (due r).2,fun r => keeps fun reconfigures => ?_⟩
      exact r (Or.inr ⟨hr,reconfigures⟩)
    · refine ⟨fun r => absurd (due r).1 hr,fun _ => ?_⟩
      exact configure_skipped (w := { w with client := { w.client with
        batchSize := batchSize
        camFeatureFlags := w.client.camFeatureFlags ||| camFeatureFlags } }) hr env

end Reclaim
end ClientWorld

/-- The client with its prepare handler, which holds the stream objects by their pointers. -/
structure PrepareWorld (M : Type) where
  world : ClientWorld M
  prepareHandler : Camera3PrepareHandler Nat

/-- The steps of the client, and of the prepare handler: `threadLoop` takes the lock, then
`prepareBuffer` answers, and `finishStream` takes the lock again. -/
inductive PrepareStep (M : Type)
  | client (step : ClientStep M)
  | prepare (streamId run : Int)
  | clear
  | threadLoop
  | prepareBuffer (res : Int)
  | finishStream

namespace PrepareWorld

variable {M : Type}

def construct (c : DeviceClient M) (prepareCb : Bool) : PrepareWorld M :=
  ⟨.construct c,.construct prepareCb⟩

/-- Prepare ends in a fault where its stream is missing. What PrepareBuffer and EndPrepare change
in a stream is among the steps `elsewhere` of the client. -/
def perform (u : BufferUsage) (p : PrepareWorld M) : PrepareStep M → Option (PrepareWorld M)
  | .client step => (p.world.perform u step).map fun r => { p with world := r.1 }
  | .prepare streamId run =>
    match p.world.objects.registered.valueFor streamId with
    | none => none
    | some object =>
      match p.world.client.prepare p.prepareHandler object streamId run with
      | (.error _,_,_) => none
      | (.ok _,client,handler) => some ⟨{ p.world with client := client },handler⟩
  | .clear => some { p with prepareHandler := p.prepareHandler.clear.handler }
  | .threadLoop =>
    if p.prepareHandler.prepareRunning ∧ p.prepareHandler.stage=.locked then
      some { p with prepareHandler := p.prepareHandler.threadLoop.handler }
    else none
  | .prepareBuffer res =>
    if p.prepareHandler.stage=.preparing then
      some { p with prepareHandler := (p.prepareHandler.prepareBuffer res).handler }
    else none
  | .finishStream =>
    if p.prepareHandler.stage=.prepared then
      some { p with prepareHandler := p.prepareHandler.finishStream.handler }
    else none

def Allowed (p : PrepareWorld M) : PrepareStep M → Prop
  | .client step => p.world.Allowed step
  | _ => True

def Step (u : BufferUsage) (p : PrepareWorld M) (step : PrepareStep M) (p' : PrepareWorld M) :
    Prop := p.Allowed step ∧ p.perform u step=some p'

/-- The steps of the client but `elsewhere`, and of the prepare handler. -/
def next (u : BufferUsage) (p : PrepareWorld M) : PrepareStep M → Option (PrepareWorld M)
  | .client step => (p.world.next u step).map fun w => { p with world := w }
  | step => p.perform u step

theorem Step.of_next (u : BufferUsage) (p : PrepareWorld M) (step : PrepareStep M)
    (p' : PrepareWorld M) (h : p.next u step=some p') : Step u p step p' := by
  cases step with
  | client s =>
    obtain ⟨w,hw,rfl⟩ := Option.map_eq_some_iff.mp h
    obtain ⟨allowed,ret,performed⟩ := ClientWorld.Step.of_next u p.world s w hw
    exact ⟨allowed,by rw [perform,performed]; rfl⟩
  | prepare | clear | threadLoop | prepareBuffer | finishStream => exact ⟨trivial,h⟩

/-- The pointers of the prepare handler refer to streams that are not deleted. -/
def Live (p : PrepareWorld M) : Prop := ∀ o∈p.prepareHandler.held,o∉p.world.objects.destroyed

/-- A reconfiguration does not find a stream in deleted_streams_ that is being prepared. -/
def Spares (u : BufferUsage) (p : PrepareWorld M) : PrepareStep M → Prop
  | .client step => ClientWorld.Reclaims u p.world step →
    ∀ o∈p.world.objects.retired,o∉p.prepareHandler.held
  | _ => True

variable {u : BufferUsage} {p p' : PrepareWorld M} {step : PrepareStep M}

/-- Prepare takes the pointer of a registered stream, and leaves the keys of streams_. -/
theorem prepare_kept {c : DeviceClient M} {h : Camera3PrepareHandler Nat} {object : Nat}
    {streamId run ret : Int} {client : DeviceClient M} {handler : Camera3PrepareHandler Nat}
    (done : c.prepare h object streamId run=(.ok ret,client,handler)) :
    client.streams.keys=c.streams.keys ∧ ∀ o∈handler.held,o=object ∨ o∈h.held := by
  unfold DeviceClient.prepare at done
  split at done
  · cases done
  next stream found =>
    dsimp only at done
    split_ifs at done
    · cases done
      exact ⟨rfl,fun o ho => Or.inr ho⟩
    · cases done
      exact ⟨rfl,fun o ho => Or.inr ho⟩
    · cases done
      exact ⟨KeyedVector.keys_replaceValueFor _ _ _,h.held_prepare _ _ _⟩

/-- The prepare handler's own steps take no pointer but that of a registered stream. -/
theorem held_step (h : Step u p step p') (own : ∀ s,step≠.client s) :
    p'.world.objects=p.world.objects ∧
    p'.world.client.streams.keys=p.world.client.streams.keys ∧
    ∀ o∈p'.prepareHandler.held,o∈p.prepareHandler.held ∨
      ∃ id,p.world.objects.registered.valueFor id=some o := by
  obtain ⟨-,done⟩ := h
  cases step with
  | client s => exact absurd rfl (own s)
  | prepare streamId run =>
    rw [perform] at done
    split at done
    · cases done
    next object found =>
      split at done
      · cases done
      next ret client handler prepared =>
        cases Option.some.inj done
        obtain ⟨keys,held⟩ := prepare_kept prepared
        refine ⟨rfl,keys,fun o ho => ?_⟩
        rcases held o ho with same|old
        · exact Or.inr ⟨streamId,same ▸ found⟩
        · exact Or.inl old
  | clear =>
    cases Option.some.inj done
    refine ⟨rfl,rfl,fun o ho => Or.inl ?_⟩
    exact List.mem_append_right _ (by simpa [Camera3PrepareHandler.clear,
      Camera3PrepareHandler.held] using ho)
  | threadLoop =>
    rw [perform] at done
    split_ifs at done
    cases Option.some.inj done
    exact ⟨rfl,rfl,fun o ho => Or.inl (p.prepareHandler.held_threadLoop o ho)⟩
  | prepareBuffer res =>
    rw [perform] at done
    split_ifs at done
    cases Option.some.inj done
    refine ⟨rfl,rfl,fun o ho => Or.inl ?_⟩
    rw [← p.prepareHandler.held_prepareBuffer res]
    exact ho
  | finishStream =>
    rw [perform] at done
    split_ifs at done
    cases Option.some.inj done
    exact ⟨rfl,rfl,fun o ho => Or.inl (p.prepareHandler.held_finishStream o ho)⟩

/-- A step of the client leaves the prepare handler. -/
theorem client_step {s : ClientStep M} (h : Step u p (.client s) p') :
    ClientWorld.Step u p.world s p'.world ∧ p'.prepareHandler=p.prepareHandler := by
  obtain ⟨allowed,done⟩ := h
  obtain ⟨⟨w,ret⟩,performed,rfl⟩ := Option.map_eq_some_iff.mp done
  exact ⟨⟨allowed,ret,performed⟩,rfl⟩

/-- What holds along every run: the pointers of streams_ and deleted_streams_ are sound. -/
theorem Step.sound (h : Step u p step p')
    (sound : p.world.Agrees ∧ p.world.objects.Sound) :
    p'.world.Agrees ∧ p'.world.objects.Sound := by
  by_cases client : ∃ s,step=.client s
  · obtain ⟨s,rfl⟩ := client
    obtain ⟨moved,-⟩ := client_step h
    exact ⟨moved.agrees sound.1,moved.sound sound.2⟩
  · obtain ⟨objects,keys,-⟩ := held_step h fun s same => client ⟨s,same⟩
    exact ⟨sound.1.congr (fun id => by rw [objects]) keys,objects ▸ sound.2⟩

/-- A step keeps the pointers of the prepare handler exactly if no reconfiguration deletes one. -/
theorem Step.live (h : Step u p step p') (sound : p.world.objects.Sound) (live : p.Live) :
    p'.Live ↔ p.Spares u step := by
  by_cases client : ∃ s,step=.client s
  · obtain ⟨s,rfl⟩ := client
    obtain ⟨moved,handler⟩ := client_step h
    obtain ⟨deletes,keeps⟩ := moved.destroyed
    unfold Live Spares
    rw [handler]
    by_cases reclaims : ClientWorld.Reclaims u p.world s
    · rw [deletes reclaims]
      constructor
      · intro after _ o retired held
        exact after o held (List.mem_append_right _ retired)
      · intro spares o held gone
        rcases List.mem_append.mp gone with before|now
        · exact live o held before
        · exact spares reclaims o now held
    · rw [keeps reclaims]
      exact iff_of_true live fun r => absurd r reclaims
  · obtain ⟨objects,-,held⟩ := held_step h fun s same => client ⟨s,same⟩
    refine iff_of_true ?_ ?_
    · intro o ho
      rw [objects]
      rcases held o ho with old|⟨id,found⟩
      · exact live o old
      · exact (sound.live o (Registry.places_of_registered found)).2
    · cases step with
      | client s => exact absurd ⟨s,rfl⟩ client
      | prepare | clear | threadLoop | prepareBuffer | finishStream => trivial

/-- In a run in which no reconfiguration finds a stream in deleted_streams_ that is being prepared,
the prepare handler refers to no deleted stream; the first step that does makes it. -/
theorem prepared_streams_live (u : BufferUsage) (c : DeviceClient M) (prepareCb : Bool)
    (steps : List (PrepareStep M))
    (hr : Run (Guarded (Spares u) (Step u)) (construct c prepareCb) steps p) :
    p.Live ∧ ∀ step p',Step u p step p' → (p'.Live ↔ p.Spares u step) := by
  refine hr.kept_iff_guard (I := fun p => p.world.Agrees ∧ p.world.objects.Sound) ?_ ?_
    ⟨fun _ => Iff.rfl,Registry.sound_empty⟩ (fun o ho => by cases ho)
  · intro t step t' sound _ hs _
    exact hs.sound sound
  · intro t step t' sound live hs
    exact hs.live sound.2 live

section Tests

open ClientWorld (opened smooth previewParameters)

/-- Stream 0 is created, configured and handed to the prepare handler. -/
def preparedSteps : List (PrepareStep Unit) :=
  [.client (.call (.createStream previewParameters true) smooth),
    .client (.configureStreams 1 0 smooth),.prepare 0 0]

theorem prepared_streams_first : ∃ p,p.Live ∧ p.prepareHandler.held=[0] ∧
    Run (Step .android) (construct opened.client true) preparedSteps p := by
  have created : Step .android (construct opened.client true)
      (.client (.call (.createStream previewParameters true) smooth))
      ⟨(opened.addStream .android smooth previewParameters false).world,.construct true⟩ :=
    Step.of_next _ _ _ _ rfl
  have configured : Step .android
      ⟨(opened.addStream .android smooth previewParameters false).world,.construct true⟩
      (.client (.configureStreams 1 0 smooth))
      ⟨((opened.addStream .android smooth previewParameters false).world.configureStreamsLocked
        .android smooth).2,.construct true⟩ := Step.of_next _ _ _ _ rfl
  obtain ⟨p,last,held⟩ := Run.of_exec_any
    (p := fun p : PrepareWorld Unit => decide (p.prepareHandler.held=[0]))
    ⟨((opened.addStream .android smooth previewParameters false).world.configureStreamsLocked
      .android smooth).2,.construct true⟩ [.prepare 0 0] (Step.of_next .android) (by decide)
  -- deleted_streams_ is empty all the way
  have spared : Run (Guarded (Spares .android) (Step .android)) _ [.prepare 0 0] p :=
    last.guard (by
      intro step hstep t
      rw [List.mem_singleton.mp hstep]
      trivial)
  have none : ∀ (step : ClientStep Unit) (q : PrepareWorld Unit),
      q.world.objects.retired=[] → q.Spares .android (.client step) := by
    intro step q empty _ o ho
    rw [empty] at ho
    cases ho
  have run := Run.cons created (Run.cons configured last)
  have guarded : Run (Guarded (Spares .android) (Step .android)) (construct opened.client true)
      preparedSteps p :=
    Run.cons ⟨none _ _ rfl,created⟩ (Run.cons ⟨none _ _ rfl,configured⟩ spared)
  exact ⟨p,(prepared_streams_live .android _ true preparedSteps guarded).1,of_decide_eq_true held,
    run⟩

/-- Stream 0 goes to deleted_streams_ while it is prepared, and the configuration of stream 1
deletes it. -/
theorem prepared_stream_deleted : ¬∀ (u : BufferUsage) (c : DeviceClient Unit) prepareCb steps p,
    Run (Step u) (construct c prepareCb) steps p → p.Live := by
  intro all
  obtain ⟨p,run,held⟩ := Run.of_exec_any (p := fun p : PrepareWorld Unit =>
      decide (0∈p.prepareHandler.held ∧ 0∈p.world.objects.destroyed))
    ⟨opened,.construct true⟩ (preparedSteps++
      [.client (.call (.deleteStream 0 true) smooth),
        .client (.call (.createStream previewParameters true) smooth),
        .client (.configureStreams 1 0 smooth)]) (Step.of_next .android) (by decide)
  obtain ⟨pointer,gone⟩ := of_decide_eq_true held
  exact all .android _ true _ p run 0 pointer gone

end Tests
end PrepareWorld
end IotMedia.Camera
