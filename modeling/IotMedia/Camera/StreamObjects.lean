import IotMedia.Camera.ClientCalls

namespace IotMedia.Camera

open IotMedia.Framework

namespace ClientWorld

variable {M : Type}

/-- The body of a call keeps hold of the stream objects. -/
def BodyKeeps (w : ClientWorld M) (env : ClientEnv M) : ClientCall → Prop
  | .createStream p _ => w.Allocates p →
    0 ≤ env.added ∧ w.client.nextStreamId∉w.client.streams.keys
  | .createInputStream _ => True
  | .deleteStream id cache => cache=true ∨ ¬w.Removes id

/-- A stream that CreateStream allocates gets into streams_ under a key that is free, and no
DeleteStream without `cache` removes one. -/
def Keeps (w : ClientWorld M) (step : ClientStep M) : Prop :=
  ∀ call w₁ env active,Enters w step call w₁ env active → w₁.BodyKeeps env call

variable {u : BufferUsage} {w w' : ClientWorld M} {step : ClientStep M} {o : Nat}

/-- What a body and a reconfiguration do to the objects. -/
inductive Touch (t : Registry Int) : Registry Int → Prop
  | same : Touch t t
  | lose : Touch t t.lose
  | add (id : Int) : Touch t (t.add id)
  | retire (id : Int) : Touch t (t.retire id)
  | drop (id : Int) : Touch t (t.drop id)

section Body

variable (env : ClientEnv M) (active : Bool) (call : ClientCall)

theorem body_touch (u : BufferUsage) (w : ClientWorld M) :
    Touch w.objects (w.body u env active call).world.objects := by
  cases call with
  | createStream p callback =>
    rw [body]
    obtain ⟨-,equal⟩|⟨-,-,equal⟩|⟨-,-,equal⟩ := addStream_cases u w env p active
    · rw [equal]
      exact .same
    · rw [equal]
      exact .lose
    · rw [equal]
      dsimp only
      split_ifs
      · exact .add _
      · exact .add _
  | createInputStream p =>
    rw [body,addInputStream]
    dsimp only
    split_ifs
    · exact .same
    · exact .same
  | deleteStream id cache =>
    rw [body]
    obtain ⟨-,equal⟩|⟨-,-,res,-,equal⟩|⟨-,stream,-,equal⟩ := dropStream_cases w id cache
    · rw [equal]
      exact .same
    · rw [equal]
      exact .same
    · rw [equal]
      cases cache with
      | true => exact .retire id
      | false => exact .drop id

/-- A body that keeps hold of the objects leaves each in its one place; one that does not loses
an object. -/
theorem body_objects (u : BufferUsage) (ha : w.Agrees) (hs : w.objects.Sound) :
    (w.BodyKeeps env call → w.objects.Owned → (w.body u env active call).world.objects.Owned) ∧
    (¬w.BodyKeeps env call → ∃ o,(w.body u env active call).world.objects.Lost o) := by
  cases call with
  | createStream p callback =>
    rw [body,BodyKeeps]
    obtain ⟨ends,equal⟩|⟨allocates,full,equal⟩|⟨allocates,fits,equal⟩ :=
      addStream_cases u w env p active
    · rw [equal]
      exact ⟨fun _ owned => owned,fun h => absurd (fun allocates => absurd allocates ends) h⟩
    · rw [equal]
      refine ⟨fun keeps => ?_,fun _ => ⟨_,Registry.lost_lose hs⟩⟩
      have fits := (keeps allocates).1
      omega
    · have objects : (w.addStream u env p active).world.objects=
          w.objects.add w.client.nextStreamId := by
        rw [equal]
        dsimp only
        split_ifs <;> rfl
      rw [objects]
      refine ⟨fun keeps owned =>
        owned.add hs (fun taken => (keeps allocates).2 ((ha _).mp taken)),?_⟩
      intro breaks
      have taken : w.client.nextStreamId∈w.client.streams.keys := by
        by_contra free
        exact breaks fun _ => ⟨fits,free⟩
      obtain ⟨o,ho⟩ := (KeyedVector.mem_keys_iff _ _).mp ((ha _).mpr taken)
      exact ⟨o,Registry.lost_add hs ho⟩
  | createInputStream p =>
    rw [body,addInputStream]
    dsimp only
    refine ⟨fun _ owned => ?_,fun h => absurd trivial h⟩
    split_ifs
    · exact owned
    · exact owned
  | deleteStream id cache =>
    rw [body,BodyKeeps]
    obtain ⟨input,equal⟩|⟨-,stays,res,-,equal⟩|⟨removes,stream,-,equal⟩ :=
      dropStream_cases w id cache
    · rw [equal]
      exact ⟨fun _ owned => owned,fun h => absurd (Or.inr fun removes => removes.1 input) h⟩
    · rw [equal]
      exact ⟨fun _ owned => owned,fun h => absurd (Or.inr stays) h⟩
    · rw [equal]
      cases cache with
      | true => exact ⟨fun _ owned => owned.retire id,fun h => absurd (Or.inl rfl) h⟩
      | false =>
        refine ⟨fun keeps => ?_,fun _ => ?_⟩
        · rcases keeps with cached|stays
          · cases cached
          · exact absurd removes stays
        · obtain ⟨-,s,found,-⟩ := removes
          have key := (KeyedVector.mem_keys_iff _ _).mpr ⟨s,found⟩
          obtain ⟨o,ho⟩ := (KeyedVector.mem_keys_iff _ _).mp ((ha id).mpr key)
          exact ⟨o,Registry.lost_drop hs ho⟩

end Body

section Step

theorem Touch.sound {t t' : Registry Int} (h : Touch t t') (sound : t.Sound) : t'.Sound := by
  cases h with
  | same => exact sound
  | lose => exact sound.lose
  | add id => exact sound.add id
  | retire id => exact sound.retire id
  | drop id => exact sound.drop id

theorem Touch.lost {t t' : Registry Int} (h : Touch t t') (lost : t.Lost o) : t'.Lost o := by
  cases h with
  | same => exact lost
  | lose => exact lost.lose
  | add id => exact lost.add id
  | retire id => exact lost.retire id
  | drop id => exact lost.drop id

theorem goOn_lost {s : Segment M} (env : ClientEnv M) (h : s.world.objects.Lost o) :
    (goOn u env s).1.objects.Lost o := by
  rw [(goOn_objects u env s).1]
  split_ifs
  · exact h.reclaim
  · exact h

/-- A step that comes to no body is a configuration, or leaves the objects alone. -/
theorem quiet_objects (h : Step u w step w')
    (quiet : ∀ call w₁ env active,¬Enters w step call w₁ env active) :
    w'.objects=w.objects ∨ w'.objects=w.objects.reclaim := by
  have configured (w : ClientWorld M) (env : ClientEnv M) :
      (w.configureStreamsLocked u env).2.objects=w.objects ∨
      (w.configureStreamsLocked u env).2.objects=w.objects.reclaim := by
    rw [configure_objects]
    split_ifs
    · exact Or.inr rfl
    · exact Or.inl rfl
  obtain ⟨ret,-,outcome⟩ := h.outcome
  cases outcome with
  | refused => exact Or.inl rfl
  | waits => exact Or.inl rfl
  | entered enters => exact absurd enters (quiet _ _ _ _)
  | timedOut => exact Or.inl rfl
  | resumed => exact Or.inl (finish_objects _ _).1
  | configured => exact configured _ _
  | generated => exact configured _ _
  | undue => exact Or.inl rfl
  | elsewhere => exact Or.inl rfl

theorem Step.entered (h : Step u w step w') {call : ClientCall} {w₁ : ClientWorld M}
    {env : ClientEnv M} {active : Bool} (enters : Enters w step call w₁ env active) :
    w'=(goOn u env (w₁.body u env active call)).1 := by
  obtain ⟨-,ret,done⟩ := h
  rw [enters.performs u] at done
  exact (congrArg Prod.fst (Option.some.inj done)).symm

theorem Step.lost (h : Step u w step w') (lost : w.objects.Lost o) : w'.objects.Lost o := by
  by_cases entered : ∃ call w₁ env active,Enters w step call w₁ env active
  · obtain ⟨call,w₁,env,active,enters⟩ := entered
    rw [h.entered enters]
    apply goOn_lost
    apply (body_touch env active call u w₁).lost
    rw [enters.same.1]
    exact lost
  · push Not at entered
    rcases quiet_objects h entered with same|reclaimed
    · rw [same]
      exact lost
    · rw [reclaimed]
      exact lost.reclaim

/-- No step deletes a stream that is in streams_ or deleted_streams_ afterwards. -/
theorem Step.sound (h : Step u w step w') (sound : w.objects.Sound) : w'.objects.Sound := by
  by_cases entered : ∃ call w₁ env active,Enters w step call w₁ env active
  · obtain ⟨call,w₁,env,active,enters⟩ := entered
    have touched := (body_touch env active call u w₁).sound (by rw [enters.same.1]; exact sound)
    rw [h.entered enters,(goOn_objects u env _).1]
    split_ifs
    · exact touched.reclaim
    · exact touched
  · push Not at entered
    rcases quiet_objects h entered with same|reclaimed
    · rw [same]
      exact sound
    · rw [reclaimed]
      exact sound.reclaim

/-- A step keeps hold of the objects, or it loses one. -/
theorem Step.objects (h : Step u w step w') (ha : w.Agrees) (sound : w.objects.Sound) :
    (w.Keeps step → w.objects.Owned → w'.objects.Owned) ∧
    (¬w.Keeps step → ∃ o,w'.objects.Lost o) := by
  by_cases entered : ∃ call w₁ env active,Enters w step call w₁ env active
  · obtain ⟨call,w₁,env,active,enters⟩ := entered
    obtain ⟨objects,-,client⟩ := enters.same
    have agrees : w₁.Agrees := ha.congr (fun id => by rw [objects]) (by rw [client])
    obtain ⟨kept,broken⟩ := body_objects env active call u agrees (objects ▸ sound)
    rw [h.entered enters]
    constructor
    · intro keeps owned
      have after := kept (keeps call w₁ env active enters) (objects ▸ owned)
      rw [(goOn_objects u env _).1]
      split_ifs
      · exact after.reclaim
      · exact after
    · intro breaks
      have body : ¬w₁.BodyKeeps env call := by
        intro keeps
        refine breaks fun call' w₂ env' active' enters' => ?_
        obtain ⟨rfl,rfl,rfl,rfl⟩ := enters.unique enters'
        exact keeps
      obtain ⟨o,lost⟩ := broken body
      exact ⟨o,goOn_lost env lost⟩
  · push Not at entered
    refine ⟨fun _ owned => ?_,fun breaks => absurd ?_ breaks⟩
    · rcases quiet_objects h entered with same|reclaimed
      · rw [same]
        exact owned
      · rw [reclaimed]
        exact owned.reclaim
    · intro call w₁ env active enters
      exact absurd enters (entered call w₁ env active)

/-- Along a run each object is in its one place as long as every step keeps hold of them, and what
a step loses is lost for good. -/
theorem run_objects {w₀ : ClientWorld M} {steps : List (ClientStep M)}
    (hr : Run (Step u) w₀ steps w) (ha : w₀.Agrees) (sound : w₀.objects.Sound)
    (owned : w₀.objects.Owned) : w.Agrees ∧ w.objects.Sound ∧
      (Run (Guarded Keeps (Step u)) w₀ steps w ∧ w.objects.Owned ∨ ∃ o,w.objects.Lost o) := by
  induction hr with
  | nil => exact ⟨ha,sound,Or.inl ⟨.nil,owned⟩⟩
  | @snoc is w w' step run hs ih =>
    obtain ⟨agrees,sound,ended⟩ := ih
    refine ⟨hs.agrees agrees,hs.sound sound,?_⟩
    obtain ⟨kept,broken⟩ := hs.objects agrees sound
    rcases ended with ⟨guarded,owned⟩|⟨o,lost⟩
    · by_cases keeps : w.Keeps step
      · exact Or.inl ⟨.snoc guarded ⟨keeps,hs⟩,kept keeps owned⟩
      · exact Or.inr (broken keeps)
    · exact Or.inr ⟨o,hs.lost lost⟩

theorem guarded_objects {w₀ : ClientWorld M} {steps : List (ClientStep M)}
    (hr : Run (Guarded Keeps (Step u)) w₀ steps w) (ha : w₀.Agrees) (sound : w₀.objects.Sound)
    (owned : w₀.objects.Owned) : w.objects.Owned := by
  have along : w.Agrees ∧ w.objects.Sound ∧ w.objects.Owned :=
    hr.invariant (P := fun w => w.Agrees ∧ w.objects.Sound ∧ w.objects.Owned)
      (fun _ _ _ h hs => ⟨hs.2.agrees h.1,hs.2.sound h.2.1,
        (hs.2.objects h.1 h.2.1).1 hs.1 h.2.2⟩) ⟨ha,sound,owned⟩
  exact along.2.2

theorem construct_agrees (c : DeviceClient M) : (construct c).Agrees := fun _ => Iff.rfl

/-- After a run every stream object that is not deleted is in streams_ or deleted_streams_ exactly
if every step kept hold of the objects. -/
theorem streams_owned_iff (u : BufferUsage) (c : DeviceClient M) (steps : List (ClientStep M))
    (hr : Run (Step u) (construct c) steps w) :
    w.objects.Owned ↔ Run (Guarded Keeps (Step u)) (construct c) steps w := by
  have agrees := construct_agrees c
  constructor
  · intro owned
    obtain ⟨-,-,⟨guarded,-⟩|⟨o,lost⟩⟩ :=
      run_objects hr agrees Registry.sound_empty Registry.owned_empty
    · exact guarded
    · exact absurd owned lost.not_owned
  · intro guarded
    exact guarded_objects guarded agrees Registry.sound_empty Registry.owned_empty

end Step

section Tests

/-- A stream comes, is configured, and goes to deleted_streams_. -/
theorem streams_owned_cached : ∃ w,Run (Step .android) opened
    [.call (.createStream previewParameters true) smooth,.configureStreams 1 0 smooth,
      .call (.deleteStream 0 true) smooth] w ∧ w.objects.Owned := by
  have created : Step .android opened (.call (.createStream previewParameters true) smooth)
      (opened.addStream .android smooth previewParameters false).world :=
    Step.of_next _ _ _ _ rfl
  have keeps : opened.Keeps (.call (.createStream previewParameters true) smooth) := by
    intro call w₁ env active enters
    cases enters
    exact fun _ => ⟨by decide,by decide⟩
  obtain ⟨w,rest,-⟩ := Run.of_exec_any (p := fun _ => true)
    (opened.addStream .android smooth previewParameters false).world
    [.configureStreams 1 0 smooth,.call (.deleteStream 0 true) smooth]
    (Step.of_next .android) (by decide)
  have others : Run (Guarded Keeps (Step .android)) _ _ w := rest.guard (by
    intro step hstep t call w₁ env active enters
    simp only [List.mem_cons,List.not_mem_nil,or_false] at hstep
    rcases hstep with rfl|rfl
    · cases enters
    · cases enters
      exact Or.inl rfl)
  exact ⟨w,Run.cons created rest,
    (streams_owned_iff .android _ _ (Run.cons created rest)).mpr (Run.cons ⟨keeps,created⟩ others)⟩

/-- Without `cache` the stream is in neither. -/
theorem uncached_stream_lost : ¬∀ (u : BufferUsage) (c : DeviceClient Unit) steps w,
    Run (Step u) (construct c) steps w → w.objects.Owned := by
  intro all
  obtain ⟨w,run,lost⟩ := Run.of_exec_any (p := fun w : ClientWorld Unit =>
      decide (0<w.objects.allocated ∧ 0∉w.objects.destroyed ∧ w.objects.places 0=0))
    opened [.call (.createStream previewParameters true) smooth,
      .call (.deleteStream 0 false) smooth] (Step.of_next .android) (by decide)
  obtain ⟨allocated,alive,nowhere⟩ := of_decide_eq_true lost
  exact absurd (all _ _ _ w run) (Registry.Lost.not_owned ⟨allocated,alive,nowhere⟩)

end Tests
end ClientWorld
end IotMedia.Camera
