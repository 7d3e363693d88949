import IotMedia.Camera.ClientCalls

namespace IotMedia.Camera

open IotMedia.Framework

namespace ResumedCall

def ofCreateStream : ResumedCall → Bool
  | .createStream _ => true
  | _ => false

def ofCreate : ResumedCall → Bool
  | .deleteStream _ => false
  | _ => true

end ResumedCall

/-- What is left of a call is at most the end of DeleteStream. -/
def Onward.Deletes : Onward → Prop
  | .done _ => True
  | .resume call | .reconfigure call => call.ofCreate=false

/-- A create call that has registered its stream waits until captures run. -/
def ClientWait.creating : ClientWait → Option ResumedCall
  | .running call => if call.ofCreate then some call else none
  | .idle _ => none

namespace ClientWorld

variable {M : Type}

/-- The create calls that wait in InternalResumeLocked. -/
def creating (w : ClientWorld M) : List ResumedCall := w.waiting.filterMap ClientWait.creating

def creates : ClientCall → Bool
  | .deleteStream _ _ => false
  | _ => true

/-- The call that the step resumes in InternalResumeLocked. -/
def resumes (w : ClientWorld M) : ClientStep M → Option ResumedCall
  | .wake i _ _ =>
    match w.waiting[i]? with
    | some (.running call) => some call
    | _ => none
  | _ => none

/-- The step is one of a call of CreateStream or CreateInputStream. -/
def Creates (w : ClientWorld M) : ClientStep M → Prop
  | .call call _ => creates call=true
  | .wake i _ _ => ∃ wait,w.waiting[i]?=some wait ∧
    match wait with
    | .idle call => creates call=true
    | .running call => call.ofCreate=true
  | _ => False

/-- A create call that ends with an error has not registered its stream. -/
structure Nothing (w : ClientWorld M) (step : ClientStep M) (w' : ClientWorld M) : Prop where
  registered : w.resumes step=none
  streams : w'.client.streams=w.client.streams
  objects : w'.objects.registered=w.objects.registered
  inputStream : w'.client.inputStream=w.client.inputStream
  nextStreamId : w'.client.nextStreamId=w.client.nextStreamId

/-- No create call returned the id before, and no stream has it but the call's own. -/
structure Distinct (w : ClientWorld M) (step : ClientStep M) (id : Int) : Prop where
  returned : id∉w.returned
  streams : ∀ o,w.objects.registered.valueFor id=some o → w.resumes step=some (.createStream o)
  inputStream : w.client.inputStream.streamId=id → w.resumes step=some .createInputStream

/-- CreateStream and CreateInputStream register their stream and return its own id, or change
nothing. -/
def AllOrNothing (w : ClientWorld M) (step : ClientStep M) (w' : ClientWorld M)
    (ret : Option Int) : Prop :=
  w.Creates step → ∀ res,ret=some res →
    (res<0 → w.Nothing step w') ∧ (0 ≤ res → w.Distinct step res)

/-- No other create call is between registering its stream and its return, and a reconfiguration
for the new stream succeeds. -/
def BodyAlone (u : BufferUsage) (w : ClientWorld M) (env : ClientEnv M) (wasActive : Bool) :
    ClientCall → Prop
  | .createStream p _ => w.Allocates p → 0 ≤ env.added →
    (∀ call∈w.creating,call.ofCreateStream=false) ∧
      (wasActive=true → DeviceClient.Reconfigures u env (w.client.withStream u p))
  | .createInputStream _ => w.creating=[] ∧
    (wasActive=true → DeviceClient.Reconfigures u env w.client)
  | .deleteStream id _ => id=w.client.inputStream.streamId → .createInputStream∉w.creating

def Alone (u : BufferUsage) (w : ClientWorld M) (step : ClientStep M) : Prop :=
  ∀ call w₁ env active,Enters w step call w₁ env active → w₁.BodyAlone u env active call

/-- How the ids are numbered while these calls have registered their streams and not returned. -/
structure Numbered (w : ClientWorld M) (calls : List ResumedCall) : Prop where
  next : 0 ≤ w.client.nextStreamId
  returned : ∀ id∈w.returned,id<w.client.nextStreamId
  input : w.client.inputStream.streamId<w.client.nextStreamId
  apart : w.client.inputStream.streamId∉w.client.streams.keys
  keys : ∀ id∈w.client.streams.keys,0 ≤ id ∧ (id<w.client.nextStreamId ∨
    id=w.client.nextStreamId ∧ ∃ o,w.objects.registered.valueFor id=some o ∧
      .createStream o∈calls)
  single : calls.countP ResumedCall.ofCreateStream ≤ 1
  singleInput : calls.count .createInputStream ≤ 1
  pending : .createInputStream∈calls →
    0 ≤ w.client.inputStream.streamId ∧ w.client.inputStream.streamId∉w.returned

variable {u : BufferUsage} {w w' : ClientWorld M} {step : ClientStep M} {ret : Option Int}

section Waiting

theorem creating_wait (w : ClientWorld M) (wait : ClientWait) :
    ({ w with waiting := w.waiting++[wait] } : ClientWorld M).creating=
      w.creating++wait.creating.toList := by
  unfold creating
  rw [List.filterMap_append]
  cases h : wait.creating <;> simp [h]

/-- The calls that wait, without the one that is woken. -/
theorem creating_wake (w : ClientWorld M) {i : Nat} {wait : ClientWait}
    (hi : w.waiting[i]?=some wait) :
    w.creating.Perm (wait.creating.toList++
      ({ w with waiting := w.waiting.eraseIdx i } : ClientWorld M).creating) := by
  obtain ⟨bound,rfl⟩ := List.getElem?_eq_some_iff.mp hi
  have parts := (List.getElem_cons_eraseIdx_perm bound).symm.filterMap ClientWait.creating
  unfold creating
  refine parts.trans ?_
  cases h : (w.waiting[i]).creating <;> simp [h]

end Waiting

section Numbered

variable {calls calls' : List ResumedCall} {call : ResumedCall}

theorem Numbered.congr (h : w.Numbered calls)
    (next : w'.client.nextStreamId=w.client.nextStreamId) (returned : w'.returned=w.returned)
    (input : w'.client.inputStream=w.client.inputStream)
    (keys : w'.client.streams.keys=w.client.streams.keys)
    (registered : w'.objects.registered=w.objects.registered) (same : calls.Perm calls') :
    w'.Numbered calls' := by
  refine ⟨?_,?_,?_,?_,?_,?_,?_,?_⟩
  · rw [next]
    exact h.next
  · rw [returned,next]
    exact h.returned
  · rw [input,next]
    exact h.input
  · rw [input,keys]
    exact h.apart
  · rw [keys,next,registered]
    intro id hid
    obtain ⟨pos,below|⟨equal,o,ho,waits⟩⟩ := h.keys id hid
    · exact ⟨pos,Or.inl below⟩
    · exact ⟨pos,Or.inr ⟨equal,o,ho,same.mem_iff.mp waits⟩⟩
  · rw [← same.countP_eq]
    exact h.single
  · rw [← same.count_eq]
    exact h.singleInput
  · rw [← same.mem_iff,input,returned]
    exact h.pending

/-- No other CreateStream is under way. -/
theorem Numbered.sole {newStream : Nat} (h : w.Numbered (.createStream newStream::calls)) (o : Nat) :
    .createStream o∉calls := by
  intro waits
  have single := h.single
  rw [List.countP_cons_of_pos rfl] at single
  have pos := List.countP_pos_iff (p := ResumedCall.ofCreateStream).mpr ⟨_,waits,rfl⟩
  omega

/-- The id of a create call that returns. -/
theorem Numbered.distinct (h : w.Numbered (call::calls)) (hc : call.ofCreate=true) :
    0 ≤ (w.finish call).2 ∧ (w.finish call).2∉w.returned ∧
    (∀ o,w.objects.registered.valueFor (w.finish call).2=some o → w.Agrees →
      call=.createStream o) ∧
    (w.client.inputStream.streamId=(w.finish call).2 → call=.createInputStream) := by
  cases call with
  | createStream newStream =>
    refine ⟨h.next,fun old => (h.returned _ old).ne rfl,?_,?_⟩
    · intro o ho agrees
      have key := (agrees _).mp ((KeyedVector.mem_keys_iff _ _).mpr ⟨o,ho⟩)
      obtain ⟨-,below|⟨-,o',ho',waits⟩⟩ := h.keys _ key
      · exact absurd below (lt_irrefl _)
      · cases Option.some.inj (ho.symm.trans ho')
        rcases List.mem_cons.mp waits with same|other
        · exact same.symm
        · exact absurd other (h.sole _)
    · intro same
      exact absurd same h.input.ne
  | createInputStream =>
    obtain ⟨pos,unused⟩ := h.pending List.mem_cons_self
    refine ⟨pos,unused,?_,fun _ => rfl⟩
    intro o ho agrees
    exact absurd ((agrees _).mp ((KeyedVector.mem_keys_iff _ _).mpr ⟨o,ho⟩)) h.apart
  | deleteStream res => cases hc

theorem Numbered.finish (h : w.Numbered (call::calls)) (hc : call.ofCreate=true) :
    (w.finish call).1.Numbered calls := by
  cases call with
  | createStream newStream =>
    have single := h.single
    rw [List.countP_cons_of_pos rfl] at single
    have grown : (w.finish (.createStream newStream)).1.client.nextStreamId=
        w.client.nextStreamId+1 := rfl
    have input := h.input
    have next := h.next
    refine ⟨?_,?_,?_,h.apart,?_,by omega,?_,?_⟩
    · rw [grown]
      omega
    · intro id hid
      rw [grown]
      rcases List.mem_append.mp hid with old|new
      · have bound := h.returned id old
        omega
      · have same := List.mem_singleton.mp new
        omega
    · rw [grown]
      exact input.trans (Int.lt_succ _)
    · intro id hid
      rw [grown]
      obtain ⟨pos,below|⟨equal,-⟩⟩ := h.keys id hid
      · exact ⟨pos,Or.inl (by omega)⟩
      · exact ⟨pos,Or.inl (by omega)⟩
    · have count := h.singleInput
      rw [List.count_cons_of_ne (by simp)] at count
      exact count
    · intro waits
      obtain ⟨pos,unused⟩ := h.pending (List.mem_cons_of_mem _ waits)
      refine ⟨pos,fun hm => ?_⟩
      rcases List.mem_append.mp hm with old|new
      · exact unused old
      · exact input.ne (List.mem_singleton.mp new)
  | createInputStream =>
    have count := h.singleInput
    rw [List.count_cons_self] at count
    have others : .createInputStream∉calls := by
      intro waits
      have pos := List.count_pos_iff.mpr waits
      omega
    refine ⟨h.next,?_,h.input,h.apart,?_,?_,by omega,fun waits => absurd waits others⟩
    · intro id hid
      rcases List.mem_append.mp hid with old|new
      · exact h.returned id old
      · rw [List.mem_singleton.mp new]
        exact h.input
    · intro id hid
      obtain ⟨pos,below|⟨equal,o,ho,waits⟩⟩ := h.keys id hid
      · exact ⟨pos,Or.inl below⟩
      · rcases List.mem_cons.mp waits with same|other
        · cases same
        · exact ⟨pos,Or.inr ⟨equal,o,ho,other⟩⟩
    · have single := h.single
      rw [List.countP_cons_of_neg (by decide)] at single
      exact single
  | deleteStream res => cases hc

end Numbered

section Body

variable {env : ClientEnv M} {active : Bool} {call : ResumedCall}

theorem Numbered.apart_client {calls : List ResumedCall} (h : w.Numbered calls)
    {client : DeviceClient M} (apart : Apart w.client client) :
    ({ w with client := client } : ClientWorld M).Numbered calls :=
  h.congr apart.2.2.1 rfl apart.2.2.2 apart.1 rfl (.refl _)

/-- InternalResumeLocked, and the call returns or waits there. -/
theorem Numbered.settle (h : w.Numbered (call::w.creating)) (hc : call.ofCreate=true) :
    (w.internalResumeLocked call).1.Numbered (w.internalResumeLocked call).1.creating ∧
    ((w.internalResumeLocked call).2=none ∨
      (w.internalResumeLocked call).2=some (w.finish call).2) := by
  obtain ⟨client,apart,returns|waits⟩ := resume_cases w call
  · have same : ({ w with client := client } : ClientWorld M).finish call=
        (({ w with client := client }.finish call).1,(w.finish call).2) := by
      refine Prod.ext rfl ?_
      cases call with
      | createStream newStream => exact apart.2.2.1
      | createInputStream => exact congrArg CameraInputStream.streamId apart.2.2.2
      | deleteStream res => cases hc
    have creating : (({ w with client := client } : ClientWorld M).finish call).1.creating=
        w.creating := by cases call <;> rfl
    rw [returns]
    refine ⟨?_,Or.inr (congrArg (fun r => some r.2) same)⟩
    rw [creating]
    exact (h.apart_client apart).finish hc
  · rw [waits]
    refine ⟨?_,Or.inl rfl⟩
    have waiting := creating_wait ({ w with client := client } : ClientWorld M) (.running call)
    have here : (ClientWait.running call).creating.toList=[call] := by
      simp [ClientWait.creating,hc]
    rw [here] at waiting
    dsimp only at waiting ⊢
    rw [waiting]
    refine h.congr apart.2.2.1 rfl apart.2.2.2 apart.1 rfl ?_
    exact (List.perm_append_singleton call w.creating).symm

/-- The end of a create call's body, when its reconfiguration succeeds. -/
theorem Numbered.goes_on (h : w.Numbered (call::w.creating)) (hc : call.ofCreate=true)
    (fine : (w.client.configureStreamsLocked u env).ret=0) :
    (goOn u env ⟨w,.reconfigure call⟩).1.Numbered (goOn u env ⟨w,.reconfigure call⟩).1.creating ∧
    ((goOn u env ⟨w,.reconfigure call⟩).2=none ∨
      (goOn u env ⟨w,.reconfigure call⟩).2=some (w.finish call).2) := by
  have zero : (w.configureStreamsLocked u env).1=0 := fine
  have on : goOn u env ⟨w,.reconfigure call⟩=
      (w.configureStreamsLocked u env).2.internalResumeLocked call := by
    rw [goOn]
    dsimp only
    rw [if_neg (not_not.mpr zero)]
  obtain ⟨keys,next,input⟩ := configure_keys (u := u) w.client env
  have registered : (w.configureStreamsLocked u env).2.objects.registered=w.objects.registered := by
    rw [configure_objects]
    split_ifs <;> rfl
  have configured : (w.configureStreamsLocked u env).2.Numbered
      (call::(w.configureStreamsLocked u env).2.creating) :=
    h.congr next rfl input keys registered (.refl _)
  have same : ((w.configureStreamsLocked u env).2.finish call).2=(w.finish call).2 := by
    cases call with
    | createStream newStream => exact next
    | createInputStream => exact congrArg CameraInputStream.streamId input
    | deleteStream res => cases hc
  rw [on,← same]
  exact configured.settle hc

/-- CreateStream registers its stream while no other is under way. -/
theorem Numbered.addStream (h : w.Numbered w.creating) (p : CameraStreamParameters)
    (alone : ∀ call∈w.creating,call.ofCreateStream=false) :
    ({ w with
      client := w.client.withStream u p
      objects := w.objects.add w.client.nextStreamId } : ClientWorld M).Numbered
        (.createStream w.objects.allocated::w.creating) := by
  have none : w.creating.countP ResumedCall.ofCreateStream=0 := by
    rw [List.countP_eq_zero]
    intro call hcall
    simp [alone call hcall]
  have below : ∀ id∈w.client.streams.keys,0 ≤ id ∧ id<w.client.nextStreamId := by
    intro id hid
    obtain ⟨pos,below|⟨-,o,-,waits⟩⟩ := h.keys id hid
    · exact ⟨pos,below⟩
    · have other := alone _ waits
      cases other
  have key (id : Int) : id∈(w.client.withStream u p).streams.keys ↔
      id=w.client.nextStreamId ∨ id∈w.client.streams.keys := KeyedVector.mem_keys_add _ _ _ _
  refine ⟨h.next,h.returned,h.input,?_,?_,?_,?_,?_⟩
  · rw [key]
    rintro (same|old)
    · exact h.input.ne same
    · exact h.apart old
  · intro id hid
    rcases (key id).mp hid with rfl|old
    · refine ⟨h.next,Or.inr ⟨rfl,w.objects.allocated,?_,List.mem_cons_self⟩⟩
      simp [Registry.add]
    · exact ⟨(below id old).1,Or.inl (below id old).2⟩
  · rw [List.countP_cons_of_pos rfl,none]
  · rw [List.count_cons_of_ne (by simp)]
    exact h.singleInput
  · intro waits
    exact h.pending ((List.mem_cons.mp waits).resolve_left (by simp))

/-- CreateInputStream registers its stream while no create call is under way. -/
theorem Numbered.addInputStream (h : w.Numbered w.creating) (p : CameraInputStreamParameters)
    (alone : w.creating=[]) :
    ({ w with client := { w.client with
      reconfig := true
      inputStream := ⟨w.client.nextStreamId,p.width,p.height,p.format⟩
      nextStreamId := w.client.nextStreamId+1 } } : ClientWorld M).Numbered
        (.createInputStream::w.creating) := by
  have next := h.next
  have below : ∀ id∈w.client.streams.keys,0 ≤ id ∧ id<w.client.nextStreamId := by
    intro id hid
    obtain ⟨pos,below|⟨-,o,-,waits⟩⟩ := h.keys id hid
    · exact ⟨pos,below⟩
    · rw [alone] at waits
      cases waits
  rw [alone]
  refine ⟨?_,?_,Int.lt_succ _,?_,?_,by decide,by decide,fun _ => ⟨next,?_⟩⟩
  · dsimp only
    omega
  · intro id hid
    exact (h.returned id hid).trans (Int.lt_succ _)
  · intro key
    exact (below _ key).2.ne rfl
  · intro id hid
    exact ⟨(below id hid).1,Or.inl ((below id hid).2.trans (Int.lt_succ _))⟩
  · intro old
    exact (h.returned _ old).ne rfl

theorem Numbered.dropStream (h : w.Numbered w.creating) (id : Int) (cache : Bool)
    (alone : id=w.client.inputStream.streamId → .createInputStream∉w.creating) :
    (w.dropStream id cache).world.Numbered w.creating ∧
    (w.dropStream id cache).world.waiting=w.waiting := by
  have next := h.next
  obtain ⟨input,equal⟩|⟨-,-,res,-,equal⟩|⟨-,stream,-,equal⟩ := dropStream_cases w id cache
  · rw [equal]
    refine ⟨⟨next,h.returned,by dsimp only; omega,?_,h.keys,h.single,h.singleInput,
      fun waits => absurd waits (alone input)⟩,rfl⟩
    intro key
    have pos : (0 : Int) ≤ -1 := (h.keys _ key).1
    omega
  · rw [equal]
    exact ⟨h,rfl⟩
  · rw [equal]
    have objects : (if cache then w.objects.retire id else w.objects.drop id).registered=
        w.objects.registered.removeItem id := by cases cache <;> rfl
    have key (k : Int) : k∈(w.client.withoutStream stream id cache).streams.keys ↔
        k≠id ∧ k∈w.client.streams.keys := KeyedVector.mem_keys_removeItem _ _ _
    refine ⟨⟨next,h.returned,h.input,?_,?_,h.single,h.singleInput,h.pending⟩,rfl⟩
    · intro hk
      exact h.apart ((key _).mp hk).2
    · intro k hk
      obtain ⟨other,old⟩ := (key k).mp hk
      obtain ⟨pos,below|⟨same,o,ho,waits⟩⟩ := h.keys k old
      · exact ⟨pos,Or.inl below⟩
      · refine ⟨pos,Or.inr ⟨same,o,?_,waits⟩⟩
        dsimp only
        rw [objects,KeyedVector.valueFor_removeItem,if_neg other]
        exact ho

/-- The rest of DeleteStream leaves the numbers alone. -/
theorem Numbered.resume_delete (h : w.Numbered w.creating) (res : Int) :
    (w.internalResumeLocked (.deleteStream res)).1.Numbered
      (w.internalResumeLocked (.deleteStream res)).1.creating := by
  obtain ⟨client,apart,returns|waits⟩ := resume_cases w (.deleteStream res)
  · rw [returns]
    exact h.apart_client apart
  · rw [waits]
    have waiting := creating_wait ({ w with client := client } : ClientWorld M)
      (.running (.deleteStream res))
    have none : (ClientWait.running (.deleteStream res)).creating.toList=[] := rfl
    rw [none,List.append_nil] at waiting
    dsimp only at waiting ⊢
    rw [waiting]
    exact h.congr apart.2.2.1 rfl apart.2.2.2 apart.1 rfl (.refl _)

theorem Numbered.configure (h : w.Numbered w.creating) (u : BufferUsage) (env : ClientEnv M) :
    (w.configureStreamsLocked u env).2.Numbered (w.configureStreamsLocked u env).2.creating := by
  obtain ⟨keys,next,input⟩ := configure_keys (u := u) w.client env
  refine h.congr next rfl input keys ?_ (.refl _)
  rw [configure_objects]
  split_ifs <;> rfl

theorem Numbered.goes_delete {s : Segment M} (h : s.world.Numbered s.world.creating)
    (deletes : s.onward.Deletes) (u : BufferUsage) (env : ClientEnv M) :
    (goOn u env s).1.Numbered (goOn u env s).1.creating := by
  unfold goOn
  cases hs : s.onward with
  | done res => exact h
  | resume call =>
    rw [hs] at deletes
    cases call with
    | deleteStream res => exact h.resume_delete res
    | createStream newStream => cases deletes
    | createInputStream => cases deletes
  | reconfigure call =>
    rw [hs] at deletes
    have configured := h.configure u env
    dsimp only
    split_ifs
    · exact configured
    · cases call with
      | deleteStream res => exact configured.resume_delete res
      | createStream newStream => cases deletes
      | createInputStream => cases deletes

theorem dropStream_deletes (w : ClientWorld M) (id : Int) (cache : Bool) :
    (w.dropStream id cache).onward.Deletes := by
  obtain ⟨-,equal⟩|⟨-,-,res,-,equal⟩|⟨-,stream,-,equal⟩ := dropStream_cases w id cache
  · rw [equal]
    trivial
  · rw [equal]
    trivial
  · rw [equal]
    dsimp only
    split_ifs
    · trivial
    · rfl
    · rfl

theorem Numbered.delete (h : w.Numbered w.creating) (u : BufferUsage) (env : ClientEnv M)
    (id : Int) (cache : Bool)
    (alone : id=w.client.inputStream.streamId → .createInputStream∉w.creating) :
    (goOn u env (w.dropStream id cache)).1.Numbered
      (goOn u env (w.dropStream id cache)).1.creating := by
  obtain ⟨dropped,waiting⟩ := h.dropStream id cache alone
  have here : (w.dropStream id cache).world.Numbered (w.dropStream id cache).world.creating := by
    rw [creating,waiting]
    exact dropped
  exact here.goes_delete (w.dropStream_deletes id cache) u env

end Body

section Step

theorem below_unregistered (ha : w.Agrees)
    (below : ∀ id∈w.client.streams.keys,id<w.client.nextStreamId) :
    w.objects.registered.valueFor w.client.nextStreamId=none := by
  refine (KeyedVector.valueFor_none _ _).mpr fun hm => ?_
  exact (below _ ((ha _).mp hm)).ne rfl

/-- How a create call ends that comes to its body. -/
theorem Numbered.create (h : w.Numbered w.creating) (ha : w.Agrees) {env : ClientEnv M}
    {active : Bool} {call : ClientCall} (hc : creates call=true)
    (alone : w.BodyAlone u env active call) :
    (goOn u env (w.body u env active call)).1.Numbered
      (goOn u env (w.body u env active call)).1.creating ∧
    ((goOn u env (w.body u env active call)).2=none ∨
      (∃ res<0,(goOn u env (w.body u env active call)).2=some res ∧
        (goOn u env (w.body u env active call)).1.client=w.client ∧
        (goOn u env (w.body u env active call)).1.objects.registered=w.objects.registered) ∨
      (goOn u env (w.body u env active call)).2=some w.client.nextStreamId ∧
        w.objects.registered.valueFor w.client.nextStreamId=none) := by
  have lower (others : ∀ o,.createStream o∉w.creating) :
      w.objects.registered.valueFor w.client.nextStreamId=none := by
    refine below_unregistered ha fun id hid => ?_
    obtain ⟨-,below|⟨-,o,-,waits⟩⟩ := h.keys id hid
    · exact below
    · exact absurd waits (others o)
  cases call with
  | createStream p callback =>
    rw [body]
    obtain ⟨-,equal⟩|⟨-,full,equal⟩|⟨allocates,fits,equal⟩ := addStream_cases u w env p active
    · rw [equal]
      exact ⟨h,Or.inr (Or.inl ⟨-EINVAL,by decide,rfl,rfl,rfl⟩)⟩
    · rw [equal]
      have lost : ({ w with objects := w.objects.lose } : ClientWorld M).Numbered w.creating :=
        h.congr rfl rfl rfl rfl rfl (.refl _)
      exact ⟨lost,Or.inr (Or.inl ⟨env.added,full,rfl,rfl,rfl⟩)⟩
    · obtain ⟨others,reconfigures⟩ := alone allocates fits
      have added := h.addStream (u := u) p others
      have free := lower fun o waits => Bool.noConfusion (others _ waits)
      rw [equal]
      cases active with
      | true =>
        have fine := (DeviceClient.configure_ok u _ rfl).mpr (reconfigures rfl)
        obtain ⟨numbered,returns⟩ := added.goes_on rfl fine
        refine ⟨numbered,returns.imp_right fun returns => Or.inr ⟨returns,free⟩⟩
      | false => exact ⟨added.finish rfl,Or.inr (Or.inr ⟨rfl,free⟩)⟩
  | createInputStream p =>
    obtain ⟨others,reconfigures⟩ := alone
    have added := h.addInputStream p others
    have free := lower fun o => by simp [others]
    rw [body,ClientWorld.addInputStream]
    cases active with
    | true =>
      have fine := (DeviceClient.configure_ok u env (c := { w.client with
        reconfig := true
        inputStream := ⟨w.client.nextStreamId,p.width,p.height,p.format⟩
        nextStreamId := w.client.nextStreamId+1 }) rfl).mpr (reconfigures rfl)
      obtain ⟨numbered,returns⟩ := added.goes_on rfl fine
      exact ⟨numbered,returns.imp_right fun returns => Or.inr ⟨returns,free⟩⟩
    | false => exact ⟨added.finish rfl,Or.inr (Or.inr ⟨rfl,free⟩)⟩
  | deleteStream id cache => cases hc

theorem Enters.creates_iff {call : ClientCall} {w₁ : ClientWorld M} {env : ClientEnv M}
    {active : Bool} (h : Enters w step call w₁ env active) :
    w.resumes step=none ∧ (w.Creates step ↔ creates call=true) := by
  cases h with
  | createStream | createInputStream | deleteCached | deleteIdle => exact ⟨rfl,Iff.rfl⟩
  | awake hi => simp [resumes,Creates,hi]

theorem Enters.numbered {call : ClientCall} {w₁ : ClientWorld M} {env : ClientEnv M} {active : Bool}
    (enters : Enters w step call w₁ env active) (h : w.Numbered w.creating) :
    w₁.Numbered w₁.creating := by
  cases enters with
  | createStream | createInputStream | deleteCached => exact h
  | deleteIdle => exact h.congr rfl rfl rfl rfl rfl (.refl _)
  | awake hi => exact h.congr rfl rfl rfl rfl rfl (w.creating_wake hi)

/-- No create call ends in the step. -/
theorem AllOrNothing.of_none : w.AllOrNothing step w' none := by
  intro _ res h
  cases h

/-- A call that fails before its body. -/
theorem AllOrNothing.of_refused {res : Int} (negative : res<0) (nothing : w.Nothing step w') :
    w.AllOrNothing step w' (some res) := by
  intro _ r h
  cases Option.some.inj h
  exact ⟨fun _ => nothing,fun pos => absurd negative (by omega)⟩

/-- A step that is no part of a create call. -/
theorem AllOrNothing.of_other (other : ¬w.Creates step) : w.AllOrNothing step w' ret :=
  fun creates => absurd creates other

theorem setErrorState_streams (c : DeviceClient M) :
    c.setErrorStateLocked.1.streams=c.streams := by
  obtain ⟨state,pause,-,failed⟩ := c.setErrorState_eq
  rw [failed]

/-- A create call that comes to its body. -/
theorem Enters.allOrNothing {call : ClientCall} {w₁ : ClientWorld M} {env : ClientEnv M}
    {active : Bool} (enters : Enters w step call w₁ env active) (ha : w.Agrees)
    (h : w.Numbered w.creating) (hc : ClientWorld.creates call=true)
    (free : w₁.BodyAlone u env active call) :
    (goOn u env (w₁.body u env active call)).1.Numbered
      (goOn u env (w₁.body u env active call)).1.creating ∧
    w.AllOrNothing step (goOn u env (w₁.body u env active call)).1
      (goOn u env (w₁.body u env active call)).2 := by
  obtain ⟨objects,returned,client⟩ := enters.same
  obtain ⟨resumes,-⟩ := enters.creates_iff
  have numbered := enters.numbered h
  have agrees : w₁.Agrees := ha.congr (fun id => by rw [objects]) (by rw [client])
  obtain ⟨after,returns⟩ := numbered.create agrees hc free
  refine ⟨after,?_⟩
  intro _ res hres
  rcases returns with none|⟨res',negative,returns,same,registered⟩|⟨returns,unregistered⟩
  · rw [none] at hres
    cases hres
  · cases Option.some.inj (returns.symm.trans hres)
    refine ⟨fun _ => ⟨resumes,?_,?_,?_,?_⟩,fun pos => absurd negative (by omega)⟩
    · rw [same,client]
    · rw [registered,objects]
    · rw [same,client]
    · rw [same,client]
  · cases Option.some.inj (returns.symm.trans hres)
    rw [objects] at unregistered
    have next := numbered.next
    refine ⟨fun negative => absurd next (by omega),fun _ => ⟨?_,?_,?_⟩⟩
    · intro old
      rw [← returned] at old
      exact (numbered.returned _ old).ne rfl
    · intro o ho
      rw [unregistered] at ho
      cases ho
    · intro same
      have input := numbered.input
      have kept : w₁.client.inputStream=w.client.inputStream := by rw [client]
      rw [kept,same] at input
      exact absurd input (lt_irrefl _)

/-- A create call whose reconfiguration is over returns the id of its stream. -/
theorem Numbered.resumed {i : Nat} {res : Int} {env : ClientEnv M} {call : ResumedCall}
    (h : w.Numbered w.creating) (ha : w.Agrees) (hi : w.waiting[i]?=some (.running call))
    {client : DeviceClient M} (apart : Apart w.client client) (hc : call.ofCreate=true) :
    ({ w with client := client,waiting := w.waiting.eraseIdx i }.finish call).1.Numbered
      ({ w with client := client,waiting := w.waiting.eraseIdx i }.finish call).1.creating ∧
    w.AllOrNothing (.wake i res env)
      ({ w with client := client,waiting := w.waiting.eraseIdx i }.finish call).1
      (some ({ w with client := client,waiting := w.waiting.eraseIdx i }.finish call).2) := by
  have resumed : w.resumes (.wake i res env)=some call := by simp [resumes,hi]
  have here : (ClientWait.running call).creating.toList=[call] := by
    simp [ClientWait.creating,hc]
  have woken := w.creating_wake hi
  rw [here] at woken
  have moved : ({ w with client := client,waiting := w.waiting.eraseIdx i } :
      ClientWorld M).Numbered
        (call::({ w with waiting := w.waiting.eraseIdx i } : ClientWorld M).creating) :=
    h.congr apart.2.2.1 rfl apart.2.2.2 apart.1 rfl woken
  obtain ⟨pos,unused,streams,input⟩ := moved.distinct hc
  have agrees : ({ w with client := client,waiting := w.waiting.eraseIdx i } :
      ClientWorld M).Agrees := ha.congr (fun _ => Iff.rfl) apart.1
  refine ⟨?_,?_⟩
  · have after := moved.finish hc
    cases call <;> exact after
  · intro _ r hr
    cases Option.some.inj hr
    refine ⟨fun negative => absurd pos (by omega),fun _ => ⟨unused,?_,?_⟩⟩
    · intro o ho
      rw [resumed,streams o ho agrees]
    · intro same
      rw [resumed,input (by rw [apart.2.2.2]; exact same)]

theorem Outcome.numbered (outcome : Outcome u w step w' ret) (ha : w.Agrees)
    (h : w.Numbered w.creating) (alone : Alone u w step) :
    w'.Numbered w'.creating ∧ w.AllOrNothing step w' ret := by
  cases outcome with
  | refused negative => exact ⟨h,.of_refused negative ⟨rfl,rfl,rfl,rfl,rfl⟩⟩
  | @waits call env =>
    have waiting := creating_wait w.paused (.idle call)
    have none : (ClientWait.idle call).creating.toList=[] := rfl
    rw [none,List.append_nil] at waiting
    refine ⟨?_,.of_none⟩
    have same : w.creating.Perm w.paused.creating := .refl _
    exact h.congr rfl rfl rfl rfl rfl (same.trans (.of_eq waiting.symm))
  | @entered step call w₁ env active enters =>
    have free := alone call w₁ env active enters
    by_cases hc : ClientWorld.creates call=true
    · exact enters.allOrNothing ha h hc free
    · refine ⟨?_,.of_other fun h => hc (enters.creates_iff.2.mp h)⟩
      cases call with
      | deleteStream id cache => exact (enters.numbered h).delete u env id cache free
      | createStream p callback => exact absurd rfl hc
      | createInputStream p => exact absurd rfl hc
  | @timedOut i call env res hi negative =>
    have failed := setErrorState_apart w.client
    have again := setErrorState_apart w.client.setErrorStateLocked.1
    refine ⟨h.congr (again.2.2.1.trans failed.2.2.1) rfl (again.2.2.2.trans failed.2.2.2)
      (again.1.trans failed.1) rfl (w.creating_wake hi),.of_refused negative ⟨?_,?_,rfl,
      again.2.2.2.trans failed.2.2.2,again.2.2.1.trans failed.2.2.1⟩⟩
    · simp [resumes,hi]
    · exact (setErrorState_streams _).trans (setErrorState_streams _)
  | @resumed i res env call hi client apart =>
    cases hc : call.ofCreate with
    | true => exact h.resumed ha hi apart hc
    | false =>
      have woken := w.creating_wake hi
      have none : (ClientWait.running call).creating.toList=[] := by
        simp [ClientWait.creating,hc]
      rw [none,List.nil_append] at woken
      refine ⟨?_,.of_other ?_⟩
      · cases call with
        | deleteStream res => exact h.congr apart.2.2.1 rfl apart.2.2.2 apart.1 rfl woken
        | createStream newStream => cases hc
        | createInputStream => cases hc
      · simp [Creates,hi,hc]
  | @configured batchSize camFeatureFlags env =>
    have set : ({ w with client := { w.client with
        batchSize := batchSize
        camFeatureFlags := w.client.camFeatureFlags ||| camFeatureFlags } } :
        ClientWorld M).Numbered w.creating := h.congr rfl rfl rfl rfl rfl (.refl _)
    exact ⟨set.configure u env,.of_other fun h => h⟩
  | generated => exact ⟨h.configure u _,.of_other fun h => h⟩
  | undue => exact ⟨h,.of_none⟩
  | elsewhere apart => exact ⟨h.apart_client apart,.of_none⟩

theorem construct_numbered (c : DeviceClient M) : (construct c).Numbered (construct c).creating := by
  refine ⟨le_rfl,?_,?_,?_,?_,?_,?_,?_⟩
  · intro id hid
    cases hid
  · exact show (-1 : Int)<0 by decide
  · intro hm
    cases hm
  · intro id hid
    cases hid
  · exact Nat.zero_le 1
  · exact Nat.zero_le 1
  · intro hm
    cases hm

/-- In a run in which every create call comes alone and is configured, they are all or nothing. -/
theorem create_all_or_nothing (u : BufferUsage) (c : DeviceClient M) (steps : List (ClientStep M))
    (hr : Run (Guarded (Alone u) (Step u)) (construct c) steps w) (step : ClientStep M)
    (alone : Alone u w step) (allowed : w.Allowed step)
    (performed : w.perform u step=some (w',ret)) : w.AllOrNothing step w' ret := by
  have along : w.Agrees ∧ w.Numbered w.creating := by
    refine hr.invariant (P := fun w => w.Agrees ∧ w.Numbered w.creating) ?_
      ⟨fun _ => Iff.rfl,construct_numbered c⟩
    intro t i t' h hs
    obtain ⟨free,moved⟩ := hs
    obtain ⟨ret,-,outcome⟩ := moved.outcome
    exact ⟨moved.agrees h.1,(outcome.numbered h.1 h.2 free).1⟩
  have moved : Step u w step w' := ⟨allowed,ret,performed⟩
  obtain ⟨ret',done,outcome⟩ := moved.outcome
  have same : ret'=ret := congrArg Prod.snd (Option.some.inj (done.symm.trans performed))
  exact same ▸ (outcome.numbered along.1 along.2 alone).2

end Step

section Tests

/-- The second stream gets the second id. -/
theorem create_all_or_nothing_second :
    (opened.addStream .android smooth previewParameters false).world.AllOrNothing
      (.call (.createStream previewParameters true) smooth)
      ((opened.addStream .android smooth previewParameters false).world.addStream .android smooth
        previewParameters false).world (some 1) := by
  have alone (w : ClientWorld Unit) (hw : w.creating=[]) :
      Alone .android w (.call (.createStream previewParameters true) smooth) := by
    intro call w₁ env active enters
    cases enters
    intro _ _
    exact ⟨by simp [hw],by simp⟩
  have created : Step .android opened (.call (.createStream previewParameters true) smooth)
      (opened.addStream .android smooth previewParameters false).world :=
    Step.of_next _ _ _ _ rfl
  exact create_all_or_nothing .android _ _ (.snoc .nil ⟨alone opened rfl,created⟩) _
    (alone _ rfl) trivial rfl

def withState (w : ClientWorld Unit) (state : State) : ClientWorld Unit :=
  { w with client := { w.client with state := state } }

theorem Step.state (w : ClientWorld Unit) (state : State) :
    Step .android w (.elsewhere (w.withState state).client) (w.withState state) :=
  ⟨Apart.refl w.client,none,rfl⟩

/-- One stream, configured. -/
def configuredWorld : ClientWorld Unit :=
  ((opened.addStream .android smooth previewParameters false).world.configureStreamsLocked .android
    smooth).2

/-- A second stream is created while captures run, and waits for them to pause. -/
def pausingWorld : ClientWorld Unit :=
  (((configuredWorld.withState .RUNNING).internalPauseAndWaitLocked .android smooth
    (.createStream previewParameters true)).1).withState .CONFIGURED

/-- The HAL refuses the second stream: CreateStream fails, and the stream stays. -/
theorem failed_create_keeps_stream : ¬∀ (u : BufferUsage) (c : DeviceClient Unit) steps w step w' ret,
    Run (Step u) (construct c) steps w → w.Allowed step → w.perform u step=some (w',ret) →
    w.AllOrNothing step w' ret := by
  intro all
  have created : Step .android opened (.call (.createStream previewParameters true) smooth)
      (opened.addStream .android smooth previewParameters false).world :=
    Step.of_next _ _ _ _ rfl
  have configured : Step .android (opened.addStream .android smooth previewParameters false).world
      (.configureStreams 1 0 smooth) configuredWorld := Step.of_next _ _ _ _ rfl
  have pauses : Step .android (configuredWorld.withState .RUNNING)
      (.call (.createStream previewParameters true) smooth)
      ((configuredWorld.withState .RUNNING).internalPauseAndWaitLocked .android smooth
        (.createStream previewParameters true)).1 := Step.of_next _ _ _ _ rfl
  have start : Run (Step .android) opened [] opened := .nil
  have run := ((((start.snoc created).snoc configured).snoc
    (Step.state configuredWorld .RUNNING)).snoc pauses).snoc (Step.state _ .CONFIGURED)
  have failed := all _ _ _ pausingWorld (.wake 0 0 { smooth with configured := false }) _
    (some (-EINVAL)) run (show (0 : Int) ≤ 0 by decide) rfl ⟨_,rfl,rfl⟩ _ rfl
  have kept := (failed.1 (by decide)).streams
  exact absurd (congrArg KeyedVector.keys kept) (by decide)

end Tests
end ClientWorld
end IotMedia.Camera
