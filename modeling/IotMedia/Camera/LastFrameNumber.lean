import IotMedia.Camera.RequestQueue

namespace IotMedia.Camera

open IotMedia.Framework PendingRequests RequestHandler

def Consumption.frameNumber {M : Type} : Consumption M → Nat
  | .dequeued request => request.resultExtras.frameNumber
  | .reported _ extras => extras.frameNumber

/-- The queue of requests with what was stored through lastFrameNumber. The repeating lists are
numbered as they are installed, the empty ones included; `origins` says of each appended request
which repeating list it was expanded from, `none` for QueueRequestList. `queued` has the place of a
queued list's last request, `ended` the repeating lists that were replaced or removed. -/
structure PromiseWorld (M : Type) where
  queue : QueueWorld M
  origins : List (Option Nat) := []
  repeating : Nat := 0
  queued : List (Nat × Int) := []
  ended : List (Nat × Int) := []

namespace PromiseWorld

variable {M : Type} [CameraMetadata M]

def origin (w : PromiseWorld M) : QueueStep M → Option Nat
  | .queueRequestList _ => none
  | _ => some w.repeating

/-- What a call stores for the list it queues. -/
def storesQueued (w : PromiseWorld M) : QueueStep M → List (Nat × Int)
  | .queueRequestList requests =>
    if requests=[] then []
    else [((w.queue.appended++requests).length-1,(w.queue.handler.queueRequestList requests).2.1)]
  | _ => []

/-- What a call stores for the repeating list it replaces or removes. -/
def storesEnded (w : PromiseWorld M) : QueueStep M → Option Int
  | .setRepeatingRequests requests => some (w.queue.handler.setRepeatingRequests requests).2.1
  | .clearRepeatingRequests => some w.queue.handler.clearRepeatingRequests.2
  | .clear => some w.queue.handler.clear.2.1
  | _ => none

def perform (w : PromiseWorld M) (step : QueueStep M) : PromiseWorld M where
  queue := w.queue.perform step
  origins := w.origins++List.replicate
    ((w.queue.perform step).appended.length-w.queue.appended.length) (w.origin step)
  repeating := if (w.storesEnded step).isSome then w.repeating+1 else w.repeating
  queued := w.queued++w.storesQueued step
  ended := w.ended++((w.storesEnded step).map fun last => (w.repeating,last)).toList

/-- Output requests only: GetRequestListLocked sends the others to QueueReprocRequestList. -/
def Step (w : PromiseWorld M) (step : QueueStep M) (w' : PromiseWorld M) : Prop :=
  w.queue.Allowed step ∧ w'=w.perform step

structure Start (w : PromiseWorld M) : Prop where
  queue : w.queue.Start
  origins : w.origins=[]
  queued : w.queued=[]
  ended : w.ended=[]

/-- The value for a repeating list: NO_IN_FLIGHT_REPEATING_FRAMES if nothing was expanded from it,
else the place of the last request that was, while the counter does not wrap. -/
def LastOf (origins : List (Option Nat)) (list : Nat) (last : Int) : Prop :=
  (last=NO_IN_FLIGHT_REPEATING_FRAMES → ∀ k : Nat,origins[k]?≠some (some list)) ∧
  (last≠NO_IN_FLIGHT_REPEATING_FRAMES →
    ∃ k,LastAt origins (some list) k ∧ (k < 2^32 → last=k))

/-- The `k`-th request to be appended is given the number `k`, so a stored value is that of the
last request of its list; no other request of a repeating list is given a greater one. Requests
from the 2^32-th on are consumed after the counter has wrapped. -/
structure Kept (w : PromiseWorld M) : Prop where
  conserved : w.queue.Conserved
  queued : ∀ p∈w.queued,p.1 < 2^32 → p.2=p.1 ∧
    ∀ c,w.queue.consumed[p.1]?=some c → c.frameNumber=p.2
  ended : ∀ e∈w.ended,
    (e.2=NO_IN_FLIGHT_REPEATING_FRAMES → ∀ k : Nat,w.origins[k]?≠some (some e.1)) ∧
    (e.2≠NO_IN_FLIGHT_REPEATING_FRAMES → ∃ k,LastAt w.origins (some e.1) k ∧
      (k < 2^32 → e.2=k ∧
        (∀ c,w.queue.consumed[k]?=some c → c.frameNumber=e.2) ∧
        ∀ (j : Nat) c,w.origins[j]?=some (some e.1) → w.queue.consumed[j]?=some c →
          c.frameNumber ≤ e.2))

structure Inv (w : PromiseWorld M) : Prop where
  queue : w.queue.Inv
  length : w.origins.length=w.queue.appended.length
  installed : ∀ (k : Nat) list,w.origins[k]?=some (some list) → list ≤ w.repeating
  queued : ∀ p∈w.queued,p.1 < 2^32 → p.2=p.1
  present : LastOf w.origins w.repeating w.queue.handler.streamingLastFrameNumber
  ended : ∀ e∈w.ended,e.1 < w.repeating ∧ LastOf w.origins e.1 e.2

variable {w w' : PromiseWorld M} {origins : List (Option Nat)} {list n : Nat} {last : Int}

section Origins

omit [CameraMetadata M] in
theorem LastOf.append (h : LastOf origins list last) {origin : Option Nat}
    (hne : origin≠some list) : LastOf (origins++List.replicate n origin) list last := by
  constructor
  · intro none k hk
    rcases getElem?_append_replicate.mp hk with old|⟨same,-⟩
    · exact h.1 none k old
    · exact hne same
  · intro some
    obtain ⟨k,place,value⟩ := h.2 some
    exact ⟨k,place.append hne,value⟩

/-- A list that nothing was expanded from yet. -/
theorem lastOf_new (h : ∀ (k : Nat) other,origins[k]?=some (some other) → other < list) :
    LastOf origins list NO_IN_FLIGHT_REPEATING_FRAMES := by
  constructor
  · intro _ k hk
    exact absurd (h k list hk) (lt_irrefl list)
  · intro other
    exact absurd rfl other

/-- Another burst is expanded. -/
theorem lastOf_expanded (hn : 0 < n) {counter : Int} (hc : 0 ≤ counter)
    (hv : origins.length+n-1 < 2^32 → counter=origins.length) :
    LastOf (origins++List.replicate n (some list)) list (counter+n-1) := by
  constructor
  · intro none
    unfold NO_IN_FLIGHT_REPEATING_FRAMES at none
    omega
  · intro _
    refine ⟨origins.length+n-1,lastAt_replicate hn,?_⟩
    intro bound
    rw [hv bound]
    omega

end Origins
section Steps

omit [CameraMetadata M] in
/-- Filling an empty queue from the repeating list predicts the number of its last request. -/
theorem nextRequest_last {s t : RequestHandler M} {r : CaptureRequest M}
    (h : s.nextRequest=some (t,r)) :
    (s.requests=[] ∧ s.streamingRequests≠[] ∧
      t.streamingLastFrameNumber=s.currentFrameNumber+s.streamingRequests.length-1) ∨
    s.requests≠[] ∧ t.streamingLastFrameNumber=s.streamingLastFrameNumber := by
  unfold nextRequest at h
  cases hr : s.requests with
  | nil =>
    cases hs : s.streamingRequests with
    | nil => simp [hr,hs] at h
    | cons a rest =>
      simp only [hr,hs,Option.some.injEq,Prod.mk.injEq] at h
      obtain ⟨rfl,-⟩ := h
      exact Or.inl ⟨rfl,List.cons_ne_nil a rest,rfl⟩
  | cons a rest =>
    refine Or.inr ⟨List.cons_ne_nil a rest,?_⟩
    simp only [hr] at h
    split at h
    · cases Option.some.inj h
      rfl
    · cases Option.some.inj h
      rfl

/-- A step that neither appends requests nor touches the repeating list. -/
theorem Inv.keep (hi : Inv w) {step : QueueStep M} (hq : (w.queue.perform step).Inv)
    (happ : (w.queue.perform step).appended=w.queue.appended)
    (hlast : (w.queue.perform step).handler.streamingLastFrameNumber=
      w.queue.handler.streamingLastFrameNumber)
    (hse : w.storesEnded step=none) (hsq : w.storesQueued step=[]) : Inv (w.perform step) := by
  have origins : (w.perform step).origins=w.origins := by simp [perform,happ]
  have repeating : (w.perform step).repeating=w.repeating := by simp [perform,hse]
  have queued : (w.perform step).queued=w.queued := by simp [perform,hsq]
  have ended : (w.perform step).ended=w.ended := by simp [perform,hse]
  refine ⟨hq,?_,?_,?_,?_,?_⟩
  · rw [origins]
    show _=(w.queue.perform step).appended.length
    rw [happ]
    exact hi.length
  · rw [origins,repeating]
    exact hi.installed
  · rw [queued]
    exact hi.queued
  · rw [origins,repeating]
    show LastOf _ _ (w.queue.perform step).handler.streamingLastFrameNumber
    rw [hlast]
    exact hi.present
  · rw [origins,repeating,ended]
    exact hi.ended

/-- A step that ends the repeating list. -/
theorem Inv.finish (hi : Inv w) {step : QueueStep M} (hq : (w.queue.perform step).Inv)
    (happ : (w.queue.perform step).appended=w.queue.appended)
    (hlast : (w.queue.perform step).handler.streamingLastFrameNumber=NO_IN_FLIGHT_REPEATING_FRAMES)
    (hse : w.storesEnded step=some w.queue.handler.streamingLastFrameNumber)
    (hsq : w.storesQueued step=[]) : Inv (w.perform step) := by
  have origins : (w.perform step).origins=w.origins := by simp [perform,happ]
  have repeating : (w.perform step).repeating=w.repeating+1 := by simp [perform,hse]
  have queued : (w.perform step).queued=w.queued := by simp [perform,hsq]
  have ended : (w.perform step).ended=
      w.ended++[(w.repeating,w.queue.handler.streamingLastFrameNumber)] := by simp [perform,hse]
  refine ⟨hq,?_,?_,?_,?_,?_⟩
  · rw [origins]
    show _=(w.queue.perform step).appended.length
    rw [happ]
    exact hi.length
  · rw [origins,repeating]
    intro k other hk
    have before := hi.installed k other hk
    omega
  · rw [queued]
    exact hi.queued
  · rw [origins,repeating]
    show LastOf _ _ (w.queue.perform step).handler.streamingLastFrameNumber
    rw [hlast]
    apply lastOf_new
    intro k other hk
    have before := hi.installed k other hk
    omega
  · rw [origins,repeating,ended]
    intro e he
    rcases List.mem_append.mp he with old|new
    · obtain ⟨before,value⟩ := hi.ended e old
      exact ⟨by omega,value⟩
    · rw [List.mem_singleton.mp new]
      exact ⟨Nat.lt_succ_self _,hi.present⟩

/-- GetRequest returned a request, perhaps the first of a new burst. -/
theorem took_inv (hi : Inv w) {step : QueueStep M} {next got : RequestHandler M}
    {r : CaptureRequest M} (hq : (w.queue.perform step).Inv)
    (hp : w.queue.perform step=w.queue.took got r) (hn : w.queue.handler.nextRequest=some (next,r))
    (hg : got=(next.takeRequest r).1) (ho : w.origin step=some w.repeating)
    (hse : w.storesEnded step=none) (hsq : w.storesQueued step=[]) : Inv (w.perform step) := by
  have last : (w.queue.perform step).handler.streamingLastFrameNumber=
      next.streamingLastFrameNumber := by
    rw [hp]
    show got.streamingLastFrameNumber=_
    rw [hg]
    rfl
  rcases nextRequest_last hn with ⟨empty,burst,value⟩|⟨filled,value⟩
  · have appended : (w.queue.perform step).appended=
        w.queue.appended++w.queue.handler.streamingRequests := by
      rw [hp]
      simp [QueueWorld.took,empty]
    have origins : (w.perform step).origins=w.origins++
        List.replicate w.queue.handler.streamingRequests.length (some w.repeating) := by
      simp [perform,appended,ho]
    have repeating : (w.perform step).repeating=w.repeating := by simp [perform,hse]
    have queued : (w.perform step).queued=w.queued := by simp [perform,hsq]
    have ended : (w.perform step).ended=w.ended := by simp [perform,hse]
    have consumed : w.queue.appended.length=w.queue.consumed.length := by
      have length := hi.queue.conserved.length
      simpa [empty] using length
    have counter := hi.queue.counter
    refine ⟨hq,?_,?_,?_,?_,?_⟩
    · rw [origins]
      show _=(w.queue.perform step).appended.length
      rw [appended,List.length_append,List.length_append,List.length_replicate,hi.length]
    · rw [origins,repeating]
      intro k other hk
      rcases getElem?_append_replicate.mp hk with old|⟨same,-⟩
      · exact hi.installed k other old
      · cases same
        exact le_rfl
    · rw [queued]
      exact hi.queued
    · rw [origins,repeating]
      show LastOf _ _ (w.queue.perform step).handler.streamingLastFrameNumber
      rw [last,value]
      have some : 0 < w.queue.handler.streamingRequests.length := List.length_pos_iff.mpr burst
      apply lastOf_expanded some (by omega)
      intro bound
      rw [counter,hi.length,consumed]
      rw [hi.length,consumed] at bound
      omega
    · rw [origins,repeating,ended]
      intro e he
      obtain ⟨before,value⟩ := hi.ended e he
      refine ⟨before,value.append ?_⟩
      intro same
      have equal := Option.some.inj same
      omega
  · refine hi.keep hq ?_ (last.trans value) hse hsq
    rw [hp]
    simp [QueueWorld.took,filled]

/-- A list is queued behind what waits. -/
theorem queue_inv (hi : Inv w) {requests : List (CaptureRequest M)}
    (hq : (w.queue.perform (.queueRequestList requests)).Inv) :
    Inv (w.perform (.queueRequestList requests)) := by
  have appended : (w.queue.perform (.queueRequestList requests)).appended=
      w.queue.appended++requests := rfl
  have origins : (w.perform (.queueRequestList requests)).origins=
      w.origins++List.replicate requests.length none := by
    simp [perform,appended,origin]
  have repeating : (w.perform (.queueRequestList requests)).repeating=w.repeating := rfl
  have ended : (w.perform (.queueRequestList requests)).ended=w.ended := by
    simp [perform,storesEnded]
  have length := hi.queue.conserved.length
  have counter := hi.queue.counter
  refine ⟨hq,?_,?_,?_,?_,?_⟩
  · rw [origins]
    show _=(w.queue.perform (.queueRequestList requests)).appended.length
    rw [appended,List.length_append,List.length_append,List.length_replicate,hi.length]
  · rw [origins,repeating]
    intro k other hk
    rcases getElem?_append_replicate.mp hk with old|⟨same,-⟩
    · exact hi.installed k other old
    · cases same
  · intro p hp bound
    rcases List.mem_append.mp hp with old|new
    · exact hi.queued p old bound
    · simp only [storesQueued] at new
      split_ifs at new with empty
      · cases new
      · rw [List.mem_singleton.mp new] at bound ⊢
        have some : 0 < requests.length := List.length_pos_iff.mpr empty
        simp only [List.length_append] at bound
        simp only [queueRequestList,List.length_append]
        omega
  · rw [origins,repeating]
    obtain ⟨paused,same⟩ := resume_eq
      { w.queue.handler with requests := w.queue.handler.requests++requests }
    have last : (w.queue.perform (.queueRequestList requests)).handler.streamingLastFrameNumber=
        w.queue.handler.streamingLastFrameNumber := by
      simp only [QueueWorld.perform,queueRequestList,same]
    show LastOf _ _ (w.queue.perform (.queueRequestList requests)).handler.streamingLastFrameNumber
    rw [last]
    exact hi.present.append fun h => by cases h
  · rw [origins,repeating,ended]
    intro e he
    obtain ⟨before,value⟩ := hi.ended e he
    exact ⟨before,value.append fun h => by cases h⟩

theorem step_inv (hi : Inv w) (step : QueueStep M) (h : Step w step w') : Inv w' := by
  obtain ⟨allowed,rfl⟩ := h
  have hq : (w.queue.perform step).Inv := QueueWorld.step_inv hi.queue step ⟨allowed,rfl⟩
  cases step with
  | queueRequestList requests => exact queue_inv hi hq
  | setRepeatingRequests requests => exact hi.finish hq rfl rfl rfl rfl
  | clearRepeatingRequests => exact hi.finish hq rfl rfl rfl rfl
  | clear => exact hi.finish hq rfl rfl rfl rfl
  | getRequest =>
    cases hg : w.queue.handler.getRequest with
    | none =>
      have same : w.queue.perform .getRequest=w.queue := by simp only [QueueWorld.perform,hg]
      exact hi.keep hq (by rw [same]) (by rw [same]) rfl rfl
    | some got =>
      obtain ⟨next,hn,taken⟩ := QueueWorld.getRequest_next hg
      have same : w.queue.perform .getRequest=w.queue.took got.1 got.2.1 := by
        simp only [QueueWorld.perform,hg]
      exact took_inv hi hq same hn taken rfl rfl rfl
  | getRequestWoken exitPending =>
    rcases w.queue.handler.getRequestWoken_cases exitPending with ⟨paused,l,woken⟩|⟨got,hg,woken⟩
    · have same : w.queue.perform (.getRequestWoken exitPending)=
          { w.queue with handler := { w.queue.handler with pausedState := paused } } := by
        simp only [QueueWorld.perform,woken]
      exact hi.keep hq (by rw [same]) (by rw [same]) rfl rfl
    · obtain ⟨next,hn,taken⟩ := QueueWorld.getRequest_next hg
      have same : w.queue.perform (.getRequestWoken exitPending)=w.queue.took got.1 got.2.1 := by
        simp only [QueueWorld.perform,woken]
      exact took_inv hi hq same hn taken rfl rfl rfl
  | markPendingRequest n =>
    obtain ⟨r,hr⟩ := allowed
    have same : (w.queue.perform (.markPendingRequest n)).appended=w.queue.appended ∧
        (w.queue.perform (.markPendingRequest n)).handler=w.queue.handler := by
      simp only [QueueWorld.perform,hr,and_self]
    exact hi.keep hq same.1 (by rw [same.2]) rfl rfl
  | submitted | notifyShutter | handleCaptureResult | notifyError =>
    exact hi.keep hq rfl rfl rfl rfl

theorem start_inv (hs : Start w) : Inv w := by
  have queue := QueueWorld.start_inv hs.queue
  obtain ⟨monitorId,markCb,handler⟩ := hs.queue.handler
  refine ⟨queue,?_,?_,?_,?_,?_⟩
  · rw [hs.origins,hs.queue.appended]
    rfl
  · intro k list h
    simp [hs.origins] at h
  · intro p hp
    simp [hs.queued] at hp
  · rw [handler,hs.origins]
    exact lastOf_new fun k other h => by simp at h
  · intro e he
    simp [hs.ended] at he

omit [CameraMetadata M] in
theorem Inv.number (hi : Inv w) {k : Nat} {c : Consumption M} (hk : k < 2^32)
    (hc : w.queue.consumed[k]?=some c) : c.frameNumber=k := by
  obtain ⟨a,-,of⟩ := hi.queue.conserved.output hc
  have given : c.frameNumber=k%2^32 := by
    rcases of with rfl|rfl
    · rfl
    · rfl
  rw [given,Nat.mod_eq_of_lt hk]

omit [CameraMetadata M] in
theorem Inv.kept (hi : Inv w) : w.Kept := by
  refine ⟨hi.queue.conserved,?_,?_⟩
  · intro p hp bound
    have value := hi.queued p hp bound
    refine ⟨value,?_⟩
    intro c hc
    rw [value,hi.number bound hc]
  · intro e he
    obtain ⟨none,some⟩ := (hi.ended e he).2
    refine ⟨none,?_⟩
    intro hne
    obtain ⟨k,place,value⟩ := some hne
    refine ⟨k,place,?_⟩
    intro bound
    have last := value bound
    refine ⟨last,?_,?_⟩
    · intro c hc
      rw [last,hi.number bound hc]
    · intro j c hj hc
      have before := place.2 j hj
      rw [last,hi.number (by omega) hc]
      exact_mod_cast before

end Steps

/-- In every run the values stored through lastFrameNumber come true. -/
theorem last_frame_numbers {w w' : PromiseWorld M} {steps : List (QueueStep M)} (hs : Start w)
    (hr : Run Step w steps w') : w'.Kept := by
  have inv : Inv w' := hr.invariant (fun _ step _ hi h => step_inv hi step h) (start_inv hs)
  exact inv.kept

def plainPromises : PromiseWorld PlainMetadata := { queue := QueueWorld.plainQueue }

theorem plainPromises_start : Start plainPromises := ⟨QueueWorld.plainQueue_start,rfl,rfl,rfl⟩

/-- A burst of two is begun, a request queued behind its rest, and the burst's list removed. -/
def promiseSteps : List (QueueStep PlainMetadata) :=
  [.setRepeatingRequests [QueueWorld.plainRequest 7,QueueWorld.plainRequest 7],.getRequest,
    .markPendingRequest 1,.submitted,.queueRequestList [QueueWorld.plainRequest 8],
    .clearRepeatingRequests,.getRequest,.submitted,.getRequest]

theorem last_frame_numbers_burst : ∃ w,Start plainPromises ∧ Run Step plainPromises promiseSteps w ∧
    w.queued=[(2,2)] ∧ w.ended=[(0,-1),(1,1)] ∧ w.Kept := by
  have run : Run Step plainPromises promiseSteps (promiseSteps.foldl perform plainPromises) := by
    apply Run.of_follows (a := fun w step => w.queue.Allowed step) (fun _ _ h => ⟨h,rfl⟩)
    refine ⟨?_,rfl,⟨_,rfl⟩,⟨_,rfl⟩,?_,trivial,rfl,⟨_,rfl⟩,rfl,trivial⟩
    · intro r hr
      simp only [List.mem_cons,List.not_mem_nil,or_false] at hr
      rcases hr with rfl|rfl <;> rfl
    · intro r hr
      cases List.mem_singleton.mp hr
      rfl
  exact ⟨_,plainPromises_start,run,by decide,by decide,last_frame_numbers plainPromises_start run⟩

end PromiseWorld
end IotMedia.Camera
