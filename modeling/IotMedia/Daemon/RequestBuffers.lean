import IotMedia.Camera.SubmitRollback
import IotMedia.Daemon.BufferCircuit

namespace IotMedia.Daemon

open IotMedia.Framework IotMedia.Camera PendingRequests

namespace BufferCircuit

variable {M : Type} {w w' : BufferCircuit M} {h : Handle} {f : Nat} {o : BufferHolder}

/-- The request thread goes on without a buffer, the frames that it asked for being at least those
before. -/
theorem Inv.resting (hi : Inv w) (nothing : w.point.held=none) {point : RequestPoint}
    {asked : List Nat} (still : point.held=none) (more : w.asked ⊆ asked)
    (waits : ∀ {f},point=.waiting f → f∈asked ∧ ∀ h o,w.Holds h o → o.frame≠some f) :
    Inv { w with point := point,asked := asked } ∧
      w.custody.Transfer none
        ({ w with point := point,asked := asked } : BufferCircuit M).custody := by
  have same : ∀ h o,({ w with point := point,asked := asked } : BufferCircuit M).Holds h o ↔
      w.Holds h o := by
    intro h o
    cases o with
    | requestThread f =>
      show point.held=some (f,h) ↔ w.point.held=some (f,h)
      rw [still,nothing]
    | hal | deviceClient | daemon => exact Iff.rfl
  have transfer : w.custody.Transfer none
      ({ w with point := point,asked := asked } : BufferCircuit M).custody := .still rfl same
  refine ⟨{ hi with
    single := hi.single.transfer transfer
    mapped := fun held frame => hi.mapped ((same _ _).mp held) frame
    asked := fun held frame => more (hi.asked ((same _ _).mp held) frame)
    waiting := fun at_ => ⟨(waits at_).1,fun h o held => (waits at_).2 h o ((same h o).mp held)⟩ },
    transfer⟩

/-- GetBuffer fails, and the request thread is where it was before. -/
theorem Inv.refused (hi : Inv w) (nothing : w.point.held=none)
    {r : StreamResult (Int × Option StreamBuffer)} (keeps : w.stream.Keeps r) (failed : r.ret.1≠0)
    (same : r.stream=w.stream) :
    Inv (w.got f r) ∧ w.custody.Transfer none (w.got f r).custody := by
  have map : r.stream.buffersMap=w.stream.buffersMap := congrArg Camera3Stream.buffersMap same
  have holds : ∀ h o,(w.got f r).Holds h o ↔ w.Holds h o := by
    intro h o
    cases o with
    | requestThread g =>
      show (if r.ret.1≠0 then RequestPoint.idle else _).held=some (g,h) ↔ _
      rw [if_pos failed,Holds,nothing]
      rfl
    | deviceClient g =>
      show w.client.heldFor g≠[] ∧ r.stream.buffersMap g=some h ↔ _
      rw [map]
      rfl
    | hal | daemon => exact Iff.rfl
  have used : (w.got f r).custody.used=w.custody.used := congrArg Camera3Stream.held same
  have transfer : w.custody.Transfer none (w.got f r).custody := .still used holds
  refine ⟨{ hi with
    owned := keeps.owned
    status := (congrArg Camera3Stream.status same).trans hi.status
    pool := hi.pool_after keeps
    single := hi.single.transfer transfer
    mapped := ?_
    asked := fun held frame => hi.asked ((holds _ _).mp held) frame
    waiting := ?_
    entries := ?_ },transfer⟩
  · intro h o g held frame
    show r.stream.buffersMap g=some h
    rw [map]
    exact hi.mapped ((holds _ _).mp held) frame
  · intro g at_
    rw [got,if_pos failed] at at_
    cases at_
  · intro g some_
    show ∃ h,r.stream.buffersMap g=some h
    rw [map]
    exact hi.entries g some_

/-- The buffer of GetBuffer goes to the request thread, for a frame that nobody has yet. -/
theorem Inv.acquired (hi : Inv w) (asked : f∈w.asked) (new : ∀ h o,w.Holds h o → o.frame≠some f)
    (nothing : w.point.held=none) {r : StreamResult (Int × Option StreamBuffer)}
    (keeps : w.stream.Keeps r) (ok : r.ret.1=0) (buffer : r.ret.2.bind StreamBuffer.buffer=some h)
    (handed : Submission.HandedFrom f w.stream r.stream h) :
    Inv (w.got f r) ∧ w.custody.Transfer none (w.got f r).custody := by
  have none_held : w.client.heldFor f=[] := by
    by_contra some_
    obtain ⟨q,mapped⟩ := hi.entries f some_
    exact new q (.deviceClient f) ⟨some_,mapped⟩ rfl
  have point : (w.got f r).point=.acquired f h := by
    simp [got,after,ok,buffer]
  have map : ∀ g : Nat,g≠f → r.stream.buffersMap g=w.stream.buffersMap g := by
    intro g other
    rw [handed.map,Function.update_of_ne]
    exact fun same => other (by exact_mod_cast same)
  have here : r.stream.buffersMap f=some h := by
    rw [handed.map,Function.update_self]
  have holds : ∀ q o,(w.got f r).Holds q o ↔ w.Holds q o ∨ q=h ∧ o=.requestThread f := by
    intro q o
    cases o with
    | requestThread g =>
      show (w.got f r).point.held=some (g,q) ↔ w.point.held=some (g,q) ∨ _
      rw [point,nothing]
      constructor
      · intro same
        cases same
        exact .inr ⟨rfl,rfl⟩
      · rintro (other|⟨rfl,same⟩)
        · cases other
        · cases same
          rfl
    | deviceClient g =>
      have entry : r.stream.buffersMap g=some q ∧ w.client.heldFor g≠[] ↔
          w.stream.buffersMap g=some q ∧ w.client.heldFor g≠[] := by
        by_cases same : g=f
        · rw [same]
          simp [none_held]
        · rw [map g same]
      simp only [reduceCtorEq,and_false,or_false]
      exact and_comm.trans (entry.trans and_comm)
    | hal g | daemon g =>
      simp only [reduceCtorEq,and_false,or_false]
      exact Iff.rfl
  have transfer : w.custody.Transfer none (w.got f r).custody :=
    .take handed.free handed.held holds
  refine ⟨{ hi with
    owned := keeps.owned
    status := handed.configured
    pool := hi.pool_after keeps
    single := hi.single.transfer transfer
    mapped := ?_
    asked := ?_
    waiting := ?_
    entries := ?_ },transfer⟩
  · intro q o g held frame
    show r.stream.buffersMap g=some q
    rcases (holds q o).mp held with old|⟨rfl,rfl⟩
    · rw [map g fun same => new q o old (same ▸ frame)]
      exact hi.mapped old frame
    · cases frame
      exact here
  · intro q o g held frame
    rcases (holds q o).mp held with old|⟨rfl,rfl⟩
    · exact hi.asked old frame
    · cases frame
      exact asked
  · intro g at_
    rw [point] at at_
    cases at_
  · intro g some_
    have other : g≠f := fun same => some_ (same ▸ none_held)
    show ∃ q,r.stream.buffersMap g=some q
    rw [map g other]
    exact hi.entries g some_

/-- GetBuffer fails, or its buffer goes to the request thread. -/
theorem got_next (hi : Inv w) (asked : f∈w.asked) (new : ∀ h o,w.Holds h o → o.frame≠some f)
    (nothing : w.point.held=none) {r : StreamResult (Int × Option StreamBuffer)}
    (keeps : w.stream.Keeps r) (acquires : Acquires w.stream f r) :
    Inv (w.got f r) ∧ w.custody.Transfer none (w.got f r).custody := by
  rcases acquires with ⟨failed,same⟩|⟨ok,h,buffer,handed⟩
  · exact hi.refused nothing keeps failed same
  · exact hi.acquired asked new nothing keeps ok buffer handed

theorem getBuffer_next [CameraMetadata M] {u : BufferUsage} {alloc : Option Handle} (hi : Inv w)
    (h : Step u w (.getBuffer f alloc) w') : Inv w' ∧ w.custody.Transfer none w'.custody := by
  obtain ⟨⟨fresh,answer⟩,done⟩ := h
  have new : ∀ h o,w.Holds h o → o.frame≠some f := fun h o held frame => fresh (hi.asked held frame)
  simp only [perform] at done
  split_ifs at done with idle waits
  · cases done
    refine hi.resting (by rw [idle]; rfl) rfl (List.subset_cons_self f _) fun at_ => ?_
    cases at_
    exact ⟨List.mem_cons_self,new⟩
  · cases done
    have nothing : w.point.held=none := by
      rw [idle]
      rfl
    obtain ⟨before,same⟩ := hi.resting nothing nothing (List.subset_cons_self f _) fun at_ => by
      rw [idle] at at_
      cases at_
    obtain ⟨inv,transfer⟩ := got_next before List.mem_cons_self new nothing
      (Camera3Stream.getBuffer_keeps u hi.owned f 0 alloc answer)
      (getBuffer_acquires u hi.owned f 0 alloc answer)
    exact ⟨inv,transfer⟩

theorem wakeGetBuffer_next [CameraMetadata M] {u : BufferUsage} {waitRes : Int}
    {alloc : Option Handle} (hi : Inv w) (h : Step u w (.wakeGetBuffer waitRes alloc) w') :
    Inv w' ∧ w.custody.Transfer none w'.custody := by
  obtain ⟨answer,done⟩ := h
  simp only [perform] at done
  split at done
  next f at_ =>
    cases done
    obtain ⟨asked,new⟩ := hi.waiting at_
    exact got_next hi asked new (by rw [at_]; rfl)
      (Camera3Stream.getBufferWoken_keeps u hi.owned f waitRes alloc answer)
      (getBufferWoken_acquires u hi.owned hi.status f waitRes alloc answer)
  · cases done

/-- The request thread goes on with its buffer. -/
theorem Inv.goesOn (hi : Inv w) {client : PendingRequests M} {point : RequestPoint}
    (keeps : point.held=w.point.held) (some_ : point.held≠none)
    (held : ∀ g,client.heldFor g=w.client.heldFor g)
    (timed : ∀ g r,client.pendingRequests.valueFor g=some r → r.shutterTS≠0 → r.pendingBuffers=[])
    (within : client.Within {w.id}) : Inv { w with client := client,point := point } ∧
      w.custody.Transfer none
        ({ w with client := client,point := point } : BufferCircuit M).custody := by
  have same : ∀ h o,({ w with client := client,point := point } : BufferCircuit M).Holds h o ↔
      w.Holds h o := by
    intro h o
    cases o with
    | requestThread f =>
      show point.held=some (f,h) ↔ w.point.held=some (f,h)
      rw [keeps]
    | deviceClient f =>
      show client.heldFor f≠[] ∧ _ ↔ w.client.heldFor f≠[] ∧ _
      rw [held]
    | hal | daemon => exact Iff.rfl
  have transfer : w.custody.Transfer none
      ({ w with client := client,point := point } : BufferCircuit M).custody := .still rfl same
  refine ⟨{ hi with
    single := hi.single.transfer transfer
    mapped := fun held frame => hi.mapped ((same _ _).mp held) frame
    asked := fun held frame => hi.asked ((same _ _).mp held) frame
    waiting := ?_
    entries := ?_
    one := ?_
    timed := timed
    within := within },transfer⟩
  · intro f at_
    exact absurd (congrArg RequestPoint.held at_) some_
  · intro f now
    refine hi.entries f ?_
    rw [← held]
    exact now
  · intro f
    rw [held]
    exact hi.one f

/-- A failed request keeps its buffer up to HandleErrorRequest. -/
theorem Inv.fails (hi : Inv w) (at_ : w.point.held=some (f,h)) :
    Inv { w with point := .failed f h } ∧
      w.custody.Transfer none ({ w with point := .failed f h } : BufferCircuit M).custody :=
  hi.goesOn at_.symm (by simp [RequestPoint.held]) (fun _ => rfl) hi.timed hi.within

theorem markPendingRequest_next [CameraMetadata M] {u : BufferUsage} {registered : Bool}
    {resultExtras : CaptureResultExtras} (hi : Inv w)
    (h : Step u w (.markPendingRequest registered resultExtras) w') :
    Inv w' ∧ w.custody.Transfer none w'.custody := by
  obtain ⟨-,done⟩ := h
  simp only [perform] at done
  split at done
  next f h at_ =>
    have held : w.point.held=some (f,h) := by
      rw [at_]
      rfl
    split_ifs at done
    · cases done
      refine hi.goesOn held.symm (by simp [RequestPoint.held]) ?_ ?_ ?_
      · exact fun g => markPendingRequest_heldFor f g 1 resultExtras
      · exact fun g => receive_timed (.markPendingRequest f 1 resultExtras) (hi.timed g)
      · exact markPendingRequest_stays hi.within f 1 resultExtras
    · cases done
      exact hi.fails held
  · cases done

theorem processCaptureRequest_next [CameraMetadata M] {u : BufferUsage} {accepted : Bool}
    (hi : Inv w) (h : Step u w (.processCaptureRequest accepted) w') :
    Inv w' ∧ w.custody.Transfer none w'.custody := by
  obtain ⟨-,done⟩ := h
  simp only [perform] at done
  split at done
  next f h at_ =>
    have held : w.point.held=some (f,h) := by
      rw [at_]
      rfl
    split_ifs at done
    · cases done
      have thread : w.Holds h (.requestThread f) := held
      have holds : ∀ q o,({ w with hal := w.hal++[(f,h)],point := .idle } : BufferCircuit M).Holds
          q o ↔ w.Holds q o ∧ q≠h ∨ q=h ∧ o=.hal f := by
        intro q o
        rw [← hi.away thread]
        cases o with
        | requestThread g =>
          show none=some (g,q) ↔ _
          have own : w.Holds q (.requestThread g) → BufferHolder.requestThread g=.requestThread f :=
            fun other => by
              have same : w.point.held=some (g,q) := other
              rw [held] at same
              cases same
              rfl
          simpa using own
        | hal g =>
          show (g,q)∈w.hal++[(f,h)] ↔ _
          simp [Holds,and_comm]
        | deviceClient g | daemon g =>
          simp only [reduceCtorEq,ne_eq,not_false_eq_true,and_true,and_false,or_false]
          exact Iff.rfl
      have transfer : w.custody.Transfer none
          ({ w with hal := w.hal++[(f,h)],point := .idle } : BufferCircuit M).custody :=
        .move (p := .requestThread f) thread rfl holds
      refine ⟨{ hi with
        single := hi.single.transfer transfer
        mapped := ?_
        asked := ?_
        waiting := fun at_ => by cases at_ },transfer⟩
      · intro q o g held frame
        rcases (holds q o).mp held with ⟨old,-⟩|⟨rfl,rfl⟩
        · exact hi.mapped old frame
        · exact hi.mapped thread frame
      · intro q o g held frame
        rcases (holds q o).mp held with ⟨old,-⟩|⟨rfl,rfl⟩
        · exact hi.asked old frame
        · exact hi.asked thread frame
    · cases done
      exact hi.fails held
  · cases done

/-- HandleErrorRequest gives the buffer back and takes the frame out of buffers_map. -/
theorem handleErrorRequest_next [CameraMetadata M] {u : BufferUsage} (hi : Inv w)
    (h : Step u w .handleErrorRequest w') : Inv w' ∧ w.custody.Transfer none w'.custody := by
  obtain ⟨-,done⟩ := h
  simp only [perform] at done
  split at done
  swap
  · cases done
  next f h at_ =>
    cases done
    have thread : w.Holds h (.requestThread f) := by
      rw [Holds,at_]
      rfl
    have entry : w.stream.buffersMap f=some h := hi.mapped thread rfl
    have holds : ∀ q o,({ w with point := .idle } : BufferCircuit M).Holds q o ↔
        w.Holds q o ∧ q≠h := by
      intro q o
      rw [← hi.away thread]
      cases o with
      | requestThread g =>
        show none=some (g,q) ↔ _
        refine iff_of_false (by simp) fun ⟨other,away⟩ => away ?_
        have same : w.point.held=some (g,q) := other
        rw [at_] at same
        cases same
        rfl
      | hal g | deviceClient g | daemon b =>
        simp only [ne_eq,reduceCtorEq,not_false_eq_true,and_true]
        exact Iff.rfl
    have loses : w.custody.Transfer (some h)
        ({ w with point := .idle } : BufferCircuit M).custody :=
      .lose (p := .requestThread f) thread rfl holds
    -- between the thread and the stream the buffer is nobody's
    have left : Inv { w with point := .idle } := { hi with
      single := hi.single.transfer loses
      mapped := fun held frame => hi.mapped ((holds _ _).mp held).1 frame
      asked := fun held frame => hi.asked ((holds _ _).mp held).1 frame
      waiting := fun at_ => by cases at_ }
    have returned : Submission.returnMapped f w.stream=Camera3Stream.returnBuffer { w.stream with
        buffersMap := Function.update w.stream.buffersMap f none } (some h) := by
      rw [Submission.returnMapped,entry]
    obtain ⟨inv,same,used⟩ := left.returned (s := { w.stream with
        buffersMap := Function.update w.stream.buffersMap f none }) (hi.inUse thread)
      (fun o held => ((holds h o).mp held).2 rfl) ⟨rfl,rfl,rfl,rfl,rfl⟩ rfl
      (fun g q mapped other => by
        have away : (g : Int)≠f := by
          intro frame
          have known : w.stream.buffersMap g=some q := mapped
          rw [frame,entry] at known
          exact other (Option.some.inj known).symm
        show Function.update w.stream.buffersMap f none g=some q
        rw [Function.update_of_ne away]
        exact mapped)
    rw [returned]
    exact ⟨inv,.giveBack (p := .requestThread f) thread used fun q o =>
      (same q o).trans (holds q o)⟩

section SubmitRequest

/-! The steps of the request thread are those of SubmitRequest. -/

variable [CameraMetadata M] {u : BufferUsage} {env : SubmitEnv} {s : Submission M}
  {next : CaptureRequest M}

/-- GetBuffer of the request thread, when nothing else runs while it waits. -/
def acquireSteps (s : Camera3Stream) (env : SubmitEnv) (f : Nat) : List CircuitStep :=
  if s.status=.configured ∧ s.mustWait then
    [.getBuffer f (env.alloc 0),.wakeGetBuffer (env.waitRes 0) (env.alloc 0)]
  else [.getBuffer f (env.alloc 0)]

/-- SubmitRequest of a request for one buffer, as the steps of the circuit. -/
def submitSteps (u : BufferUsage) (env : SubmitEnv) (s : Submission M) (id : Int)
    (resultExtras : CaptureResultExtras) : List CircuitStep :=
  acquireSteps (s.streams id) env resultExtras.frameNumber++
    if (Submission.getBuffer u env resultExtras.frameNumber 0 (s.streams id)).ret.1≠0 then []
    else if s.handler.markCb=false ∨ env.markRes<0 then
      [.markPendingRequest false resultExtras,.handleErrorRequest]
    else .markPendingRequest true resultExtras::if env.processed then [.processCaptureRequest true]
      else [.processCaptureRequest false,.handleErrorRequest]

theorem acquireSteps_exec (idle : w.point=.idle) (env : SubmitEnv) (f : Nat) :
    exec (perform u) w (acquireSteps w.stream env f)=
      some (({ w with asked := f::w.asked } : BufferCircuit M).got f
        (Submission.getBuffer u env f 0 w.stream)) := by
  unfold acquireSteps
  split_ifs with waits
  · have woken : Submission.getBuffer u env f 0 w.stream=
        w.stream.getBufferWoken u f (env.waitRes 0) (env.alloc 0) := by
      simp [Submission.getBuffer,Camera3Stream.getBuffer,waits.1,waits.2]
    simp [exec,perform,idle,waits.1,waits.2,woken]
    rfl
  · have straight : Submission.getBuffer u env f 0 w.stream=
        w.stream.getBuffer u f 0 (env.alloc 0) := by
      unfold Submission.getBuffer Camera3Stream.getBuffer
      split_ifs with closed full
      · rfl
      · exact absurd ⟨not_not.mp closed,full⟩ waits
      · rfl
    rw [straight]
    simp only [exec,perform,if_pos idle,if_neg waits,Option.bind_some]

omit [CameraMetadata M] in
theorem handed_some {s : Camera3Stream} {f : Nat} {alloc : Option Handle}
    {r : StreamResult (Int × Option StreamBuffer)}
    (outcome : s.BufferOutcome u alloc (some f) r) (ok : r.ret.1=0) :
    ∃ b h,r.ret.2=some b ∧ b.buffer=some h := by
  have nosys : -ENOSYS≠0 := by decide
  have nomem : -ENOMEM≠0 := by decide
  cases outcome with
  | refused | unplaced | full => exact absurd ok nosys
  | unanswered => exact absurd ok nomem
  | reuses => exact ⟨_,_,rfl,rfl⟩
  | allocates active answer room handed =>
    subst handed
    exact ⟨_,_,rfl,rfl⟩

/-- GetBuffer that succeeds gives a buffer. -/
theorem getBuffer_some {f k : Nat} {s : Camera3Stream}
    (ok : (Submission.getBuffer u env f k s).ret.1=0) :
    ∃ b h,(Submission.getBuffer u env f k s).ret.2=some b ∧ b.buffer=some h := by
  have nosys : -ENOSYS≠0 := by decide
  unfold Submission.getBuffer Camera3Stream.getBuffer Camera3Stream.getBufferWoken at ok ⊢
  split_ifs at ok ⊢ with closed full failed
  · exact absurd ok nosys
  · exact absurd ok failed
  · exact handed_some (s.getBufferLocked_outcome u (some f) (env.alloc k)) ok
  · exact handed_some (s.getBufferLocked_outcome u (some f) (env.alloc k)) ok

section Tail

variable {v : BufferCircuit M} {f : Nat} {h : Handle}

theorem failed_exec (at_ : v.point=.acquired f h) (extras : CaptureResultExtras) :
    exec (perform u) v [.markPendingRequest false extras,.handleErrorRequest]=
      some { v.after (Submission.returnMapped f v.stream) with point := .idle } := by
  simp only [exec,perform,at_]
  rfl

theorem accepted_exec (at_ : v.point=.acquired f h) (extras : CaptureResultExtras) :
    exec (perform u) v [.markPendingRequest true extras,.processCaptureRequest true]=
      some { v with
        client := v.client.markPendingRequest f 1 extras
        hal := v.hal++[(f,h)]
        point := .idle } := by
  simp only [exec,perform,at_]
  rfl

theorem rejected_exec (at_ : v.point=.acquired f h) (extras : CaptureResultExtras) :
    exec (perform u) v
      [.markPendingRequest true extras,.processCaptureRequest false,.handleErrorRequest]=
      some { v.after (Submission.returnMapped f v.stream) with
        client := v.client.markPendingRequest f 1 extras
        point := .idle } := by
  simp only [exec,perform,at_]
  rfl

end Tail

/-- SubmitRequest of a request for one buffer is these steps, nothing coming in between. -/
theorem submitRequest_exec (one : next.streams=[w.id]) (stream : s.streams w.id=w.stream)
    (client : s.client=w.client) (idle : w.point=.idle) :
    ∃ w',exec (perform u) w (submitSteps u env s w.id next.resultExtras)=some w' ∧
      w'.point=.idle ∧ w'.stream=(s.submitRequest u env next).state.streams w.id ∧
      w'.client=(s.submitRequest u env next).state.client ∧
      w'.hal.map Prod.fst=w.hal.map Prod.fst++
        if (s.submitRequest u env next).outcome=.accepted then [next.resultExtras.frameNumber]
        else [] := by
  obtain ⟨⟨old,handler⟩,m,request⟩ := Submission.chooseSettings_same s.handler next
  unfold submitSteps Submission.submitRequest
  rw [stream]
  simp only [exec_append,acquireSteps_exec idle,Option.bind_some,handler,request,one,
    Submission.acquireBuffers,stream]
  by_cases ok : (Submission.getBuffer u env next.resultExtras.frameNumber 0 w.stream).ret.1=0
  swap
  · simp only [ne_eq,ok,not_false_eq_true,if_true]
    refine ⟨_,rfl,?_,?_,?_,?_⟩
    · simp [got,ok]
    · simp [got,after,Submission.handleErrorRequest,Submission.returnAll]
    · exact client.symm
    · simp [got,after]
  obtain ⟨b,h,buffer,handle⟩ := getBuffer_some ok
  generalize Submission.getBuffer u env next.resultExtras.frameNumber 0 w.stream=r at ok buffer ⊢
  have point : (({ w with asked := next.resultExtras.frameNumber::w.asked } :
      BufferCircuit M).got next.resultExtras.frameNumber r).point=
        .acquired next.resultExtras.frameNumber h := by
    simp [got,ok,buffer,handle]
  -- HandleErrorRequest returns the one buffer
  have returned : (Submission.returnAll (M := M) next.resultExtras.frameNumber [w.id]
      (Function.update s.streams w.id r.stream)).1 w.id=
        (Submission.returnMapped next.resultExtras.frameNumber r.stream).stream := by
    simp [Submission.returnAll]
  simp only [ne_eq,ok,not_true_eq_false,if_false,buffer,Option.toList_some,List.append_nil]
  by_cases fails : s.handler.markCb=false ∨ env.markRes<0
  · rw [if_pos fails,failed_exec point]
    refine ⟨_,rfl,rfl,?_⟩
    rcases fails with missing|negative
    · rw [if_pos missing]
      exact ⟨returned.symm,client.symm,by simp [got,after]⟩
    · by_cases missing : s.handler.markCb=false
      · rw [if_pos missing]
        exact ⟨returned.symm,client.symm,by simp [got,after]⟩
      · rw [if_neg missing,if_pos negative]
        exact ⟨returned.symm,client.symm,by simp [got,after]⟩
  obtain ⟨registered,accepted⟩ := not_or.mp fails
  rw [if_neg fails,if_neg registered,if_neg accepted]
  by_cases processed : env.processed=true
  · rw [if_pos processed,accepted_exec point]
    refine ⟨_,rfl,rfl,?_⟩
    rw [if_pos processed]
    refine ⟨?_,?_,?_⟩
    · simp [got,after]
    · rw [client]
      rfl
    · simp [got,after]
  · rw [if_neg processed,rejected_exec point]
    refine ⟨_,rfl,rfl,?_⟩
    rw [if_neg processed]
    refine ⟨returned.symm,?_,?_⟩
    · rw [client]
      rfl
    · simp [got,after]

end SubmitRequest

end BufferCircuit
end IotMedia.Daemon
